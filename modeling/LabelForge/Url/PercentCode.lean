import LabelForge.Text.Hex

/-!
# LabelForge.Url.PercentCode

**Bytes of an address written by number.** A byte that must not stand in a part of an address is
written as a percent sign and two hexadecimal digits. Which bytes these are depends on the part.
-/

namespace LabelForge.Url

open Text (Bytes)

/-- Whether a byte must not stand anywhere in an address. -/
def isControl (b : UInt8) : Bool :=
  b < 0x20 || 0x7E < b

/-- Whether a byte is one of some ASCII characters. -/
def isOneOf (cs : String) (b : UInt8) : Bool :=
  cs.toList.any fun c => c.toNat == b.toNat

/-- Whether a byte must not stand in a fragment. -/
def isBarredInFragment (b : UInt8) : Bool :=
  isControl b || isOneOf " \"<>\x60" b

/-- Whether a byte must not stand in a query; an address of a special scheme bars one more. -/
def isBarredInQuery (isSpecial : Bool) (b : UInt8) : Bool :=
  isControl b || isOneOf " \"#<>" b || (isSpecial && isOneOf "\x27" b)

/-- Whether a byte must not stand in a path. -/
def isBarredInPath (b : UInt8) : Bool :=
  isBarredInFragment b || isOneOf "#?\x7b\x7d" b

/-- Whether a byte must not stand in the name or the password of a user. -/
def isBarredInUser (b : UInt8) : Bool :=
  isBarredInPath b || isOneOf "/:;=@[\\]^|" b

/-- The digit of a value, in upper case. -/
def upperDigit (value : Nat) : Char :=
  if value < 10 then Char.ofNat ('0'.toNat + value) else Char.ofNat ('A'.toNat + (value - 10))

/-- A byte, written by number if it is barred. -/
def percentByte (isBarred : UInt8 → Bool) (b : UInt8) : List Char :=
  if isBarred b then ['%', upperDigit (b.toNat / 16), upperDigit (b.toNat % 16)]
  else [Char.ofNat b.toNat]

/-- A text in which the bytes that are barred are written by number. -/
def percentEncode (isBarred : UInt8 → Bool) (cs : List Char) : List Char :=
  (Text.bytesOf (.ofList cs)).flatMap (percentByte isBarred)

/-- The value of a byte that is a hexadecimal digit. -/
def digitOf? (b : UInt8) : Option Nat :=
  Text.hexValue? (Char.ofNat b.toNat)

/-- The bytes of a text in which bytes are written by number. A percent sign without two digits
behind it stands for itself. -/
def percentDecode : Bytes → Bytes
  | [] => []
  | b :: bs =>
    match b, bs with
    | 0x25, high :: low :: rest =>
      match digitOf? high, digitOf? low with
      | some high, some low => UInt8.ofNat (high * 16 + low) :: percentDecode rest
      | _, _ => b :: percentDecode (high :: low :: rest)
    | b, bs => b :: percentDecode bs

/-- The text that is left when no byte is written by number, if it is text. -/
def percentText? (cs : List Char) : Option (List Char) :=
  (Text.textOf? (percentDecode (Text.bytesOf (.ofList cs)))).map String.toList

end LabelForge.Url
