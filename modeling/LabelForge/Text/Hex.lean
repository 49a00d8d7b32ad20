import LabelForge.Text.Utf8

/-!
# LabelForge.Text.Hex

**Bytes as pairs of hexadecimal digits.**
-/

namespace LabelForge.Text

/-- The value of a hexadecimal digit. -/
def hexValue? (c : Char) : Option Nat :=
  if c.isDigit then some (c.toNat - '0'.toNat)
  else if 'a' ≤ c && c ≤ 'f' then some (c.toNat - 'a'.toNat + 10)
  else if 'A' ≤ c && c ≤ 'F' then some (c.toNat - 'A'.toNat + 10)
  else none

/-- The bytes of digit pairs, in upper or lower case. -/
def bytesOfHexChars? : List Char → Option Bytes
  | [] => some []
  | high :: low :: rest => do
    let high ← hexValue? high
    let low ← hexValue? low
    return UInt8.ofNat (high * 16 + low) :: (← bytesOfHexChars? rest)
  | _ => none

/-- The bytes of a text of digit pairs, in upper or lower case. -/
def bytesOfHex? (s : String) : Option Bytes :=
  bytesOfHexChars? s.toList

end LabelForge.Text
