import LabelForge.Number.Decimal
import LabelForge.Shell.Arithmetic
import LabelForge.Text.Utf8

/-!
# LabelForge.Shell.Printf

**Formats.** A format is a list of pieces: bytes that are printed as they are, and conversions
that take an argument each. It is used again and again until no argument is left.

Design points:

* The format is read to pieces before anything is printed. What is no conversion is a piece too,
  because printing goes well up to it.
* A conversion without an argument gets the empty text, or zero.
-/

namespace LabelForge.Shell

open Text (Bytes)
open Number

/-- What a conversion does with its argument. -/
inductive Conversion where
  | text
  /-- A text with escapes. -/
  | escaped
  | char
  /-- A signed number. -/
  | signed
  /-- A number in a base, with large letters or small ones. -/
  | unsigned (base : Nat) (upper : Bool)
  /-- A number with a fixed number of decimals. -/
  | fixed
  deriving DecidableEq, Repr

/-- A number in a format, which may be an argument. -/
inductive Size where
  | known (n : Nat)
  | argument
  deriving DecidableEq, Repr

/-- How a conversion is laid out. -/
structure Layout where
  left : Bool := false
  zeros : Bool := false
  plus : Bool := false
  blank : Bool := false
  alternative : Bool := false
  width : Size := .known 0
  precision : Option Size := none
  deriving DecidableEq, Repr

/-- A piece of a format. -/
inductive FormatPiece where
  | bytes (b : Bytes)
  | convert (layout : Layout) (c : Conversion)
  /-- The start of a conversion that does not exist. -/
  | unknown (text : String)
  /-- The format ends within a conversion. -/
  | unfinished
  deriving DecidableEq, Repr

namespace Format

/-- The bytes of a character. -/
def charBytes (c : Char) : Bytes := Text.bytesOf c.toString

/-- The characters behind a backslash that stand for one byte. -/
def letterEscapes : List (Char × UInt8) := [
  ('n', 10), ('t', 9), ('r', 13), ('a', 7), ('b', 8), ('e', 27), ('f', 12), ('v', 11), ('\\', 92)]

/-- Whether a character is an octal digit. -/
def isOctal (c : Char) : Bool := '0' ≤ c && c ≤ '7'

/-- The byte of octal digits. -/
def octal (digits : List Char) : UInt8 :=
  (digits.foldl (fun n (c : Char) => n * 8 + (c.toNat - 48)) 0).toUInt8

/-- Reads what stands behind a backslash: the bytes and what follows. `zeroFirst` tells that octal
numbers may start with a zero of their own. -/
def escape (zeroFirst : Bool) (cs : List Char) : Bytes × List Char :=
  match cs with
  | [] => ([92], [])
  | c :: rest =>
    match letterEscapes.lookup c with
    | some b => ([b], rest)
    | none =>
      let start := if zeroFirst && c == '0' then rest else cs
      let digits := (start.takeWhile isOctal).take 3
      if !isOctal c then (92 :: charBytes c, rest)
      else ([octal digits], start.drop digits.length)

/-- The bytes of a text with escapes, and whether printing goes on. -/
def unescape : Nat → List Char → Bytes × Bool
  | 0, _ => ([], true)
  | _ + 1, [] => ([], true)
  | _ + 1, '\\' :: 'c' :: _ => ([], false)
  | n + 1, '\\' :: cs =>
    let (b, rest) := escape true cs
    let (more, goesOn) := unescape n rest
    (b ++ more, goesOn)
  | n + 1, c :: cs =>
    let (more, goesOn) := unescape n cs
    (charBytes c ++ more, goesOn)

/-- The bytes of a text with escapes, and whether printing goes on. -/
def unescapeText (s : String) : Bytes × Bool := unescape (s.length + 1) s.toList

/-- The conversion of a letter. -/
def conversion? : Char → Option Conversion
  | 's' => some .text
  | 'b' => some .escaped
  | 'c' => some .char
  | 'd' => some .signed
  | 'i' => some .signed
  | 'u' => some (.unsigned 10 false)
  | 'o' => some (.unsigned 8 false)
  | 'x' => some (.unsigned 16 false)
  | 'X' => some (.unsigned 16 true)
  | 'f' => some .fixed
  | 'F' => some .fixed
  | _ => none

/-- Reads a number of a format; returns what follows it. -/
def size (cs : List Char) : Size × List Char :=
  match cs with
  | '*' :: cs => (.argument, cs)
  | cs =>
    let digits := cs.takeWhile Char.isDigit
    (.known (digitsValue digits), cs.drop digits.length)

/-- Reads the layout of a conversion; returns what follows it. -/
def layout (cs : List Char) : Layout × List Char :=
  let flags := cs.takeWhile fun c => c == '-' || c == '0' || c == '+' || c == ' ' || c == '#'
  let (width, cs) := size (cs.drop flags.length)
  let base : Layout := {
    left := flags.contains '-', zeros := flags.contains '0', plus := flags.contains '+'
    blank := flags.contains ' ', alternative := flags.contains '#', width }
  match cs with
  | '.' :: cs =>
    let (precision, cs) := size cs
    ({ base with precision := some precision }, cs)
  | cs => (base, cs)

/-- The pieces of a format. -/
def pieces : Nat → List Char → List FormatPiece
  | 0, _ => []
  | _ + 1, [] => []
  | n + 1, '\\' :: cs =>
    let (b, rest) := escape false cs
    .bytes b :: pieces n rest
  | n + 1, '%' :: '%' :: cs => .bytes [37] :: pieces n cs
  | n + 1, '%' :: cs =>
    match layout cs with
    | (l, c :: rest) =>
      match conversion? c with
      | some k => .convert l k :: pieces n rest
      | none => [.unknown (.ofList ('%' :: cs.take (cs.length - rest.length)))]
    | (_, []) => [.unfinished]
  | n + 1, c :: cs => .bytes (charBytes c) :: pieces n cs

/-! ### Printing -/

/-- How far printing has come. -/
structure Progress where
  /-- The arguments that are left. -/
  arguments : List String
  bytes : Bytes := []
  /-- What is wrong with arguments, the last message first. -/
  complaints : List String := []
  deriving DecidableEq, Repr

/-- Why printing ends before the end of the format. -/
inductive Halt where
  /-- An argument asks for it. -/
  | asked
  | fault (message : String)
  deriving DecidableEq, Repr

/-- A step of printing. -/
abbrev Printing := ExceptT Halt (StateM Progress)

namespace Printing

/-- Prints bytes. -/
def out (b : Bytes) : Printing Unit := modify fun p => { p with bytes := p.bytes ++ b }

/-- Tells what is wrong with an argument. -/
def complain (argument what : String) : Printing Unit :=
  modify fun p => { p with complaints := s!"{argument}: {what}" :: p.complaints }

/-- Takes an argument. -/
def next? : Printing (Option String) := do
  let p ← get
  set { p with arguments := p.arguments.drop 1 }
  return p.arguments.head?

/-- Complains about what is left of an argument behind its number. -/
def checkRest (argument : String) (rest : List Char) : Printing Unit := do
  if rest.isEmpty then return
  complain argument (if rest.length == argument.length then "expected numeric value"
    else "not completely converted")

/-- The sign of a number, and what follows. -/
def sign (cs : List Char) : Bool × List Char :=
  match cs.dropWhile Char.isWhitespace with
  | '-' :: cs => (true, cs)
  | '+' :: cs => (false, cs)
  | cs => (false, cs)

/-- Takes an argument that is a number. Signed numbers have a sign, and the others are counted
modulo the size of a word. -/
def nextNumber (signed : Bool) : Printing Int := do
  let some argument ← next? | return 0
  match argument.toList with
  | '"' :: c :: _ => return ((charBytes c).headD 0).toNat
  | '\x27' :: c :: _ => return ((charBytes c).headD 0).toNat
  | all =>
    let (negative, cs) := sign all
    if !cs.head?.any Char.isDigit then
      checkRest argument all
      return 0
    let (n, rest) := Arithmetic.number cs
    let i : Int := if negative then -n else n
    let fits := if signed then Arithmetic.clamp i == i else n < 2 ^ 64
    if !rest.isEmpty then checkRest argument rest
    else if !fits then complain argument "Numerical result out of range"
    return if signed then Arithmetic.clamp i else if fits then i % 2 ^ 64 else 2 ^ 64 - 1

/-- Takes an argument that is a decimal. -/
def nextDecimal : Printing Double := do
  let some argument ← next? | return .zero
  let (negative, cs) := sign argument.toList
  let whole := cs.takeWhile Char.isDigit
  let (fraction, rest) := match cs.drop whole.length with
    | '.' :: rest =>
      let digits := rest.takeWhile Char.isDigit
      (digits, rest.drop digits.length)
    | rest => ([], rest)
  if (whole ++ fraction).isEmpty then
    checkRest argument argument.toList
    return .zero
  let (exponent, rest) : Int × List Char := match rest with
    | e :: after =>
      let (down, after) := sign after
      let digits := after.takeWhile Char.isDigit
      if (e == 'e' || e == 'E') && !digits.isEmpty then
        (if down then -digitsValue digits else digitsValue digits, after.drop digits.length)
      else (0, rest)
    | [] => (0, [])
  checkRest argument rest
  return .ofDecimal negative (digitsValue (whole ++ fraction)) (exponent - fraction.length)

/-- The number that a size stands for; a negative one is an argument. -/
def sizeValue : Size → Printing Int
  | .known n => return n
  | .argument => nextNumber true

/-- Fills up to a width. The start of a number stays in front of zeros. -/
def padded (width : Int) (left zeros : Bool) (start body : Bytes) : Bytes :=
  let missing := width.natAbs - (start.length + body.length)
  if left || width < 0 then start ++ body ++ .replicate missing 32
  else if zeros then start ++ .replicate missing 48 ++ body
  else .replicate missing 32 ++ start ++ body

/-- The digits of a number in a base, at least as many as a precision says. -/
def digits (base : Nat) (upper : Bool) (precision : Option Nat) (n : Nat) : Bytes :=
  let cs := Nat.toDigits base n
  let cs := if upper then cs.map Char.toUpper else cs
  let cs := if n == 0 && precision == some 0 then [] else cs
  .replicate (precision.getD 0 - cs.length) 48 ++ Text.bytesOf (.ofList cs)

/-- Prints an argument as a conversion says. -/
def convert (l : Layout) (c : Conversion) : Printing Unit := do
  let width ← sizeValue l.width
  let precision ← l.precision.mapM sizeValue
  let precision := precision.bind fun i => if i < 0 then none else some i.toNat
  let cut (b : Bytes) : Bytes := match precision with
    | some n => b.take n
    | none => b
  let plain (b : Bytes) : Printing Unit := out (padded width l.left false [] b)
  let signText (negative : Bool) : Bytes :=
    if negative then [45] else if l.plus then [43] else if l.blank then [32] else []
  match c with
  | .text => plain (cut (Text.bytesOf ((← next?).getD "")))
  | .escaped =>
    let (b, goesOn) := unescapeText ((← next?).getD "")
    plain (cut b)
    unless goesOn do throw .asked
  | .char => plain [(Text.bytesOf ((← next?).getD "")).headD 0]
  | .signed =>
    let i ← nextNumber true
    out (padded width l.left (l.zeros && precision.isNone) (signText (i < 0))
      (digits 10 false precision i.natAbs))
  | .unsigned base upper =>
    let n := (← nextNumber false).toNat
    let body := digits base upper precision n
    let start : Bytes :=
      if !l.alternative || n == 0 then []
      else if base == 16 then [48, if upper then 88 else 120]
      else if base == 8 && body.head? != some 48 then [48] else []
    out (padded width l.left (l.zeros && precision.isNone) start body)
  | .fixed =>
    let x ← nextDecimal
    let body := (x.fixedText (precision.getD 6)).toList
    let negative := body.head? == some '-'
    let body := if negative then body.drop 1 else body
    out (padded width l.left (l.zeros && x.isFinite) (signText negative)
      (Text.bytesOf (.ofList body)))

/-- Prints the pieces of a format once. -/
def once : List FormatPiece → Printing Unit
  | [] => return
  | .bytes b :: rest => do
    out b
    once rest
  | .convert l c :: rest => do
    convert l c
    once rest
  | .unknown text :: _ => throw (.fault s!"{text}: invalid directive")
  | .unfinished :: _ => throw (.fault "missing format character")

/-- Prints the pieces until no argument is left. -/
def repeatedly (ps : List FormatPiece) : Nat → Printing Unit
  | 0 => return
  | n + 1 => do
    let before := (← get).arguments.length
    once ps
    let left := (← get).arguments.length
    if left != 0 && left < before then repeatedly ps n

end Printing

/-- Prints arguments with a format: the bytes, the complaints in order, and the status. -/
def print (format : String) (arguments : List String) : Bytes × List String × Nat :=
  let ps := pieces (format.length + 1) format.toList
  let (result, p) := ((Printing.repeatedly ps (arguments.length + 1)).run).run { arguments }
  let complaints := p.complaints.reverse
  match result with
  | .error (.fault message) => (p.bytes, complaints ++ [message], 2)
  | _ => (p.bytes, complaints, if complaints.isEmpty then 0 else 1)

end Format

end LabelForge.Shell
