import LabelForge.Number.Double

/-!
# LabelForge.Number.Decimal

**Decimal texts of doubles.** Reading takes a string of digits and a power of ten to the
nearest double. Writing goes the other way: it looks for the fewest significant digits that
read back as the very same double, and lays them out positionally or with an exponent.

Design points:

* `shortest` is the specification of itself: it tries one digit, two digits, … and stops at the
  first count for which one of the two neighbours of the number on that decimal grid reads
  back. If none of the counts up to seventeen did, every digit of the exact value is kept.
* How digits are laid out is data (`NumberStyle`): documents and tables use an exponent outside
  a range of magnitudes and differ in the sign of the exponent, everything else is positional.
* "Reads back" is relative to a binary format, so a single-precision number gets the few digits
  that tell it from its single-precision neighbours.
* Where both neighbours read back and are equally near, a text takes the greater one and a
  document or table the one with the even last digit (`Tie`).
* `fixed` rounds the exact binary value, a half to the even digit.
-/

namespace LabelForge.Number

/-- The value of a string of decimal digits. -/
def digitsValue (ds : List Char) : Nat :=
  ds.foldl (fun n c => n * 10 + (c.toNat - '0'.toNat)) 0

/-- The decimal digits of a natural number. -/
def natDigits (n : Nat) : List Char :=
  Nat.toDigits 10 n

/-- The decimal text of an integer. -/
def intText (i : Int) : String :=
  .ofList (if i < 0 then '-' :: natDigits i.natAbs else natDigits i.natAbs)

/-- The double nearest to `± digits · 10^exponent`. Exponents far outside the range of doubles
are answered without computing the power. -/
def Double.ofDecimal (negative : Bool) (digits : Nat) (exponent : Int) : Double :=
  if digits == 0 then .finite negative 0
  else
    let places : Int := (natDigits digits).length
    if places + exponent > 400 then .infinite negative
    else if places + exponent < -400 then .finite negative 0
    else if exponent ≥ 0 then ofQuotient negative (digits * 10 ^ exponent.toNat) 1
    else ofQuotient negative digits (10 ^ (-exponent).toNat)

/-- Which of two decimals that are equally near is taken. -/
inductive Tie where
  /-- The one with the greater magnitude. -/
  | away
  /-- The one whose last digit is even. -/
  | toEven
  deriving DecidableEq, Repr

/-- Significant digits and the exponent of the first one: `d.ddd · 10^exponent`. -/
structure Digits where
  digits : List Char
  exponent : Int
  deriving DecidableEq, Repr

namespace Digits

/-- Drops trailing zeros, keeping one digit. -/
def strip (ds : List Char) : List Char :=
  match (ds.reverse.dropWhile (· == '0')).reverse with
  | [] => ['0']
  | kept => kept

/-- The exponent of the first digit of the positive fraction `num / den`. -/
def leadingExponent (num den : Nat) : Int :=
  if den ≤ num then ((natDigits (num / den)).length : Int) - 1
  else
    let d := (natDigits (den / num)).length
    if num * 10 ^ (d - 1) == den then 1 - (d : Int) else -(d : Int)

/-- The fraction `num / den` times a power of ten. -/
def scale (num den : Nat) (power : Int) : Nat × Nat :=
  if power ≥ 0 then (num * 10 ^ power.toNat, den) else (num, den * 10 ^ (-power).toNat)

/-- Whether the decimal `digits · 10^exponent` rounds to the magnitude `units`. -/
def readsBack (f : Format) (units digits : Nat) (exponent : Int) : Bool :=
  let (num, den) := scale (digits * Double.one) 1 exponent
  f.round num den == some units

/-- The whole numbers next to `num / den`, the nearer one first. -/
def neighbours (tie : Tie) (num den : Nat) : List Nat :=
  let below := num / den
  match compare (2 * (num % den)) den with
  | .lt => [below, below + 1]
  | .gt => [below + 1, below]
  | .eq => if tie == .toEven && below % 2 == 0 then [below, below + 1] else [below + 1, below]

/-- The first of the two neighbours of `units` on the grid of `count` significant digits that
reads back as `units`. -/
def candidate (tie : Tie) (f : Format) (units count : Nat) : Option Digits :=
  let lead := leadingExponent units Double.one
  let power : Int := (count : Int) - 1 - lead
  let (num, den) := scale units Double.one power
  ((neighbours tie num den).find? fun d => readsBack f units d (-power)).map fun d =>
    let ds := natDigits d
    ⟨strip ds, (ds.length : Int) - 1 - power⟩

/-- All digits of the exact value. -/
def exact (units : Nat) : Digits :=
  let ds := natDigits (units * 5 ^ 1074)
  ⟨strip ds, (ds.length : Int) - 1 - 1074⟩

/-- The fewest significant digits that read back as `units`, for a positive magnitude of the
format. -/
def shortest (tie : Tie) (f : Format) (units : Nat) : Digits :=
  match (List.range 17).findSome? fun i => candidate tie f units (i + 1) with
  | some found => found
  | none => exact units

/-- Positional text without an exponent; a point only if there are digits behind it. -/
def positional (d : Digits) : List Char :=
  if d.exponent < 0 then
    '0' :: '.' :: List.replicate ((-d.exponent).toNat - 1) '0' ++ d.digits
  else
    let whole := d.exponent.toNat + 1
    if d.digits.length ≤ whole then d.digits ++ List.replicate (whole - d.digits.length) '0'
    else d.digits.take whole ++ '.' :: d.digits.drop whole

/-- Text with an exponent, as in `1.5e300` and `5e-324`; a positive exponent may get a sign. -/
def scientific (plusSign : Bool) (d : Digits) : List Char :=
  let head := match d.digits with
    | [] => ['0']
    | [c] => [c]
    | c :: rest => c :: '.' :: rest
  let sign := if plusSign && 0 ≤ d.exponent then ['+'] else []
  head ++ 'e' :: sign ++ (intText d.exponent).toList

end Digits

/-- How the digits of a number are laid out. -/
structure NumberStyle where
  /-- Exponents of the first digit below this one are written. -/
  lowest : Int
  /-- Exponents of the first digit from this one on are written. -/
  highest : Int
  /-- Whether a written exponent that is not negative has a sign. -/
  plusSign : Bool
  deriving DecidableEq, Repr

/-- Documents write an exponent from `1e+16` on and below `1e-5`. -/
def NumberStyle.document : NumberStyle := ⟨-5, 16, true⟩

/-- Tables write an exponent from `1e16` on and below `1e-5`. -/
def NumberStyle.table : NumberStyle := ⟨-5, 16, false⟩

/-- The text of digits in a style; positional text has at least one digit behind the point. -/
def NumberStyle.layOut (style : NumberStyle) (d : Digits) : List Char :=
  if style.lowest ≤ d.exponent && d.exponent < style.highest then
    let body := d.positional
    if body.contains '.' then body else body ++ ['.', '0']
  else d.scientific style.plusSign

namespace Double

/-- Sign of a text. -/
def signText (negative : Bool) (body : List Char) : List Char :=
  if negative then '-' :: body else body

/-- Positional text: the shortest digits that read back in a format, never an exponent. -/
def plainTextIn (f : Format) : Double → String
  | .nan => "NaN"
  | .infinite s => .ofList (signText s "inf".toList)
  | .finite s 0 => .ofList (signText s ['0'])
  | .finite s n => .ofList (signText s (Digits.shortest .away f n).positional)

/-- Positional text: the shortest digits that read back, never an exponent. -/
def plainText (x : Double) : String := x.plainTextIn .double

/-- The shortest digits that read back in a format, laid out in a style. -/
def styledText (style : NumberStyle) (f : Format) : Double → String
  | .nan => "NaN"
  | .infinite s => .ofList (signText s "inf".toList)
  | .finite s 0 => .ofList (signText s "0.0".toList)
  | .finite s n => .ofList (signText s (style.layOut (Digits.shortest .toEven f n)))

/-- The text of a number in a document. -/
def documentText (x : Double) : String :=
  x.styledText .document .double

/-- A text without the zeros at the end of its fraction, and without the point if no digit of
the fraction is left. -/
def withoutTrailingZeros (s : String) : String :=
  let cs := s.toList
  if cs.contains '.' then
    .ofList (((cs.reverse.dropWhile (· == '0')).dropWhile (· == '.')).reverse)
  else s

/-- The text of a number in a table cell. -/
def cellText (x : Double) : String :=
  withoutTrailingZeros x.plainText

/-- Text with exactly `places` digits behind the point; the exact value is rounded, a half to
the even digit. -/
def fixedText (x : Double) (places : Nat) : String :=
  match x with
  | .nan => "NaN"
  | .infinite s => .ofList (signText s "inf".toList)
  | .finite s n =>
    let ds := natDigits (nearestEven (n * 10 ^ places) one)
    let padded := List.replicate (places + 1 - ds.length) '0' ++ ds
    let whole := padded.length - places
    let body :=
      if places == 0 then padded else padded.take whole ++ '.' :: padded.drop whole
    .ofList (signText s body)

end Double

end LabelForge.Number
