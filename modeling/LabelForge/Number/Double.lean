/-!
# LabelForge.Number.Double

**Double-precision numbers with exact arithmetic.** A finite number is stored as a sign and
a magnitude counted in *units*, where a unit is the smallest positive double `2^-1074`. Every
finite double is a whole number of units, so a comparison of doubles is a comparison of
integers, and the exact result of a sum, product or quotient is a fraction of units that one
rounding step turns back into a double.

Design points:

* `Format.round` is the only place where precision is lost: it rounds an exact fraction to the
  nearest magnitude with few enough significant bits, a half going to the even neighbour.
* Single precision shares the representation: its magnitudes are those whole numbers of units
  that `Format.single` rounds to themselves.
* The order used for table cells is total: a not-a-number equals itself and is greater than
  every other number, and the two zeros are equal.
-/

-- Powers and sums of numbers are those of the core library, whatever algebra a module imports.
attribute [instance (high)] instPowNat Zero.ofOfNat0
attribute [default_instance (high + 1)] instPowNat

namespace LabelForge.Number

/-- A double-precision number; `units` counts multiples of `2^-1074`. -/
inductive Double where
  /-- The result of an undefined operation. -/
  | nan
  /-- An infinity with its sign. -/
  | infinite (negative : Bool)
  /-- The number `±units · 2^-1074`. -/
  | finite (negative : Bool) (units : Nat)
  deriving DecidableEq, Repr, Inhabited

/-- `num / den` rounded to the nearest integer, a half to the even neighbour. -/
def nearestEven (num den : Nat) : Nat :=
  let q := num / den
  let r := num % den
  if 2 * r < den then q
  else if 2 * r == den then q + q % 2
  else q + 1

/-- A binary format: how many significant bits a magnitude may have, the exponent of its
finest grid in units, and its largest finite magnitude in units. -/
structure Format where
  precision : Nat
  grid : Nat
  largest : Nat

/-- Double precision. -/
def Format.double : Format := ⟨53, 0, (2 ^ 53 - 1) * 2 ^ 2045⟩

/-- Single precision; its smallest positive number is `2^-149`. -/
def Format.single : Format := ⟨24, 925, (2 ^ 24 - 1) * 2 ^ 1178⟩

/-- The magnitude of the format nearest to `num / den` units, or `none` beyond its largest. -/
def Format.round (f : Format) (num den : Nat) : Option Nat :=
  let k := max f.grid ((num / den).log2 + 1 - f.precision)
  let magnitude := nearestEven num (den * 2 ^ k) * 2 ^ k
  if magnitude ≤ f.largest then some magnitude else none

namespace Double

/-- One, counted in units. -/
def one : Nat := 2 ^ 1074

/-- Positive zero. -/
def zero : Double := .finite false 0

/-- The double nearest to `± num / den` units; infinite beyond the largest finite double. -/
def ofUnits (negative : Bool) (num den : Nat) : Double :=
  match Format.double.round num den with
  | some units => .finite negative units
  | none => .infinite negative

/-- The double nearest to the quotient `± num / den`. -/
def ofQuotient (negative : Bool) (num den : Nat) : Double :=
  ofUnits negative (num * one) den

/-- The double nearest to a natural number. -/
def ofNat (n : Nat) : Double :=
  ofQuotient false n 1

/-- The double nearest to an integer. -/
def ofInt (i : Int) : Double :=
  ofQuotient (decide (i < 0)) i.natAbs 1

/-- Whether the number is a number and not infinite. -/
def isFinite : Double → Bool
  | .finite _ _ => true
  | _ => false

/-- The number with the opposite sign. -/
def neg : Double → Double
  | .nan => .nan
  | .infinite s => .infinite !s
  | .finite s n => .finite (!s) n

/-- The signed count of units of a finite number. -/
def signed (negative : Bool) (units : Nat) : Int :=
  if negative then -(units : Int) else units

/-- The rounded product. -/
def mul : Double → Double → Double
  | .nan, _ => .nan
  | _, .nan => .nan
  | .infinite s, .infinite t => .infinite (s != t)
  | .infinite s, .finite t n => if n == 0 then .nan else .infinite (s != t)
  | .finite t n, .infinite s => if n == 0 then .nan else .infinite (s != t)
  | .finite s m, .finite t n => ofUnits (s != t) (m * n) one

/-- The rounded quotient. -/
def div : Double → Double → Double
  | .nan, _ => .nan
  | _, .nan => .nan
  | .infinite _, .infinite _ => .nan
  | .infinite s, .finite t _ => .infinite (s != t)
  | .finite s _, .infinite t => .finite (s != t) 0
  | .finite s m, .finite t n =>
    if n == 0 then if m == 0 then .nan else .infinite (s != t)
    else ofUnits (s != t) (m * one) n

/-- The rounded sum. -/
def add : Double → Double → Double
  | .nan, _ => .nan
  | _, .nan => .nan
  | .infinite s, .infinite t => if s == t then .infinite s else .nan
  | .infinite s, .finite _ _ => .infinite s
  | .finite _ _, .infinite t => .infinite t
  | .finite s m, .finite t n =>
    let sum := signed s m + signed t n
    if sum == 0 then .finite (s && t) 0 else ofUnits (decide (sum < 0)) sum.natAbs 1

/-- The nearest single-precision number, which is a double again. -/
def toSingle : Double → Double
  | .nan => .nan
  | .infinite s => .infinite s
  | .finite s n =>
    match Format.single.round n 1 with
    | some units => .finite s units
    | none => .infinite s

/-- Total comparison: the two zeros are equal, a not-a-number equals itself and is greater
than everything else. -/
def cmp : Double → Double → Ordering
  | .nan, .nan => .eq
  | .nan, _ => .gt
  | _, .nan => .lt
  | .infinite s, .infinite t => if s == t then .eq else if s then .lt else .gt
  | .infinite s, .finite _ _ => if s then .lt else .gt
  | .finite _ _, .infinite t => if t then .gt else .lt
  | .finite s m, .finite t n => compare (signed s m) (signed t n)

end Double

end LabelForge.Number
