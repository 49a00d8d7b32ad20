import LabelForge.Text.Blank
import LabelForge.Number.Decimal

/-!
# LabelForge.Moment

**Points in time.** A moment is a number of seconds since the start of 1970 in UTC and a number
of nanoseconds. It is written in the form of RFC 3339 with the letter `Z`, and read from that
form with any offset.

Design points:

* Reading is lenient: numbers may lack leading zeros, blanks may stand before a number and
  before a separator, and the date and the time are parted by `T`, `t` or one blank. An offset
  is required: `Z`, `UTC`, or hours and minutes with a sign.
* Writing uses no, three, six or nine digits for the fraction, the fewest that are exact.
* A leap second is the 59th second with a thousand million nanoseconds or more.
-/

namespace LabelForge

/-- A point in time. -/
structure Moment where
  /-- Seconds since the start of 1970 in UTC. -/
  seconds : Int
  /-- Nanoseconds; above a thousand million in a leap second. -/
  nanos : Nat
  deriving DecidableEq, Repr

namespace Moment

/-- Chronological order. -/
def cmp (a b : Moment) : Ordering :=
  (compare a.seconds b.seconds).then (compare a.nanos b.nanos)

/-! ### The calendar -/

/-- A date of the calendar. -/
structure Date where
  year : Int
  month : Nat
  day : Nat
  deriving DecidableEq, Repr

/-- Whether a year has 366 days. -/
def isLeap (year : Int) : Bool :=
  year % 4 == 0 && (year % 100 != 0 || year % 400 == 0)

/-- How many days a month has. -/
def daysIn (year : Int) (month : Nat) : Nat :=
  match month with
  | 2 => if isLeap year then 29 else 28
  | 4 => 30
  | 6 => 30
  | 9 => 30
  | 11 => 30
  | _ => 31

/-- Days from the start of 1970 to a date; years are counted from March here, so that the leap
day is the last of its year. -/
def Date.toDays (d : Date) : Int :=
  let y := if d.month ≤ 2 then d.year - 1 else d.year
  let era := y / 400
  let yearOfEra := y % 400
  let monthFromMarch := (d.month + 9) % 12
  let dayOfYear := (153 * monthFromMarch + 2) / 5 + (d.day - 1)
  let dayOfEra := yearOfEra * 365 + yearOfEra / 4 - yearOfEra / 100 + dayOfYear
  era * 146097 + dayOfEra - 719468

/-- The date of a number of days from the start of 1970. -/
def Date.ofDays (days : Int) : Date :=
  let z := days + 719468
  let era := z / 146097
  let dayOfEra := (z % 146097).toNat
  let yearOfEra := (dayOfEra - dayOfEra / 1460 + dayOfEra / 36524 - dayOfEra / 146096) / 365
  let dayOfYear := dayOfEra - (365 * yearOfEra + yearOfEra / 4 - yearOfEra / 100)
  let m := (5 * dayOfYear + 2) / 153
  let day := dayOfYear - (153 * m + 2) / 5 + 1
  let month := if m < 10 then m + 3 else m - 9
  let year := (yearOfEra : Int) + era * 400 + (if month ≤ 2 then 1 else 0)
  ⟨year, month, day⟩

/-- The first and the last year of the calendar. -/
def yearRange : Int × Int := (-262143, 262142)

/-- Whether a date exists. -/
def Date.isValid (d : Date) : Bool :=
  yearRange.1 ≤ d.year && d.year ≤ yearRange.2 && 1 ≤ d.month && d.month ≤ 12 &&
    1 ≤ d.day && d.day ≤ daysIn d.year d.month

/-! ### Writing -/

/-- A number with leading zeros. -/
def zeroPadded (width n : Nat) : String :=
  let ds := Number.natDigits n
  .ofList (List.replicate (width - ds.length) '0' ++ ds)

/-- A year: four digits, or a sign and at least four digits outside of 0 to 9999. -/
def yearText (year : Int) : String :=
  if 0 ≤ year && year ≤ 9999 then zeroPadded 4 year.toNat
  else (if year < 0 then "-" else "+") ++ zeroPadded 4 year.natAbs

/-- The date of a moment. -/
def dateText (m : Moment) : String :=
  let d := Date.ofDays (m.seconds / 86400)
  yearText d.year ++ "-" ++ zeroPadded 2 d.month ++ "-" ++ zeroPadded 2 d.day

/-- The time of day of a moment, in whole seconds. -/
def timeText (m : Moment) : String :=
  let s := (m.seconds % 86400).toNat
  let leap := if m.nanos ≥ 1000000000 then 1 else 0
  zeroPadded 2 (s / 3600) ++ ":" ++ zeroPadded 2 (s / 60 % 60) ++ ":" ++
    zeroPadded 2 (s % 60 + leap)

/-- The fraction of a second. -/
def fractionText (m : Moment) : String :=
  let n := m.nanos % 1000000000
  if n == 0 then ""
  else if n % 1000000 == 0 then "." ++ zeroPadded 3 (n / 1000000)
  else if n % 1000 == 0 then "." ++ zeroPadded 6 (n / 1000)
  else "." ++ zeroPadded 9 n

/-- The moment in the form of RFC 3339. -/
def text (m : Moment) : String :=
  m.dateText ++ "T" ++ m.timeText ++ m.fractionText ++ "Z"

/-- The moment in whole seconds, with a blank between date and time. -/
def shortText (m : Moment) : String :=
  m.dateText ++ " " ++ m.timeText

/-! ### Reading -/

/-- A step of reading: a value and the rest of the text. -/
abbrev Reading (α : Type) := List Char → Option (α × List Char)

/-- Reads one to `width` digits. -/
def digits (width : Nat) : Reading Nat := fun cs =>
  let ds := (cs.takeWhile Char.isDigit).take width
  if ds.isEmpty then none else some (Number.digitsValue ds, cs.drop ds.length)

/-- Reads a number of at most two digits, with blanks before it. -/
def twoDigits : Reading Nat := fun cs =>
  digits 2 (Text.trimStartChars cs)

/-- Reads a year: up to four digits, or any number of digits after a sign. -/
def year : Reading Int := fun cs =>
  match Text.trimStartChars cs with
  | '-' :: rest => (digits rest.length rest).map fun (n, rest) => (-(n : Int), rest)
  | '+' :: rest => (digits rest.length rest).map fun (n, rest) => ((n : Int), rest)
  | rest => (digits 4 rest).map fun (n, rest) => ((n : Int), rest)

/-- Reads a separator, with blanks before it. -/
def separator (c : Char) : Reading Unit := fun cs =>
  match Text.trimStartChars cs with
  | d :: rest => if c == d then some ((), rest) else none
  | [] => none

/-- Reads the fraction of a second, if there is one; digits after the ninth do not count. -/
def fraction : Reading Nat
  | '.' :: cs =>
    let ds := cs.takeWhile Char.isDigit
    if ds.isEmpty then none
    else
      let kept := ds.take 9
      some (Number.digitsValue kept * 10 ^ (9 - kept.length), cs.drop ds.length)
  | cs => some (0, cs)

/-- Reads two digits of an offset. -/
def offsetDigits : Reading Nat
  | a :: b :: rest =>
    if a.isDigit && b.isDigit then some (Number.digitsValue [a, b], rest) else none
  | _ => none

/-- Reads an offset from UTC in seconds. -/
def offset : Reading Int := fun cs =>
  let signed (negative : Bool) (cs : List Char) : Option (Int × List Char) := do
    let (hours, cs) ← offsetDigits cs
    let (minutes, cs) ← offsetDigits (cs.dropWhile fun c => c == ':' || Text.isBlank c)
    if minutes ≥ 60 then none
    let total : Int := hours * 3600 + minutes * 60
    return (if negative then -total else total, cs)
  match cs with
  | 'Z' :: rest => some (0, rest)
  | 'z' :: rest => some (0, rest)
  | '+' :: rest => signed false rest
  | '-' :: rest => signed true rest
  | '\u2212' :: rest => signed true rest
  | a :: b :: c :: rest =>
    if a.toUpper == 'U' && b.toUpper == 'T' && c.toUpper == 'C' then some (0, rest) else none
  | _ => none

/-- Reads a moment. -/
def parse? (s : String) : Option Moment := do
  let (year, cs) ← year s.toList
  let ((), cs) ← separator '-' cs
  let (month, cs) ← twoDigits cs
  let ((), cs) ← separator '-' cs
  let (day, cs) ← twoDigits cs
  let cs ← match cs with
    | 'T' :: rest => some rest
    | 't' :: rest => some rest
    | ' ' :: rest => some rest
    | _ => none
  let (hour, cs) ← twoDigits cs
  let ((), cs) ← separator ':' cs
  let (minute, cs) ← twoDigits cs
  let ((), cs) ← separator ':' cs
  let (second, cs) ← twoDigits cs
  let (nanos, cs) ← fraction cs
  let (offset, cs) ← offset (Text.trimStartChars cs)
  guard (cs.all Text.isBlank)
  let date : Date := ⟨year, month, day⟩
  guard (date.isValid && hour ≤ 23 && minute ≤ 59 && second ≤ 60 && offset.natAbs < 86400)
  let leap := second == 60
  let ofDay : Int := hour * 3600 + minute * 60 + (if leap then 59 else second)
  let seconds := date.toDays * 86400 + ofDay - offset
  guard (Date.isValid (Date.ofDays (seconds / 86400)))
  return ⟨seconds, if leap then nanos + 1000000000 else nanos⟩

end Moment

end LabelForge
