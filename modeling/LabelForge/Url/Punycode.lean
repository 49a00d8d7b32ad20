/-!
# LabelForge.Url.Punycode

**Labels of a domain name in ASCII.** A label with other characters is written as its ASCII
characters, a hyphen if there are any, and numbers that say which other characters are to be
inserted where. The numbers are written in digits to the base 36, the lowest one first; the last
digit of a number is below a threshold that adapts to the numbers before.

Design points:

* A label is decoded one digit at a time; `Decoding` holds the number that is being read.
* Characters are inserted in the order of their code points.
-/

namespace LabelForge.Url.Punycode

/-- The number of values of a digit. -/
def base : Nat := 36

/-- The threshold for the digit whose place counts `place`, in steps of the base. -/
def threshold (bias place : Nat) : Nat :=
  min 26 (max 1 (place - bias))

theorem one_le_threshold (bias place : Nat) : 1 ≤ threshold bias place := by
  unfold threshold
  omega

/-- Divides a number until it is small, and counts the steps by the base. -/
def shrink (number count : Nat) : Nat × Nat :=
  if 455 < number then shrink (number / 35) (count + base) else (number, count)
termination_by number
decreasing_by omega

/-- The bias behind a number, when `length` characters have been written. -/
def adapt (number length : Nat) (isFirst : Bool) : Nat :=
  let number := if isFirst then number / 700 else number / 2
  let (number, count) := shrink (number + number / length) 0
  count + 36 * number / (number + 38)

/-- The digit of a value. -/
def digit (value : Nat) : Char :=
  if value < 26 then Char.ofNat ('a'.toNat + value) else Char.ofNat ('0'.toNat + (value - 26))

/-- The value of a digit in either case. -/
def value? (c : Char) : Option Nat :=
  if 'a' ≤ c && c ≤ 'z' then some (c.toNat - 'a'.toNat)
  else if 'A' ≤ c && c ≤ 'Z' then some (c.toNat - 'A'.toNat)
  else if c.isDigit then some (c.toNat - '0'.toNat + 26)
  else none

/-- The code point from which characters are written as numbers. -/
def firstCode : Nat := 0x80

/-- The bias before the first number. -/
def firstBias : Nat := 72

/-! ### Writing -/

/-- The digits of a number. -/
def digits (bias place number : Nat) : List Char :=
  let t := threshold bias place
  if number < t then [digit number]
  else
    digit (t + (number - t) % (base - t)) :: digits bias (place + base) ((number - t) / (base - t))
termination_by number
decreasing_by
  have h := one_le_threshold bias place
  have := Nat.div_le_self (number - threshold bias place) (base - threshold bias place)
  omega

/-- A label that is being written. -/
structure Encoding where
  /-- The digits so far. -/
  output : List Char
  /-- How far the next insertion is from the one before. -/
  distance : Nat
  bias : Nat
  /-- How many characters have been written. -/
  written : Nat

/-- Passes a character of the label while those of a code point are written. -/
def Encoding.pass (basic code : Nat) (e : Encoding) (c : Char) : Encoding :=
  if c.toNat < code then { e with distance := e.distance + 1 }
  else if c.toNat == code then
    { output := e.output ++ digits e.bias base e.distance
      distance := 0
      bias := adapt e.distance (e.written + 1) (e.written == basic)
      written := e.written + 1 }
  else e

/-- Writes the characters of some code points, in ascending order; `code` is the least one that has
not been written. -/
def Encoding.write (label : List Char) (basic : Nat) (e : Encoding) (code : Nat) :
    List Nat → Encoding
  | [] => e
  | next :: rest =>
    let e := { e with distance := e.distance + (next - code) * (e.written + 1) }
    let e := label.foldl (pass basic next) e
    write label basic { e with distance := e.distance + 1 } (next + 1) rest

/-- The ASCII form of a label. -/
def encode (label : List Char) : List Char :=
  let (basic, others) := label.partition fun c => c.toNat < firstCode
  let codes := ((others.map Char.toNat).mergeSort).eraseReps
  let e := Encoding.write label basic.length ⟨[], 0, firstBias, basic.length⟩ firstCode codes
  (if basic.isEmpty then [] else basic ++ ['-']) ++ e.output

/-! ### Reading -/

/-- A label that is being read. -/
structure Decoding where
  output : List Char
  /-- The code point of the last insertion. -/
  code : Nat
  /-- Where the next insertion would be if no number were read. -/
  position : Nat
  bias : Nat
  /-- The number so far. -/
  number : Nat
  /-- What the next digit counts. -/
  weight : Nat
  /-- The place of the next digit, in steps of the base. -/
  place : Nat

/-- Inserts the character of a number that is complete. -/
def Decoding.insert (d : Decoding) : Option Decoding :=
  let length := d.output.length + 1
  let index := d.position + d.number
  let code := d.code + index / length
  if code.isValidChar then
    let at_ := index % length
    some {
      output := d.output.take at_ ++ Char.ofNat code :: d.output.drop at_
      code
      position := at_ + 1
      bias := adapt d.number length (d.position == 0)
      number := 0
      weight := 1
      place := base }
  else none

/-- Reads a digit. -/
def Decoding.read (d : Decoding) (c : Char) : Option Decoding := do
  let value ← value? c
  let t := threshold d.bias d.place
  let d := { d with number := d.number + value * d.weight }
  if value < t then d.insert
  else return { d with weight := d.weight * (base - t), place := d.place + base }

/-- The label of an ASCII form. -/
def decode (cs : List Char) : Option (List Char) := do
  let tail := (cs.reverse.takeWhile (· != '-')).reverse
  let head := cs.take (cs.length - tail.length - 1)
  let numbers := if head.isEmpty then cs else tail
  let d ← numbers.foldlM Decoding.read ⟨head, firstCode, 0, firstBias, 0, 1, base⟩
  if d.place == base then return d.output else none

end LabelForge.Url.Punycode
