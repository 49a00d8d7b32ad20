import LabelForge.Json.Basic
import LabelForge.Text.Hex

/-!
# LabelForge.Json.Reader

**Reading documents.** The reader turns every text into a tree; it stops at the first fault and
leaves it in the tree at the place where it stands.

Design points:

* Blanks between tokens are the space, the tab, the line feed and the carriage return.
* A number without fraction and exponent is an integer if 64 bits hold it; every other number
  is a double. A double is computed from as many leading digits as 64 bits hold, rounded once,
  and a power of ten, which is one or two more rounding steps.
* The recursion runs on fuel of thrice the length of the text, which no text can use up: every third
  call consumes a character.
-/

namespace LabelForge.Json

open LabelForge.Number

/-- Whether a character may stand between two tokens. -/
def isSpace (c : Char) : Bool :=
  c == ' ' || c == '\n' || c == '\t' || c == '\r'

/-- Drops blanks between tokens. -/
def skipSpace (cs : List Char) : List Char :=
  cs.dropWhile isSpace

/-! ### Numbers -/

/-- The largest integer of a document. -/
def maxInteger : Nat := 2 ^ 64 - 1

/-- The value of one digit. -/
def digitValue (c : Char) : Nat :=
  c.toNat - '0'.toNat

/-- Leading digits gathered so far: their value, the power of ten still to apply, and whether a
digit has already been left out. -/
structure Gathered where
  value : Nat
  exponent : Int
  full : Bool

/-- Takes a digit in front of the point; a digit that does not fit only counts. -/
def Gathered.whole (g : Gathered) (c : Char) : Gathered :=
  let next := g.value * 10 + digitValue c
  if g.full || next > maxInteger then { g with exponent := g.exponent + 1, full := true }
  else { g with value := next }

/-- Takes a digit behind the point; a digit that does not fit is left out, with all after it. -/
def Gathered.fraction (g : Gathered) (c : Char) : Gathered :=
  let next := g.value * 10 + digitValue c
  if g.full || next > maxInteger then { g with full := true }
  else { g with value := next, exponent := g.exponent - 1 }

/-- `x` times a power of ten, for powers within the range of doubles in one rounding step. -/
def scaled : Nat → Double → Int → Numeral
  | 0, x, _ => .real x
  | fuel + 1, x, e =>
    if e.natAbs ≤ 308 then
      let power := Double.ofDecimal false 1 e.natAbs
      if e ≥ 0 then
        let y := x.mul power
        if y.isFinite then .real y else .overflow
      else .real (x.div power)
    else if x == Double.zero then .real x
    else if e ≥ 0 then .overflow
    else scaled fuel (x.div (Double.ofDecimal false 1 308)) (e + 308)

/-- Changes the sign of a double. -/
def Numeral.signed (negative : Bool) : Numeral → Numeral
  | .real x => .real (if negative then x.neg else x)
  | n => n

/-- The double of the given digits, in front of and behind the point, and exponent. -/
def realNumeral (negative : Bool) (whole fraction : List Char) (exponent : Int) : Numeral :=
  let g := whole.foldl Gathered.whole ⟨0, 0, false⟩
  let g := fraction.foldl Gathered.fraction { g with full := false }
  (scaled 4 (Double.ofNat g.value) (g.exponent + exponent)).signed negative

/-- The value of an integer text; beyond 64 bits, and for a negative zero, it is a double. -/
def integerNumeral (negative : Bool) (whole : List Char) : Numeral :=
  let n := digitsValue whole
  if n > maxInteger then realNumeral negative whole [] 0
  else if !negative then .int n
  else if n == 0 || n > 2 ^ 63 then .real (Double.ofNat n).neg
  else .int (-(n : Int))

/-- The largest exponent that is added up; beyond it the number is zero or an overflow. -/
def maxExponent : Nat := 2 ^ 31 - 1

/-- A number with an exponent. -/
def exponentNumeral (negative : Bool) (whole fraction : List Char) (down : Bool)
    (exponent : Nat) : Numeral :=
  if exponent > maxExponent then
    let g := whole.foldl Gathered.whole ⟨0, 0, false⟩
    let g := fraction.foldl Gathered.fraction { g with full := false }
    if g.value != 0 && !down then .overflow else .real (.finite negative 0)
  else realNumeral negative whole fraction (if down then -(exponent : Int) else exponent)

/-- What follows a piece of text: the rest, or nothing after a fault. -/
abbrev Rest := Option (List Char)

/-- The end of a number that lacks a digit. -/
def missingDigit (rest : List Char) : Json × Rest :=
  (.broken (if rest.isEmpty then ⟨.truncated, .malformed, .malformed⟩ else .same .malformed), none)

/-- Reads the exponent of a number, from behind its letter. -/
def readExponent (negative : Bool) (whole fraction : List Char) (cs : List Char) : Json × Rest :=
  let (down, cs) := match cs with
    | '+' :: rest => (false, rest)
    | '-' :: rest => (true, rest)
    | cs => (false, cs)
  let digits := cs.takeWhile Char.isDigit
  let rest := cs.dropWhile Char.isDigit
  if digits.isEmpty then missingDigit rest
  else (.number (exponentNumeral negative whole fraction down (digitsValue digits)), some rest)

/-- Reads what follows the digits in front of the point. -/
def readAfterWhole (negative : Bool) (whole : List Char) (cs : List Char) : Json × Rest :=
  match cs with
  | '.' :: cs =>
    let fraction := cs.takeWhile Char.isDigit
    let rest := cs.dropWhile Char.isDigit
    if fraction.isEmpty then missingDigit rest
    else match rest with
      | 'e' :: rest => readExponent negative whole fraction rest
      | 'E' :: rest => readExponent negative whole fraction rest
      | rest => (.number (realNumeral negative whole fraction 0), some rest)
  | 'e' :: rest => readExponent negative whole [] rest
  | 'E' :: rest => readExponent negative whole [] rest
  | rest => (.number (integerNumeral negative whole), some rest)

/-- Reads a number from behind its sign. -/
def readNumber (negative : Bool) (cs : List Char) : Json × Rest :=
  let whole := cs.takeWhile Char.isDigit
  let rest := cs.dropWhile Char.isDigit
  match whole with
  | [] => missingDigit rest
  | '0' :: _ :: _ => (.broken (.same .malformed), none)
  | whole => readAfterWhole negative whole rest

/-! ### Strings -/

/-- The value of four hexadecimal digits. -/
def hex4? (a b c d : Char) : Option Nat := do
  let a ← Text.hexValue? a
  let b ← Text.hexValue? b
  let c ← Text.hexValue? c
  let d ← Text.hexValue? d
  return ((a * 16 + b) * 16 + c) * 16 + d

/-- Whether fewer than four bytes of text are left, so that four digits cannot follow. -/
def fewerThanFourBytes (cs : List Char) : Bool :=
  (cs.take 4).foldl (fun n c => n + c.utf8Size) 0 < 4

/-- The fault of an escape that lacks its four digits. -/
def badHex (cs : List Char) : Fault :=
  if fewerThanFourBytes cs then .truncated else .malformed

/-- The character of a short escape. -/
def shortEscape? (c : Char) : Option Char :=
  match c with
  | '"' => some '"'
  | '\\' => some '\\'
  | '/' => some '/'
  | 'b' => some '\x08'
  | 'f' => some '\x0c'
  | 'n' => some '\n'
  | 'r' => some '\r'
  | 't' => some '\t'
  | _ => none

/-- The result of reading a string: its text (none if a surrogate stands alone) and the rest. -/
inductive StringScan where
  | closed (content : Option String) (rest : List Char)
  | fault (stop : Stop)

/-- The fault of a string; one that already holds a lone surrogate cannot be read anyway. -/
def stringFault (lone : Bool) (f : Fault) : StringScan :=
  .fault (if lone then ⟨.malformed, f, .malformed⟩ else .same f)

/-- Whether a number is the first half of a surrogate pair. -/
def isHighSurrogate (n : Nat) : Bool := 0xD800 ≤ n && n ≤ 0xDBFF

/-- Whether a number is the second half of a surrogate pair. -/
def isLowSurrogate (n : Nat) : Bool := 0xDC00 ≤ n && n ≤ 0xDFFF

/-- Reads a string from behind its opening quote; `acc` holds the characters read so far, last
first. -/
def readString (acc : List Char) (lone : Bool) : List Char → StringScan
  | [] => stringFault lone .truncated
  | '"' :: rest => .closed (if lone then none else some (.ofList acc.reverse)) rest
  | ['\\'] => stringFault lone .truncated
  | '\\' :: 'u' :: rest =>
    match rest with
    | a :: b :: c :: d :: rest' =>
      match hex4? a b c d with
      | none => stringFault lone (badHex rest)
      | some n =>
        if isLowSurrogate n then readString acc true rest'
        else if isHighSurrogate n then
          match rest' with
          | [] => stringFault lone .truncated
          | ['\\'] => stringFault lone .truncated
          | '\\' :: 'u' :: low =>
            match low with
            | a :: b :: c :: d :: rest'' =>
              match hex4? a b c d with
              | none => stringFault lone (badHex low)
              | some m =>
                if isLowSurrogate m then
                  let code := 0x10000 + (n - 0xD800) * 0x400 + (m - 0xDC00)
                  readString (Char.ofNat code :: acc) lone rest''
                else readString acc true rest''
            | _ => stringFault lone (badHex low)
          | rest' => readString acc true rest'
        else readString (Char.ofNat n :: acc) lone rest'
    | _ => stringFault lone (badHex rest)
  | '\\' :: e :: rest =>
    match shortEscape? e with
    | some c => readString (c :: acc) lone rest
    | none => stringFault lone .malformed
  | c :: rest =>
    if c.toNat < 0x20 then stringFault lone .malformed else readString (c :: acc) lone rest

/-! ### Values -/

/-- Reads the letters that are left of a word. -/
def readWord (value : Json) : List Char → List Char → Json × Rest
  | [], rest => (value, some rest)
  | _ :: _, [] => (.broken .cutOff, none)
  | w :: ws, c :: rest =>
    if c == w then readWord value ws rest else (.broken (.same .malformed), none)

mutual

/-- Reads a value. -/
def readValue : Nat → List Char → Json × Rest
  | 0, _ => (.broken (.same .malformed), none)
  | fuel + 1, cs =>
    match skipSpace cs with
    | [] => (.broken (.same .truncated), none)
    | 'n' :: rest => readWord .null "ull".toList rest
    | 't' :: rest => readWord (.bool true) "rue".toList rest
    | 'f' :: rest => readWord (.bool false) "alse".toList rest
    | '-' :: rest => readNumber true rest
    | '"' :: rest =>
      match readString [] false rest with
      | .closed content rest => (.text content, some rest)
      | .fault stop => (.broken stop, none)
    | '[' :: rest =>
      let (items, rest) := readItems fuel true rest
      (.array items, rest)
    | '\x7b' :: rest =>
      let (members, rest) := readMembers fuel true rest
      (.object members, rest)
    | c :: rest =>
      if c.isDigit then readNumber false (c :: rest) else (.broken (.same .malformed), none)

/-- Reads the items of an array; `first` before its first item. -/
def readItems : Nat → Bool → List Char → Items × Rest
  | 0, _, _ => (.stopped (.same .malformed), none)
  | fuel + 1, first, cs =>
    match skipSpace cs with
    | [] => (.stopped (.same .truncated), none)
    | ']' :: rest => (.done, some rest)
    | c :: rest =>
      if first then readItem fuel (c :: rest)
      else if c == ',' then
        match skipSpace rest with
        | ']' :: _ => (.stopped (.same .malformed), none)
        | rest => readItem fuel rest
      else (.stopped (.same .malformed), none)

/-- Reads an item and the items after it. -/
def readItem : Nat → List Char → Items × Rest
  | 0, _ => (.stopped (.same .malformed), none)
  | fuel + 1, cs =>
    match readValue fuel cs with
    | (j, none) => (.cons j .done, none)
    | (j, some rest) =>
      let (items, rest) := readItems fuel false rest
      (.cons j items, rest)

/-- Reads the members of an object; `first` before its first member. -/
def readMembers : Nat → Bool → List Char → Members × Rest
  | 0, _, _ => (.stopped (.same .malformed), none)
  | fuel + 1, first, cs =>
    match skipSpace cs with
    | [] => (.stopped (.same .truncated), none)
    | '\x7d' :: rest => (.done, some rest)
    | c :: rest =>
      if first then readMember fuel (c :: rest)
      else if c == ',' then readMember fuel (skipSpace rest)
      else (.stopped (.same .malformed), none)

/-- Reads a member and the members after it. -/
def readMember : Nat → List Char → Members × Rest
  | 0, _ => (.stopped (.same .malformed), none)
  | fuel + 1, cs =>
    match cs with
    | [] => (.stopped .cutOff, none)
    | '"' :: rest =>
      match readString [] false rest with
      | .fault stop => (.stopped stop, none)
      | .closed key rest =>
        match skipSpace rest with
        | [] => (.cons key (.broken (.same .truncated)) .done, none)
        | ':' :: rest =>
          match readValue fuel rest with
          | (j, none) => (.cons key j .done, none)
          | (j, some rest) =>
            let (members, rest) := readMembers fuel false rest
            (.cons key j members, rest)
        | _ => (.cons key (.broken (.same .malformed)) .done, none)
    | _ => (.stopped (.same .malformed), none)

end

/-- What a text holds: a value, and whether anything but blanks follows it. -/
structure Document where
  value : Json
  trailing : Bool

/-- Reads a text. -/
def read (s : String) : Document :=
  let cs := s.toList
  match readValue (3 * cs.length + 4) cs with
  | (j, none) => ⟨j, false⟩
  | (j, some rest) => ⟨j, !(skipSpace rest).isEmpty⟩

end LabelForge.Json
