import LabelForge.Json.Basic
import LabelForge.Text.Hex

/-!
# LabelForge.Toml.Scalar

**Single values of a configuration.** Strings come in four kinds: with or without escapes, on one
line or on several. Numbers may be grouped by underscores. Dates and times are recognised, but
nothing in a configuration is one.

Design points:

* Every reader takes the characters from its place on and returns what follows.
* A number or a date is cut out of the text first, and then must have one of their shapes as a
  whole.
-/

namespace LabelForge.Toml

open LabelForge.Number

/-- Reads a value; returns what follows it. -/
abbrev Reader (α : Type) := List Char → Option (α × List Char)

/-- Whether a character may stand in a comment or in a string as it is. -/
def isPlain (c : Char) : Bool :=
  c == '\t' || (0x20 ≤ c.toNat && c.toNat != 0x7F)

/-- Passes over a line end. -/
def lineEnd? : List Char → Option (List Char)
  | '\n' :: cs => some cs
  | '\r' :: '\n' :: cs => some cs
  | _ => none

/-! ### Strings -/

/-- The character of some hexadecimal digits. -/
def codePoint? (count : Nat) : Reader Char := fun cs => do
  let digits := cs.take count
  if digits.length < count then none
  let values ← digits.mapM Text.hexValue?
  let n := values.foldl (fun n v => n * 16 + v) 0
  if n < 0xD800 || (0xDFFF < n && n < 0x110000) then some (Char.ofNat n, cs.drop count) else none

/-- The character of an escape, behind the backslash. -/
def escape? : Reader Char
  | 'b' :: cs => some ('\x08', cs)
  | 't' :: cs => some ('\t', cs)
  | 'n' :: cs => some ('\n', cs)
  | 'f' :: cs => some ('\x0c', cs)
  | 'r' :: cs => some ('\r', cs)
  | 'e' :: cs => some ('\x1b', cs)
  | '"' :: cs => some ('"', cs)
  | '\\' :: cs => some ('\\', cs)
  | 'x' :: cs => codePoint? 2 cs
  | 'u' :: cs => codePoint? 4 cs
  | 'U' :: cs => codePoint? 8 cs
  | _ => none

/-- A string on one line, behind its opening quote. -/
def lineString (quote : Char) (escapes : Bool) : Nat → Reader (List Char)
  | 0, _ => none
  | _ + 1, [] => none
  | n + 1, c :: cs => do
    if c == quote then some ([], cs)
    else if c == '\\' && escapes then
      let (d, cs) ← escape? cs
      let (ds, cs) ← lineString quote escapes n cs
      some (d :: ds, cs)
    else if isPlain c then
      let (ds, cs) ← lineString quote escapes n cs
      some (c :: ds, cs)
    else none

/-- Passes over blanks and line ends. -/
def dropBlankLines : List Char → List Char
  | ' ' :: cs => dropBlankLines cs
  | '\t' :: cs => dropBlankLines cs
  | '\n' :: cs => dropBlankLines cs
  | '\r' :: '\n' :: cs => dropBlankLines cs
  | cs => cs

/-- Passes over blanks and line ends; there must be a line end among them. -/
def joinLines? (cs : List Char) : Option (List Char) :=
  (lineEnd? (cs.dropWhile fun c => c == ' ' || c == '\t')).map dropBlankLines

/-- A string on several lines, behind its opening quotes. Line ends are kept as they are. Up to two
quotes may stand in front of the closing ones. -/
def blockString (quote : Char) (escapes : Bool) : Nat → Reader (List Char)
  | 0, _ => none
  | _ + 1, [] => none
  | n + 1, c :: cs => do
    let quotes := (c :: cs).takeWhile (· == quote)
    if 3 ≤ quotes.length then
      if 5 < quotes.length then none
      else some (quotes.drop 3, (c :: cs).drop quotes.length)
    else if c == '\\' && escapes then
      match joinLines? cs with
      | some cs => blockString quote escapes n cs
      | none =>
        let (d, cs) ← escape? cs
        let (ds, cs) ← blockString quote escapes n cs
        some (d :: ds, cs)
    else if isPlain c || (lineEnd? (c :: cs)).isSome then
      let (ds, cs) ← blockString quote escapes n cs
      some (c :: ds, cs)
    else none

/-- Behind the opening quotes of a string on several lines, a line end does not count. -/
def dropLineEnd (cs : List Char) : List Char := (lineEnd? cs).getD cs

/-- A string of any kind. -/
def string? (cs : List Char) : Option (String × List Char) := do
  let (found, rest) ← match cs with
    | '"' :: '"' :: '"' :: cs => blockString '"' true (cs.length + 1) (dropLineEnd cs)
    | '\x27' :: '\x27' :: '\x27' :: cs => blockString '\x27' false (cs.length + 1) (dropLineEnd cs)
    | '"' :: cs => lineString '"' true (cs.length + 1) cs
    | '\x27' :: cs => lineString '\x27' false (cs.length + 1) cs
    | _ => none
  some (.ofList found, rest)

/-! ### Numbers -/

/-- Digits in which single underscores may stand between two digits. -/
def digits? (isDigit : Char → Bool) (cs : List Char) : Option (List Char) :=
  let groups := cs.splitOn '_'
  if groups.all fun g => !g.isEmpty && g.all isDigit then some (groups.flatMap id) else none

/-- The value of digits in a base. -/
def inBase (base : Nat) (digits : List Char) : Nat :=
  digits.foldl (fun n c => n * base + (Text.hexValue? c).getD 0) 0

/-- Decimal digits that have no zero in front of others. -/
def decimalDigits? (cs : List Char) : Option (List Char) := do
  let ds ← digits? Char.isDigit cs
  if ds.head? == some '0' && 1 < ds.length then none else some ds

/-- An integer. -/
def integer? (cs : List Char) : Option Int :=
  match cs with
  | '0' :: 'x' :: ds =>
    (digits? (fun c => (Text.hexValue? c).isSome) ds).map fun ds => (inBase 16 ds : Int)
  | '0' :: 'o' :: ds => (digits? (fun c => '0' ≤ c && c ≤ '7') ds).map fun ds => (inBase 8 ds : Int)
  | '0' :: 'b' :: ds =>
    (digits? (fun c => c == '0' || c == '1') ds).map fun ds => (inBase 2 ds : Int)
  | '+' :: ds => (decimalDigits? ds).map fun ds => (inBase 10 ds : Int)
  | '-' :: ds => (decimalDigits? ds).map fun ds => -(inBase 10 ds : Int)
  | ds => (decimalDigits? ds).map fun ds => (inBase 10 ds : Int)

/-- The sign of a number, and the rest. -/
def signed (cs : List Char) : Bool × List Char :=
  match cs with
  | '+' :: cs => (false, cs)
  | '-' :: cs => (true, cs)
  | cs => (false, cs)

/-- The exponent of a number. -/
def exponent? (cs : List Char) : Option Int := do
  let (negative, ds) := signed cs
  let ds ← digits? Char.isDigit ds
  some (if negative then -(inBase 10 ds : Int) else inBase 10 ds)

/-- A number with a fraction or an exponent, or one of the special numbers. -/
def real? (cs : List Char) : Option Json.Numeral := do
  let (negative, body) := signed cs
  if body == "inf".toList then return .real (.infinite negative)
  if body == "nan".toList then return .real .nan
  let isE (c : Char) : Bool := c == 'e' || c == 'E'
  let mantissa := body.takeWhile fun c => !isE c
  let exponent ← match body.drop mantissa.length with
    | [] => some 0
    | _ :: ds => exponent? ds
  let whole := mantissa.takeWhile (· != '.')
  let fraction ← match mantissa.drop whole.length with
    | [] => some []
    | _ :: ds => digits? Char.isDigit ds
  if mantissa.length == body.length && whole.length == mantissa.length then none
  let whole ← decimalDigits? whole
  let x := Double.ofDecimal negative (inBase 10 (whole ++ fraction)) (exponent - fraction.length)
  return if x.isFinite then .real x else .overflow

/-! ### Dates -/

/-- Whether a text has the shape of a pattern, in which a `0` stands for a digit. -/
def hasShape (pattern : String) (cs : List Char) : Bool :=
  pattern.length == cs.length &&
    (pattern.toList.zip cs).all fun (p, c) => if p == '0' then c.isDigit else p == c

/-- The number in a part of a text. -/
def numberAt (start length : Nat) (cs : List Char) : Nat :=
  inBase 10 ((cs.drop start).take length)

/-- Whether a text is a date. -/
def isDate (cs : List Char) : Bool :=
  hasShape "0000-00-00" cs &&
    (let year := numberAt 0 4 cs
     let month := numberAt 5 2 cs
     let leap := (year % 4 == 0 && year % 100 != 0) || year % 400 == 0
     let length := if month == 2 then (if leap then 29 else 28)
       else if month == 4 || month == 6 || month == 9 || month == 11 then 30 else 31
     1 ≤ month && month ≤ 12 && 1 ≤ numberAt 8 2 cs && numberAt 8 2 cs ≤ length)

/-- Whether a text is a time of the day. -/
def isTime (cs : List Char) : Bool :=
  let minutes := cs.take 5
  let seconds := (cs.drop 5).take 3
  let fraction := cs.drop 8
  hasShape "00:00" minutes && numberAt 0 2 cs ≤ 23 && numberAt 3 2 cs ≤ 59 &&
    (seconds.isEmpty || (hasShape ":00" seconds && numberAt 1 2 seconds ≤ 60)) &&
    match fraction with
    | [] => true
    | '.' :: ds => !ds.isEmpty && ds.all Char.isDigit
    | _ => false

/-- Whether a text is a time of the day with an offset, if it has one. -/
def isTimeWithOffset (cs : List Char) : Bool :=
  match cs.getLast? with
  | some 'Z' => isTime cs.dropLast
  | some 'z' => isTime cs.dropLast
  | _ =>
    let offset := cs.drop (cs.length - 6)
    isTime cs || ((hasShape "+00:00" offset || hasShape "-00:00" offset) &&
      numberAt 1 2 offset ≤ 23 && numberAt 4 2 offset ≤ 59 && isTime (cs.take (cs.length - 6)))

/-- Whether a text is a date, a time, or both. -/
def isMoment (cs : List Char) : Bool :=
  isDate cs || isTime cs ||
    (isDate (cs.take 10) && match cs.drop 10 with
      | c :: time => (c == 'T' || c == 't' || c == ' ') && isTimeWithOffset time
      | [] => false)

/-! ### Words -/

/-- Whether a character may stand in a value without quotes. -/
def isWordChar (c : Char) : Bool :=
  c.isAlphanum || c == '+' || c == '-' || c == '_' || c == '.' || c == ':'

/-- The document of a date. -/
def momentDocument (cs : List Char) : Json := .ofMembers [("moment", .ofText (.ofList cs))]

/-- The document of an integer, which a number of 64 bits must hold. -/
def integerDocument (i : Int) : Json :=
  .number (if -(2 ^ 63) ≤ i && i < 2 ^ 64 then .int i else .overflow)

/-- The document of a value without quotes. -/
def wordValue? (w : List Char) : Option Json :=
  if w == "true".toList then some (.bool true)
  else if w == "false".toList then some (.bool false)
  else match integer? w with
    | some i => some (integerDocument i)
    | none =>
      match real? w with
      | some x => some (.number x)
      | none => if isMoment w then some (momentDocument w) else none

/-- A value without quotes. A blank may stand between a date and a time. -/
def word? (cs : List Char) : Option (Json × List Char) := do
  let w := cs.takeWhile isWordChar
  let rest := cs.drop w.length
  if isDate w then
    let time := (rest.drop 1).takeWhile isWordChar
    let whole := w ++ ' ' :: time
    if rest.head? == some ' ' && !time.isEmpty && isMoment whole then
      return (momentDocument whole, rest.drop (time.length + 1))
  return (← wordValue? w, rest)

end LabelForge.Toml
