/-!
# LabelForge.Shell.Arithmetic

**Arithmetic expressions.** The text of an expression is read and evaluated at once. Values are
signed words of 64 bits; a name stands for the value of a variable, or for zero.

Design points:

* Operators are ordered by how tightly they bind. All of them are read by one function whose
  argument is the least strength that it accepts.
* What a connective or a choice does not need is read, but it is not live: no variable is looked
  up or changed, and nothing is divided.
-/

namespace LabelForge.Shell.Arithmetic

/-- Why an expression has no value. -/
inductive Fault where
  /-- Something else would have to come next. -/
  | expecting (what : String)
  | divisionByZero
  /-- The value of a variable is no number. -/
  | noNumber (value : String)
  deriving DecidableEq, Repr

/-- The message of a fault; `text` is the expression. -/
def Fault.message (text : String) : Fault → String
  | .expecting what => "arithmetic expression: expecting " ++ what ++ ": \"" ++ text ++ "\""
  | .divisionByZero => "arithmetic expression: division by zero: \"" ++ text ++ "\""
  | .noNumber value => "Illegal number: " ++ value

/-- A value of 64 bits. -/
def wrap (i : Int) : Int := Int.bmod i (2 ^ 64)

/-- The value of a truth value. -/
def truth (b : Bool) : Int := if b then 1 else 0

/-- An operator between two values. -/
structure Operator where
  sign : String
  strength : Nat
  apply : Int → Int → Except Fault Int

/-- The operators, longer signs first. -/
def operators : List Operator :=
  let total (f : Int → Int → Int) : Int → Int → Except Fault Int := fun a b => .ok (wrap (f a b))
  let test (f : Int → Int → Bool) := total fun a b => truth (f a b)
  let word (f : BitVec 64 → BitVec 64 → BitVec 64) :=
    total fun a b => (f (BitVec.ofInt 64 a) (BitVec.ofInt 64 b)).toInt
  let ratio (f : Int → Int → Int) : Int → Int → Except Fault Int := fun a b =>
    if b == 0 then .error .divisionByZero else .ok (wrap (f a b))
  [⟨"||", 1, test fun a b => a != 0 || b != 0⟩, ⟨"&&", 2, test fun a b => a != 0 && b != 0⟩,
    ⟨"<<", 8, total fun a b => a * 2 ^ (b % 64).toNat⟩,
    ⟨">>", 8, total fun a b => a / 2 ^ (b % 64).toNat⟩,
    ⟨"==", 6, test fun a b => a == b⟩, ⟨"!=", 6, test fun a b => a != b⟩,
    ⟨"<=", 7, test fun a b => a ≤ b⟩, ⟨">=", 7, test fun a b => a ≥ b⟩,
    ⟨"<", 7, test fun a b => a < b⟩, ⟨">", 7, test fun a b => a > b⟩,
    ⟨"|", 3, word fun a b => a ||| b⟩, ⟨"^", 4, word fun a b => a ^^^ b⟩,
    ⟨"&", 5, word fun a b => a &&& b⟩,
    ⟨"+", 9, total fun a b => a + b⟩, ⟨"-", 9, total fun a b => a - b⟩,
    ⟨"*", 10, total fun a b => a * b⟩, ⟨"/", 10, ratio Int.tdiv⟩, ⟨"%", 10, ratio Int.tmod⟩]

/-- Passes over blanks. -/
def blanks (cs : List Char) : List Char := cs.dropWhile Char.isWhitespace

/-- The value of a digit. -/
def digit? (c : Char) : Option Nat :=
  if c.isDigit then some (c.toNat - 48)
  else if 'a' ≤ c && c ≤ 'f' then some (c.toNat - 87)
  else if 'A' ≤ c && c ≤ 'F' then some (c.toNat - 55)
  else none

/-- The value of digits in a base. -/
def inBase (base : Nat) (cs : List Char) : Nat :=
  cs.foldl (fun n c => n * base + (digit? c).getD 0) 0

/-- The greatest value. -/
def greatest : Int := 2 ^ 63 - 1

/-- A value in the range of a word; one outside is replaced by the end of the range. -/
def clamp (i : Int) : Int := max (-greatest - 1) (min greatest i)

/-- Reads the digits of a number, without a limit to its value; returns what follows it. A number
that starts with a zero is octal. -/
def number (cs : List Char) : Nat × List Char :=
  match cs with
  | '0' :: x :: rest =>
    let isHex (c : Char) : Bool := (digit? c).isSome
    if (x == 'x' || x == 'X') && rest.head?.any isHex then
      let digits := rest.takeWhile isHex
      (inBase 16 digits, rest.drop digits.length)
    else
      let digits := (x :: rest).takeWhile fun c => '0' ≤ c && c ≤ '7'
      (inBase 8 digits, (x :: rest).drop digits.length)
  | cs =>
    let digits := cs.takeWhile Char.isDigit
    (inBase 10 digits, cs.drop digits.length)

/-- The value of a text that is a number, and nothing else; the empty text is zero. -/
def valueOfText? (s : String) : Option Int :=
  let cs := blanks s.toList
  let (sign, cs) := match cs with
    | '-' :: cs => (-1, cs)
    | '+' :: cs => (1, cs)
    | cs => (1, cs)
  let (n, rest) := number cs
  if (blanks rest).isEmpty then some (clamp (sign * n)) else none

/-- What assignments have changed so far. -/
abbrev Evaluation := StateT (List (String × Int)) (Except Fault)

/-- The operators that may stand before an equals sign. -/
def assigningSigns : List String := ["+", "-", "*", "/", "%", "<<", ">>", "&", "|", "^"]

/-- The operator of an assignment at the start of a text, if there is one, and what follows. -/
def assignment? (cs : List Char) : Option (Option Operator × List Char) :=
  match cs with
  | '=' :: '=' :: _ => none
  | '=' :: rest => some (none, rest)
  | cs =>
    match assigningSigns.find? fun s => (s.toList ++ ['=']).isPrefixOf cs with
    | some s => some (operators.find? fun o => o.sign == s, cs.drop (s.length + 1))
    | none => none

/-- The operator at the start of a text. -/
def operator? (cs : List Char) : Option Operator :=
  if (assignment? cs).isSome then none else operators.find? fun o => o.sign.toList.isPrefixOf cs

/-- The name at the start of a text; it is empty if there is none. -/
def nameAtStart (cs : List Char) : List Char :=
  match cs with
  | c :: _ => if c.isAlpha || c == '_' then cs.takeWhile fun d => d.isAlphanum || d == '_' else []
  | [] => []

/-- The value of a variable. -/
def look (value : String → String) (name : String) : Evaluation Int := do
  match (← get).lookup name with
  | some i => return i
  | none =>
    match valueOfText? (value name) with
    | some i => return i
    | none => throw (.noNumber (value name))

/-- Applies an operator, if that is live. -/
def combine (live : Bool) (o : Operator) (a b : Int) : Evaluation Int :=
  if live then StateT.lift (o.apply a b) else pure 0

/-- Whether the right side of an operator is live; that of a connective is not if the left side
decides. -/
def liveRight (live : Bool) (o : Operator) (a : Int) : Bool :=
  live && !(o.sign == "||" && a != 0) && !(o.sign == "&&" && a == 0)

mutual

/-- Reads an operand. -/
def primary (value : String → String) (live : Bool) :
    Nat → List Char → Evaluation (Int × List Char)
  | 0, _ => throw (.expecting "primary")
  | n + 1, cs => do
    match blanks cs with
    | '(' :: cs =>
      let (a, cs) ← assignment value live n cs
      match blanks cs with
      | ')' :: cs => return (a, cs)
      | _ => throw (.expecting "\x27)\x27")
    | '-' :: cs =>
      let (a, cs) ← primary value live n cs
      return (wrap (-a), cs)
    | '+' :: cs => primary value live n cs
    | '!' :: cs =>
      let (a, cs) ← primary value live n cs
      return (truth (a == 0), cs)
    | '~' :: cs =>
      let (a, cs) ← primary value live n cs
      return (wrap (-a - 1), cs)
    | cs =>
      let name := nameAtStart cs
      if !name.isEmpty then
        let a ← if live then look value (.ofList name) else pure 0
        return (a, cs.drop name.length)
      else if cs.head?.any Char.isDigit then
        let (a, rest) := number cs
        return (clamp a, rest)
      else throw (.expecting "primary")

/-- Reads the operators behind an operand that bind at least as tightly as a strength. -/
def operations (value : String → String) (live : Bool) (strength : Nat) (a : Int) :
    Nat → List Char → Evaluation (Int × List Char)
  | 0, _ => throw (.expecting "primary")
  | n + 1, cs => do
    let cs := blanks cs
    match operator? cs with
    | some o =>
      if o.strength < strength then return (a, cs)
      let (b, after) ← expression value (liveRight live o a) (o.strength + 1) n
        (cs.drop o.sign.length)
      operations value live strength (← combine live o a b) n after
    | none => return (a, cs)

/-- Reads an expression whose operators bind at least as tightly as a strength. -/
def expression (value : String → String) (live : Bool) (strength : Nat) :
    Nat → List Char → Evaluation (Int × List Char)
  | 0, _ => throw (.expecting "primary")
  | n + 1, cs => do
    let (a, cs) ← primary value live n cs
    operations value live strength a n cs

/-- Reads an expression that may choose between two others. -/
def condition (value : String → String) (live : Bool) :
    Nat → List Char → Evaluation (Int × List Char)
  | 0, _ => throw (.expecting "primary")
  | n + 1, cs => do
    let (test, cs) ← expression value live 0 n cs
    match blanks cs with
    | '?' :: cs =>
      let (a, cs) ← assignment value (live && test != 0) n cs
      match blanks cs with
      | ':' :: cs =>
        let (b, cs) ← condition value (live && test == 0) n cs
        return (if test != 0 then a else b, cs)
      | _ => throw (.expecting "\x27:\x27")
    | cs => return (test, cs)

/-- Reads an expression that may assign to a variable. -/
def assignment (value : String → String) (live : Bool) :
    Nat → List Char → Evaluation (Int × List Char)
  | 0, _ => throw (.expecting "primary")
  | n + 1, cs => do
    let cs := blanks cs
    let name := nameAtStart cs
    match if name.isEmpty then none else assignment? (blanks (cs.drop name.length)) with
    | none => condition value live n cs
    | some (o, rest) =>
      let (b, rest) ← assignment value live n rest
      if !live then return (b, rest)
      let name := String.ofList name
      let changed ← match o with
        | some o => combine live o (← look value name) b
        | none => pure b
      modify fun changes => (name, changed) :: changes
      return (changed, rest)

end

/-- The value of an expression, and what it assigns to variables, the last assignment first;
`value` gives the values of variables. -/
def evaluate (value : String → String) (text : String) :
    Except Fault (Int × List (String × Int)) := do
  let ((a, rest), changes) ← (assignment value true (text.length * 6 + 8) text.toList).run []
  if (blanks rest).isEmpty then return (a, changes) else throw (.expecting "EOF")

end LabelForge.Shell.Arithmetic
