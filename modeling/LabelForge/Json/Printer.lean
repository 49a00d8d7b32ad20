import LabelForge.Json.Basic
import LabelForge.Text.Quoted

/-!
# LabelForge.Json.Printer

**Writing documents.** Two layouts of the same tokens: *compact* without any blank, and *pretty*
with two blanks of indentation per level, where an empty array or object stays on its line.

Design points:

* A string escapes the quote, the backslash and the control characters below the blank, the
  common ones by letter, the others as four lower-case hexadecimal digits. All else is raw.
* Doubles are written by `Double.documentText`, so a number without a fraction gets one.
-/

namespace LabelForge.Json

/-- The escape of one character inside a string. -/
def escapeChar (c : Char) : List Char :=
  match c with
  | '"' => ['\\', '"']
  | '\\' => ['\\', '\\']
  | '\x08' => ['\\', 'b']
  | '\x0c' => ['\\', 'f']
  | '\n' => ['\\', 'n']
  | '\r' => ['\\', 'r']
  | '\t' => ['\\', 't']
  | c =>
    if c.toNat < 0x20 then
      ['\\', 'u', '0', '0', Nat.digitChar (c.toNat / 16), Nat.digitChar (c.toNat % 16)]
    else [c]

/-- A string between quotes. -/
def stringChars (s : String) : List Char :=
  '"' :: s.toList.flatMap escapeChar ++ ['"']

/-- The text of a number. -/
def Numeral.chars : Numeral → List Char
  | .int i => (Number.intText i).toList
  | .real x => x.documentText.toList
  | .overflow => []

/-- The text of a value without parts. -/
def scalarChars : Json → List Char
  | .null => "null".toList
  | .bool b => (if b then "true" else "false").toList
  | .number n => n.chars
  | .text s => stringChars (s.getD "")
  | _ => []

/-- The text of a member's key. -/
def keyChars (key : Option String) : List Char :=
  stringChars (key.getD "")

/-! ### Compact layout -/

mutual

/-- A document without blanks. -/
def compactChars : Json → List Char
  | .array items => '[' :: compactItems items true ++ [']']
  | .object members => '\x7b' :: compactMembers members true ++ ['\x7d']
  | j => scalarChars j

/-- Items separated by commas. -/
def compactItems : Items → Bool → List Char
  | .done, _ => []
  | .stopped _, _ => []
  | .cons j rest, first =>
    (if first then [] else [',']) ++ compactChars j ++ compactItems rest false

/-- Members separated by commas. -/
def compactMembers : Members → Bool → List Char
  | .done, _ => []
  | .stopped _, _ => []
  | .cons k j rest, first =>
    (if first then [] else [',']) ++ keyChars k ++ ':' :: compactChars j ++
      compactMembers rest false

end

/-- The compact text of a document. -/
def compact (j : Json) : String := .ofList (compactChars j)

/-! ### Pretty layout -/

/-- The start of a line at a level. -/
def lineStart (level : Nat) : List Char :=
  '\n' :: List.replicate (2 * level) ' '

mutual

/-- A document whose parts stand on lines of their own. -/
def prettyChars (level : Nat) : Json → List Char
  | .array items =>
    match items with
    | .cons .. => '[' :: prettyItems (level + 1) items true ++ lineStart level ++ [']']
    | _ => ['[', ']']
  | .object members =>
    match members with
    | .cons .. => '\x7b' :: prettyMembers (level + 1) members true ++ lineStart level ++ ['\x7d']
    | _ => ['\x7b', '\x7d']
  | j => scalarChars j

/-- Items on lines of their own. -/
def prettyItems (level : Nat) : Items → Bool → List Char
  | .done, _ => []
  | .stopped _, _ => []
  | .cons j rest, first =>
    (if first then [] else [',']) ++ lineStart level ++ prettyChars level j ++
      prettyItems level rest false

/-- Members on lines of their own. -/
def prettyMembers (level : Nat) : Members → Bool → List Char
  | .done, _ => []
  | .stopped _, _ => []
  | .cons k j rest, first =>
    (if first then [] else [',']) ++ lineStart level ++ keyChars k ++ ':' :: ' ' ::
      prettyChars level j ++ prettyMembers level rest false

end

/-- The pretty text of a document. -/
def pretty (j : Json) : String := .ofList (prettyChars 0 j)

end LabelForge.Json
