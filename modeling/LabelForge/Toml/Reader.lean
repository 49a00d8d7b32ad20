import LabelForge.Toml.Scalar
import LabelForge.Toml.Table

/-!
# LabelForge.Toml.Reader

**Reading a configuration text.** A text is a list of lines: headers, which open tables, and
names with values, which fill them. The result is a document like any other.

Design points:

* A value may go over several lines; what follows it on its last line is blank or a comment.
* Inside a table between braces a line may end wherever a blank may stand, except inside a dotted
  name.
* Arrays and tables between braces may be nested up to a limit, and so may dotted names be long.
* Reading has no error but failure, as what is wrong with a text is not told.
-/

namespace LabelForge.Toml

/-- Passes over blanks. -/
def blanks (cs : List Char) : List Char := cs.dropWhile fun c => c == ' ' || c == '\t'

/-- Passes over blanks and a comment, up to a line end or the end. -/
def restOfLine? (cs : List Char) : Option (List Char) :=
  let cs := blanks cs
  let cs := if cs.head? == some '#' then cs.dropWhile isPlain else cs
  if cs.isEmpty then some [] else lineEnd? cs

/-- Passes over blanks, comments and line ends. -/
def gap : Nat → List Char → List Char
  | 0, cs => cs
  | n + 1, cs =>
    let cs := blanks cs
    if cs.isEmpty then []
    else match restOfLine? cs with
      | some rest => gap n rest
      | none => cs

/-- Whether a character may stand in a name without quotes. -/
def isNameChar (c : Char) : Bool := c.isAlphanum || c == '_' || c == '-'

/-- A name. -/
def name? (cs : List Char) : Option (String × List Char) :=
  match cs with
  | '"' :: cs => (lineString '"' true (cs.length + 1) cs).map fun (s, rest) => (.ofList s, rest)
  | '\x27' :: cs =>
    (lineString '\x27' false (cs.length + 1) cs).map fun (s, rest) => (.ofList s, rest)
  | cs =>
    let found := cs.takeWhile isNameChar
    if found.isEmpty then none else some (.ofList found, cs.drop found.length)

/-- How many arrays and tables may be open at once, and how many names a dotted name may have. -/
def maxDepth : Nat := 80

/-- A dotted name of at most the given number of names. -/
def namePath? : Nat → Reader (List String)
  | 0, _ => none
  | n + 1, cs => do
    let (first, cs) ← name? (blanks cs)
    match blanks cs with
    | '.' :: cs =>
      let (rest, cs) ← namePath? n cs
      some (first :: rest, cs)
    | cs => some ([first], cs)

/-- A dotted name. -/
def dottedName? : Reader (List String) := namePath? maxDepth

mutual

/-- A value inside which `room` arrays and tables may be open at once. -/
def value? (room : Nat) : Nat → Reader Json
  | 0, _ => none
  | n + 1, cs =>
    match cs, room with
    | '[' :: _, 0 => none
    | '\x7b' :: _, 0 => none
    | '[' :: cs, room + 1 => (items? room n cs).map fun (js, rest) => (.ofItems js, rest)
    | '\x7b' :: cs, room + 1 => (members? room n [] cs).map fun (entries, rest) =>
        (.ofMembers (documents entries), rest)
    | c :: _, _ =>
      if c == '"' || c == '\x27' then (string? cs).map fun (s, rest) => (.ofText s, rest)
      else word? cs
    | [], _ => none

/-- The items of an array up to its end. -/
def items? (room : Nat) : Nat → Reader (List Json)
  | 0, _ => none
  | n + 1, cs => do
    match gap cs.length cs with
    | ']' :: cs => some ([], cs)
    | cs =>
      let (j, cs) ← value? room n cs
      match gap cs.length cs with
      | ',' :: cs =>
        let (js, cs) ← items? room n cs
        some (j :: js, cs)
      | ']' :: cs => some ([j], cs)
      | _ => none

/-- The members of a table between braces up to its end. -/
def members? (room : Nat) : Nat → Entries → Reader Entries
  | 0, _, _ => none
  | n + 1, entries, cs => do
    match gap cs.length cs with
    | '\x7d' :: cs => some (entries, cs)
    | cs =>
      let (path, cs) ← dottedName? cs
      match gap cs.length cs with
      | '=' :: cs =>
        let (j, cs) ← value? room n (gap cs.length cs)
        let entries ← putValue none j path entries
        match gap cs.length cs with
        | ',' :: cs => members? room n entries cs
        | '\x7d' :: cs => some (entries, cs)
        | _ => none
      | _ => none

end

/-- What has been read of a text: its tables, and the way to the open one. -/
structure Progress where
  root : Entries := []
  current : List String := []

/-- Reads a header or a name with its value; returns what follows the line. -/
def line? (p : Progress) : Reader Progress := fun cs => do
  match cs with
  | '[' :: '[' :: cs =>
    let (path, cs) ← dottedName? cs
    match cs with
    | ']' :: ']' :: cs => some (⟨← openElement path p.root, path⟩, ← restOfLine? cs)
    | _ => none
  | '[' :: cs =>
    let (path, cs) ← dottedName? cs
    match cs with
    | ']' :: cs => some (⟨← openTable path p.root, path⟩, ← restOfLine? cs)
    | _ => none
  | cs =>
    let (path, cs) ← dottedName? cs
    match cs with
    | '=' :: cs =>
      let (j, cs) ← value? maxDepth (cs.length + 1) (blanks cs)
      let root ← inOpen (putValue none j path) p.current p.root
      some ({ p with root }, ← restOfLine? cs)
    | _ => none

/-- Reads the lines of a text. -/
def lines? : Nat → Progress → List Char → Option Progress
  | 0, _, _ => none
  | n + 1, p, cs => do
    match gap cs.length cs with
    | [] => some p
    | cs =>
      let (p, rest) ← line? p cs
      lines? n p rest

/-- The document of a configuration text. -/
def read? (text : String) : Option Json := do
  let cs := text.toList
  let cs := if cs.head? == some '\ufeff' then cs.drop 1 else cs
  let p ← lines? (cs.length + 2) {} cs
  some (.ofMembers (documents p.root))

end LabelForge.Toml
