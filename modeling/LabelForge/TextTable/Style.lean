import LabelForge.Text.Extent

/-!
# LabelForge.TextTable.Style

**Styles in the text of a cell.** A terminal changes its colours and its typeface at escape codes
in a text. Where a text is cut into pieces, every piece has to begin with the codes that are active
there, and must not leave its style to what is drawn beside it.

Design points:

* Codes are active from where they stand up to a reset; what they mean does not matter.
* Two readings of a text are used: one finds the codes that set a style, the other one the sequences
  of any kind, which a terminal does not show and which take no columns.
* A code or sequence that is not finished is text.
-/

namespace LabelForge.TextTable

/-- The character that begins an escape sequence. -/
def escape : Char := '\x1b'

/-- The code that ends all styles. -/
def reset : List Char := [escape, '[', '0', 'm']

/-- How far a code has been read. -/
inductive CodeState where
  /-- The escape character. -/
  | begun
  /-- A parenthesis right behind it. -/
  | parenthesis
  /-- More punctuation. -/
  | introduced
  /-- Some digits of a number. -/
  | digits (count : Nat)
  /-- A semicolon behind a number. -/
  | separated
  /-- The last character of the code. -/
  | closed
  deriving DecidableEq, Repr

namespace CodeState

/-- Whether what has been read may be a whole code. -/
def isComplete : CodeState → Bool
  | .digits _ | .closed => true
  | _ => false

/-- Whether a letter or sign ends a code. -/
def isFinal (c : Char) : Bool :=
  ('A' ≤ c && c ≤ 'P') || ('f' ≤ c && c ≤ 'n') || "RZcqry=><".contains c

/-- Goes on with a character; `none` if no code has it there. -/
def next (s : CodeState) (c : Char) : Option CodeState :=
  if c.isDigit then
    match s with
    | .parenthesis => some (if c ≤ '2' then .closed else .digits 1)
    | .begun | .introduced | .separated => some (.digits 1)
    | .digits count => if count < 5 then some (.digits (count + 1)) else none
    | .closed => none
  else if isFinal c then
    match s with
    | .digits count => if count < 5 then some .closed else none
    | .closed => none
    | _ => some .closed
  else if c == ';' then
    match s with
    | .begun | .parenthesis | .introduced => some .introduced
    | .digits count => if count < 5 then some .separated else none
    | .separated => some .separated
    | .closed => none
  else if "()[#?".contains c then
    match s with
    | .begun => some (if c == '(' || c == ')' then .parenthesis else .introduced)
    | .parenthesis | .introduced => some .introduced
    | _ => none
  else none

end CodeState

/-- How many characters the longest code takes that goes on from a state. -/
def codeLength (s : CodeState) : List Char → Option Nat
  | [] => none
  | c :: cs =>
    match s.next c with
    | none => none
    | some s =>
      match codeLength s cs with
      | some n => some (n + 1)
      | none => if s.isComplete then some 1 else none

/-- A part of a text. -/
inductive Piece where
  | code (cs : List Char)
  | text (cs : List Char)
  deriving DecidableEq, Repr

/-- The characters of a piece. -/
def Piece.toList : Piece → List Char
  | .code cs => cs
  | .text cs => cs

/-- A character of text before other pieces. -/
def Piece.prependText (c : Char) : List Piece → List Piece
  | .text cs :: rest => .text (c :: cs) :: rest
  | rest => .text [c] :: rest

/-- The pieces of a text of which the first characters have been read. -/
def piecesFrom : (read : Nat) → List Char → List Piece
  | _, [] => []
  | read + 1, _ :: cs => piecesFrom read cs
  | 0, c :: cs =>
    let found := if c == escape || c == '\x9b' then codeLength .begun cs else none
    match found with
    | some n => .code (c :: cs.take n) :: piecesFrom n cs
    | none => Piece.prependText c (piecesFrom 0 cs)

/-- The codes and texts that a text is made of. -/
def pieces (cs : List Char) : List Piece :=
  piecesFrom 0 cs

/-- Codes that are active, the earliest one first. -/
abbrev Style := List (List Char)

/-- The style behind a code. -/
def Style.push (style : Style) (code : List Char) : Style :=
  if code == reset then [] else style ++ [code]

/-- The style behind a text. -/
def Style.after (style : Style) (cs : List Char) : Style :=
  (pieces cs).foldl (fun style piece =>
    match piece with
    | .code code => style.push code
    | .text _ => style) style

/-- What ends a style. -/
def Style.ending (style : Style) : List Char :=
  if style.isEmpty then [] else reset

/-- Texts that have been cut from one text, each with the style that is active in it. -/
def carryStyle (style : Style) : List (List Char) → List (List Char)
  | [] => []
  | part :: rest =>
    let after := style.after part
    (style.flatten ++ part ++ after.ending) :: carryStyle after rest

/-- How far an escape sequence of any kind has been read. -/
inductive SequenceState where
  /-- The escape character. -/
  | begun
  /-- A control sequence with its parameters. -/
  | control
  /-- Intermediate characters. -/
  | intermediate
  /-- A text for the terminal; a bell may end it. -/
  | string (bell : Bool)
  /-- An escape character within such a text. -/
  | ending (bell : Bool)
  deriving DecidableEq, Repr

/-- How many characters a sequence takes that goes on from a state. -/
def sequenceLength : SequenceState → List Char → Option Nat
  | _, [] => none
  | .begun, c :: cs =>
    if c == '[' then (sequenceLength .control cs).map (· + 1)
    else if c == ']' then (sequenceLength (.string true) cs).map (· + 1)
    else if "PX^_".contains c then (sequenceLength (.string false) cs).map (· + 1)
    else if ' ' ≤ c && c ≤ '/' then (sequenceLength .intermediate cs).map (· + 1)
    else if '0' ≤ c && c ≤ '~' then some 1
    else none
  | .control, c :: cs =>
    if ' ' ≤ c && c ≤ '?' then (sequenceLength .control cs).map (· + 1)
    else if '@' ≤ c && c ≤ '~' then some 1
    else none
  | .intermediate, c :: cs =>
    if ' ' ≤ c && c ≤ '/' then (sequenceLength .intermediate cs).map (· + 1)
    else if '0' ≤ c && c ≤ '~' then some 1
    else none
  | .string bell, c :: cs =>
    if bell && c == '\x07' then some 1
    else
      let state := if c == escape then .ending bell else .string bell
      (sequenceLength state cs).map (· + 1)
  | .ending bell, c :: cs =>
    if c == '\\' || (bell && c == '\x07') then some 1
    else
      let state := if c == escape then .ending bell else .string bell
      (sequenceLength state cs).map (· + 1)

/-- What a terminal shows of a text of which the first characters have been read. -/
def visibleFrom : (read : Nat) → List Char → List Char
  | _, [] => []
  | read + 1, _ :: cs => visibleFrom read cs
  | 0, c :: cs =>
    match if c == escape then sequenceLength .begun cs else none with
    | some n => visibleFrom n cs
    | none => c :: visibleFrom 0 cs

/-- How many columns a text takes on a terminal. -/
def columnsOf (cs : List Char) : Nat :=
  Text.extent (visibleFrom 0 cs)

end LabelForge.TextTable
