import LabelForge.Csv.Record
import LabelForge.Frame
import LabelForge.Text.Digit
import LabelForge.Text.Quoted

/-!
# LabelForge.Csv.Reader

**Reading tables.** The first line holds the headings, every further record is a row. A table is
read twice: first line by line, which tells the type of every column from the shapes of its cells
(truth values, integers, numbers, or text), then record by record, which reads the cells in these
types.

Design points:

* A cell is missing if it is empty and not quoted, or if it is one of the tokens that stand for
  a missing value, quoted or not. Two quotes are an empty text, which is a value.
* All cells of one shape give the column that type; integers next to other numbers give numbers;
  any other mixture, and a column without values, is text.
* A carriage return at the end of a cell is dropped when the cell is read. When shapes are told it
  is dropped at the end of a line only, and not if it is the whole line; so a return in front of
  a comma makes its column one of text.
* A row with fewer fields than headings is filled up with missing cells, one with more is a
  fault. So are an integer beyond 64 bits in a column of integers, a cell that is no text, a
  quoted cell with anything behind its quotes in a column of text, and a stray quote because of
  which there are not as many records as lines.
* A heading keeps its doubled quotes, and a name that was there before gets a number behind it.
* The headings are looked for behind all leading line ends. With one heading, the rows begin
  behind the first line end all the same, so they hold whatever stands in between.
-/

namespace LabelForge.Csv

open Number
open Text (Bytes)

/-- Why bytes are not a table. -/
inductive CsvError where
  /-- There is no heading. -/
  | noData
  /-- A row has more fields than there are headings. -/
  | surplusFields
  /-- A cell is no text. -/
  | notText
  /-- A quoted cell does not end in a quote. -/
  | unclosedQuote
  /-- There are not as many records as lines. -/
  | strayQuote
  /-- The bytes are those of a compressed file. -/
  | compressed
  /-- A cell cannot be read in the type of its column. -/
  | badValue (text : String)
  /-- Two columns share a name. -/
  | duplicateName
  deriving DecidableEq, Repr

/-- The message of a fault. -/
def CsvError.message : CsvError → String
  | .noData => "the table is empty"
  | .surplusFields => "a row has more fields than there are columns"
  | .notText => "a cell is not valid UTF-8"
  | .unclosedQuote => "a quoted cell does not end in a quote"
  | .strayQuote => "a quote stands where none belongs"
  | .compressed => "the table is compressed"
  | .badValue text => "cannot read " ++ Text.quoted text ++ " in the type of its column"
  | .duplicateName => "two columns have the same name"

/-- The texts that stand for a missing value. -/
def missingTokens : List String := [
  "#N/A", "#N/A N/A", "#NA", "-1.#IND", "-1.#QNAN", "-NaN", "-nan", "1.#IND", "1.#QNAN",
  "<NA>", "N/A", "NA", "NULL", "NaN", "None", "n/a", "nan", "null"]

/-! ### Shapes -/

/-- What the text of a cell looks like. -/
inductive Shape where
  | bool
  | int
  | float
  | text
  deriving DecidableEq, Repr

/-- The lower-case form of a letter of ASCII, and of the long s. -/
def foldLetter (c : Char) : Char :=
  if c == '\u017f' then 's' else c.toLower

/-- Whether a text is a word for a truth value, in any case. -/
def isBoolShape (cs : List Char) : Bool :=
  let folded := cs.map foldLetter
  folded == "true".toList || folded == "false".toList

/-- Digits, at least one. -/
def isDigits (cs : List Char) : Bool :=
  !cs.isEmpty && cs.all Text.isDecimalDigit

/-- Drops a sign. -/
def dropSign : List Char → List Char
  | '+' :: rest => rest
  | '-' :: rest => rest
  | cs => cs

/-- Whether a text is an integer, with a minus sign or without. -/
def isIntShape : List Char → Bool
  | '-' :: rest => isDigits rest
  | cs => isDigits cs

/-- Whether a text is the letter of an exponent and the exponent. -/
def isExponent : List Char → Bool
  | c :: rest => (c == 'e' || c == 'E') && isDigits (dropSign rest)
  | [] => false

/-- Whether a text without its sign is a number with a point, an exponent or both, or a word for
an infinity or an undefined number. -/
def isUnsignedFloatShape (cs : List Char) : Bool :=
  let whole := cs.takeWhile Text.isDecimalDigit
  match cs.dropWhile Text.isDecimalDigit with
  | '.' :: rest =>
    let fraction := rest.takeWhile Text.isDecimalDigit
    let rest := rest.dropWhile Text.isDecimalDigit
    if fraction.isEmpty then !whole.isEmpty && rest.isEmpty
    else rest.isEmpty || isExponent rest
  | rest => cs == "inf".toList || cs == "NaN".toList || (!whole.isEmpty && isExponent rest)

/-- The shape of a text. -/
def shapeOf (s : String) : Shape :=
  let cs := s.toList
  if isBoolShape cs then .bool
  else if isUnsignedFloatShape (dropSign cs) then .float
  else if isIntShape cs then .int
  else .text

/-- The shape of a column that has cells of both shapes. -/
def Shape.join (a b : Shape) : Shape :=
  if a == b then a
  else match a, b with
    | .int, .float => .float
    | .float, .int => .float
    | _, _ => .text

/-- The shape of a column; text if there is no cell to go by. -/
def columnShape : List Shape → Shape
  | [] => .text
  | s :: rest => rest.foldl Shape.join s

/-- The type of a column of a shape. -/
def Shape.dataType : Shape → DataType
  | .bool => .bool
  | .int => .int .i64
  | .float => .double
  | .text => .text

/-! ### Values -/

/-- The value of a truth value's word. -/
def boolValue? (s : String) : Option Bool :=
  let folded := s.toList.map Char.toLower
  if folded == "true".toList then some true
  else if folded == "false".toList then some false
  else none

/-- The value of an integer of 64 bits. -/
def intValue? (s : String) : Option Int :=
  let (negative, ds) := match s.toList with
    | '-' :: rest => (true, rest)
    | cs => (false, cs)
  if ds.isEmpty || !ds.all Char.isDigit then none
  else
    let n := digitsValue ds
    if negative then if n ≤ 2 ^ 63 then some (-(n : Int)) else none
    else if n < 2 ^ 63 then some n else none

/-- The value of an exponent, from behind its letter. -/
def exponentValue? (cs : List Char) : Option Int :=
  let ds := dropSign cs
  if ds.isEmpty || !ds.all Char.isDigit then none
  else some (if cs.head? == some '-' then -(digitsValue ds : Int) else digitsValue ds)

/-- The double nearest to the number of a text. -/
def floatValue? (s : String) : Option Double :=
  let cs := s.toList
  let negative := cs.head? == some '-'
  let cs := dropSign cs
  if cs == "inf".toList then some (.infinite negative)
  else if cs == "NaN".toList then some .nan
  else
    let whole := cs.takeWhile Char.isDigit
    let rest := cs.dropWhile Char.isDigit
    let (fraction, rest) := match rest with
      | '.' :: rest => (rest.takeWhile Char.isDigit, rest.dropWhile Char.isDigit)
      | rest => ([], rest)
    let exponent? := match rest with
      | [] => some 0
      | _ :: rest => exponentValue? rest
    match exponent? with
    | some e =>
      if whole.isEmpty && fraction.isEmpty then none
      else some (Double.ofDecimal negative (digitsValue (whole ++ fraction)) (e - fraction.length))
    | none => none

/-! ### Types of columns -/

/-- The shape of a field, unless it stands for a missing value. -/
def fieldShape? (f : RawField) : Option Shape :=
  if f.bytes.isEmpty then none
  else
    let text := Text.lenientText f.inner
    if missingTokens.contains text then none else some (shapeOf text)

/-- The shapes of the fields of a line; an empty line has none. -/
def lineShapes (line : Bytes) : List (Option Shape) :=
  if line.isEmpty then []
  else
    (fields (if line.length == 1 then line else withoutReturn line)).map fieldShape?

/-- The shapes of as many columns as there are headings, told by the lines below them. -/
def columnShapes (width : Nat) (lines : List Bytes) : List Shape :=
  let table := lines.map lineShapes
  (List.range width).map fun i => columnShape (table.filterMap fun row => row.getD i none)

/-! ### Cells -/

/-- A cell whose bytes have been read as text. -/
structure TextCell where
  /-- The text without the outer quotes. -/
  bare : String
  /-- The text it stands for. -/
  content : String
  /-- Whether it is quoted and its quotes are its first and last byte, or it is not quoted. -/
  closed : Bool
  deriving DecidableEq, Repr

/-- Reads the bytes of a field as text; a missing cell has none. -/
def textCell? (f : RawField) : Except CsvError (Option TextCell) :=
  let f := f.trimReturn
  if f.bytes.isEmpty then .ok none
  else
    match Text.textOf? f.inner, Text.textOf? f.content with
    | some bare, some content =>
      .ok (if missingTokens.contains bare then none
        else some ⟨bare, content, !f.quoted || f.isClosed⟩)
    | _, _ => .error .notText

/-- Reads a cell in the type of its column. -/
def cellOf (shape : Shape) : Option TextCell → Except CsvError Cell
  | none => .ok .missing
  | some t =>
    let parsed := match shape with
      | .text => some (Cell.text t.content)
      | .bool => (boolValue? t.bare).map Cell.bool
      | .int => (intValue? t.bare).map Cell.int
      | .float => (floatValue? t.bare).map Cell.real
    match parsed with
    | some cell => if shape == .text && !t.closed then .error .unclosedQuote else .ok cell
    | none => .error (.badValue t.bare)

/-- Reads a column. -/
def columnOf (name : String) (shape : Shape) (cells : List (Option TextCell)) :
    Except CsvError Column := do
  return ⟨name, shape.dataType, ← cells.mapM (cellOf shape)⟩

/-! ### Tables -/

/-- The name in a heading, without the quotes around it. -/
def headingName (f : RawField) : String :=
  Text.lenientText f.inner

/-- Numbers the names that were there before; `seen` holds the names so far. -/
def numberNames (seen : List String) : List String → List String
  | [] => []
  | name :: rest =>
    let n := seen.count name
    (if n == 0 then name else s!"{name}_duplicated_{n - 1}") :: numberNames (name :: seen) rest

/-- The names in the line of headings. -/
def headingNames (line : Bytes) : List String :=
  let line := if line.length == 1 then line else withoutReturn line
  numberNames [] ((fields line).map headingName)

/-- Drops the mark at the start of the bytes. -/
def dropMark : Bytes → Bytes
  | 0xEF :: 0xBB :: 0xBF :: rest => rest
  | bytes => bytes

/-- Drops the line ends at the start of the bytes. -/
def dropLineEnds (bytes : Bytes) : Bytes :=
  bytes.dropWhile fun b => b == lineFeed || b == carriageReturn

/-- Ends the last line if it has no end and is the only one. -/
def endOnlyLine (bytes : Bytes) : Bytes :=
  if (lines bytes).length == 1 && bytes.getLast? != some lineFeed then bytes ++ [lineFeed]
  else bytes

/-- Whether bytes begin like those of a compressed file. -/
def isCompressed : Bytes → Bool
  | a :: b :: c :: d :: _ =>
    (a == 0x1F && b == 0x8B) ||
      (a == 0x78 && (b == 0x01 || b == 0x9C || b == 0xDA)) ||
      [a, b, c, d] == [0x28, 0xB5, 0x2F, 0xFD]
  | _ => false

/-- The cells of a row, filled up to the number of columns. -/
def rowCells (width : Nat) (r : Record) : Except CsvError (List (Option TextCell)) := do
  if r.length > width then throw .surplusFields
  let cells ← r.mapM textCell?
  return cells ++ List.replicate (width - r.length) none

/-- The records of a stretch of text that has a given number of lines. -/
def blockRecords (count : Nat) (bytes : Bytes) : Except CsvError (List Record) :=
  let found := records bytes
  if found.length == count then .ok found else .error .strayQuote

/-- The records below the headings: those of the complete lines, and that of what is left. -/
def bodyRecords (bytes : Bytes) : Except CsvError (List Record) := do
  let (lines, left) := cut bytes
  let whole ← blockRecords lines.length (lines.flatMap (· ++ [lineFeed]))
  if left.isEmpty then return whole
  return whole ++ (← blockRecords 1 left)

/-- Reads the bytes of a table. -/
def parse (bytes : Bytes) : Except CsvError Frame := do
  if isCompressed bytes then throw .compressed
  let unmarked := dropMark bytes
  let content := dropLineEnds unmarked
  match lines (endOnlyLine content) with
  | [] => throw .noData
  | heading :: below =>
    let names := headingNames heading
    let shapes := columnShapes names.length below
    let body := afterLine false (if names.length > 1 then content else unmarked)
    let rows ← (← bodyRecords body).mapM (rowCells names.length)
    let columns ← (names.zip shapes).zipIdx.mapM fun ((name, shape), i) =>
      columnOf name shape (rows.map fun row => row.getD i none)
    match Frame.ofColumns? columns with
    | some frame => return frame
    | none => throw .duplicateName

end LabelForge.Csv
