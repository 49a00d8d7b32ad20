import LabelForge.Frame

/-!
# LabelForge.Csv.Writer

**Writing tables.** A line of headings, then a line per row, each ended by a line feed. A missing
cell is nothing at all, an empty text is two quotes.

Design points:

* A text is quoted only where it must be: if it is empty or holds a comma, a quote or a line end.
* A number has at least one digit behind the point, or an exponent where it is very large or very
  small; single-precision numbers have an exponent from a smaller magnitude on.
-/

namespace LabelForge.Csv

open Number

/-- Whether a text with this character has to be quoted. -/
def needsQuotes (c : Char) : Bool :=
  c == ',' || c == '"' || c == '\n' || c == '\r'

/-- A character inside quotes. -/
def escapeQuote (c : Char) : List Char :=
  if c == '"' then ['"', '"'] else [c]

/-- A text or a heading. -/
def textChars (s : String) : List Char :=
  let cs := s.toList
  if cs.isEmpty || cs.any needsQuotes then '"' :: cs.flatMap escapeQuote ++ ['"'] else cs

/-- Single-precision numbers have an exponent from `1e13` on and below `1e-6`. -/
def singleStyle : NumberStyle := ⟨-6, 13, false⟩

/-- A number of a column. -/
def realChars (t : DataType) (x : Double) : List Char :=
  match t with
  | .single => (x.styledText singleStyle .single).toList
  | _ => (x.styledText .table .double).toList

/-- A cell of a column. -/
def cellChars (t : DataType) : Cell → List Char
  | .missing => []
  | .real x => realChars t x
  | .text s => textChars s
  | cell => cell.render.toList

/-- A line of fields. -/
def lineChars (fields : List (List Char)) : List Char :=
  [','].intercalate fields ++ ['\n']

/-- The line of headings. -/
def headingChars (f : Frame) : List Char :=
  lineChars (f.columns.map fun c => textChars c.name)

/-- The line of a row. -/
def rowChars (f : Frame) (row : Nat) : List Char :=
  lineChars (f.columns.map fun c => cellChars c.dataType (c.cells.getD row .missing))

/-- The text of a table. -/
def printChars (f : Frame) : List Char :=
  headingChars f ++ (List.range f.rows).flatMap (rowChars f)

/-- The text of a table. -/
def print (f : Frame) : String :=
  .ofList (printChars f)

end LabelForge.Csv
