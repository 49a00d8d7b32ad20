import LabelForge.Text.Lines
import LabelForge.TextTable.Arrangement

/-!
# LabelForge.TextTable.Basic

**Tables made of text.** A table has a header and rows of cells. It is drawn with lines around it
and below its header, and is never wider than a page if that can be avoided.

Design points:

* The lines of a cell are broken to the width of its column; the other cells of the row are filled
  up with blank lines.
* A column is aligned as a whole, its header included.
-/

namespace LabelForge

open TextTable (Column)

/-- The side to which a column is moved. -/
inductive Alignment where
  | left
  | right
  deriving DecidableEq, Repr

/-- A table: the names and alignments of its columns, and the texts of its cells. -/
structure TextTable where
  header : List (String × Alignment)
  rows : List (List String)
  deriving DecidableEq, Repr

namespace TextTable

/-- The width of a page. -/
def pageWidth : Nat := 120

/-- The cells of all rows, the header first. -/
def allRows (t : TextTable) : List (List String) :=
  t.header.map Prod.fst :: t.rows

/-- The lines of a cell as it was given, each with the style that is active in it. -/
def cellLines (cell : String) : List (List Char) :=
  carryStyle [] (Text.splitFeeds cell.toList)

/-- The columns of the table. -/
def columns (t : TextTable) : List Column :=
  (List.range t.header.length).map fun i => t.allRows.flatMap fun row => cellLines (row.getD i "")

/-- The room that a page has for the cells, without borders and the blanks beside them. -/
def room (t : TextTable) : Nat :=
  pageWidth - (t.header.length + 1) - 2 * t.header.length

/-- The widths of the columns. -/
def widths (t : TextTable) : List Nat :=
  arrange t.room t.columns

/-- A line moved to one side of a width. -/
def align (a : Alignment) (width : Nat) (line : List Char) : List Char :=
  let blanks := List.replicate (width - columnsOf line) ' '
  match a with
  | .left => line ++ blanks
  | .right => blanks ++ line

/-- The lines of a cell in its column, with a blank on both sides. -/
def drawCell (a : Alignment) (width : Nat) (cell : String) : List (List Char) :=
  ((cellLines cell).flatMap (fit width)).map fun line => ' ' :: align a width line ++ [' ']

/-- Joins the parts of a line by a border, between two outer borders. -/
def bordered (left between right : Char) (parts : List (List Char)) : String :=
  .ofList (left :: [between].intercalate parts ++ [right])

/-- The lines of a row. -/
def drawRow (t : TextTable) (widths : List Nat) (row : List String) : List String :=
  let places := (t.header.map Prod.snd).zip widths
  let cells := (places.zip row).map fun ((a, width), cell) => drawCell a width cell
  let height := (cells.map List.length).foldl max 0
  (List.range height).map fun i =>
    bordered '│' '┆' '│' ((places.zip cells).map fun ((_, width), lines) =>
      lines.getD i (List.replicate (width + 2) ' '))

/-- A line across columns. -/
def rule (widths : List Nat) (left line between right : Char) : String :=
  bordered left between right (widths.map fun width => List.replicate (width + 2) line)

/-- The lines of the table. -/
def lines (t : TextTable) : List String :=
  let widths := t.widths
  [rule widths '╭' '─' '┬' '╮'] ++ t.drawRow widths (t.header.map Prod.fst) ++
    [rule widths '╞' '═' '╪' '╡'] ++ t.rows.flatMap (t.drawRow widths) ++
    [rule widths '╰' '─' '┴' '╯']

/-- The table as a text. -/
def render (t : TextTable) : String :=
  "\n".intercalate t.lines

end TextTable

end LabelForge
