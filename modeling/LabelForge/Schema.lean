import LabelForge.Json.Decoder

/-!
# LabelForge.Schema

**The digest of a table.** What a program writer is told about a table: its columns with their
coarse types, the first few rows as text, and the number of rows.

Design points:

* The rendering is plain text with one line per sample row; cells and names are put into it as
  they are.
* Only names and types of the columns take part in a fingerprint; samples and row counts do not.
-/

namespace LabelForge

/-- The coarse type of a column. -/
inductive ColumnType where
  | integer
  | float
  | boolean
  | text
  | other
  deriving DecidableEq, Repr

/-- The word for a column type. -/
def ColumnType.label : ColumnType → String
  | .integer => "integer"
  | .float => "float"
  | .boolean => "boolean"
  | .text => "text"
  | .other => "other"

/-- The words for the column types. -/
def ColumnType.words : List (String × ColumnType) :=
  [("integer", .integer), ("float", .float), ("boolean", .boolean), ("text", .text),
    ("other", .other)]

/-- A column of a table. -/
structure SchemaColumn where
  name : String
  columnType : ColumnType
  deriving DecidableEq, Repr

/-- The digest of a table. -/
structure SchemaDigest where
  columns : List SchemaColumn
  /-- The first rows, each cell as text. -/
  sampleRows : List (List String)
  totalRows : Nat
  deriving DecidableEq, Repr

/-- How many rows a digest shows. -/
def sampleRowCount : Nat := 3

namespace SchemaDigest

/-- The names of the columns. -/
def columnNames (d : SchemaDigest) : List String :=
  d.columns.map SchemaColumn.name

/-- A line of the sample table. -/
def tableLine (cells : List String) : String :=
  "| " ++ " | ".intercalate cells ++ " |\n"

/-- The digest as text. -/
def render (d : SchemaDigest) : String :=
  let types := d.columns.map fun c => c.name ++ ": " ++ c.columnType.label
  "DATA SCHEMA:\n" ++
  "- Columns: [" ++ ", ".intercalate d.columnNames ++ "]\n" ++
  "- Data Types: [" ++ ", ".intercalate types ++ "]\n" ++
  "- Total Rows: " ++ toString d.totalRows ++ "\n\n" ++
  "Sample Data (First " ++ toString d.sampleRows.length ++ " Rows):\n" ++
  tableLine d.columnNames ++
  tableLine (d.columns.map fun _ => "---") ++
  String.join (d.sampleRows.map tableLine)

end SchemaDigest

/-! ### Documents -/

open Json

/-- Decodes a column. -/
def SchemaColumn.decoder : Decoder SchemaColumn := fun j => do
  let found ← gather [.required "name" asText, .required "column_type" (asWord ColumnType.words)] j
  return {
    name := ← found.get "name" asText
    columnType := ← found.get "column_type" (asWord ColumnType.words) }

/-- Decodes a digest. -/
def SchemaDigest.decoder : Decoder SchemaDigest := fun j => do
  let columns := asList SchemaColumn.decoder
  let rows := asList (asList asText)
  let found ← gather [.required "columns" columns, .required "sample_rows" rows,
    .required "total_rows" (asNat 64)] j
  return {
    columns := ← found.get "columns" columns
    sampleRows := ← found.get "sample_rows" rows
    totalRows := ← found.get "total_rows" (asNat 64) }

/-- The document of a column. -/
def SchemaColumn.toJson (c : SchemaColumn) : Json :=
  .ofMembers [("name", .ofText c.name), ("column_type", .ofText c.columnType.label)]

/-- The document of a digest. -/
def SchemaDigest.toJson (d : SchemaDigest) : Json :=
  .ofMembers [
    ("columns", .ofItems (d.columns.map SchemaColumn.toJson)),
    ("sample_rows", .ofItems (d.sampleRows.map fun row => .ofItems (row.map .ofText))),
    ("total_rows", .ofNat d.totalRows)]

end LabelForge
