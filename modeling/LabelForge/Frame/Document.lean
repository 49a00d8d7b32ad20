import LabelForge.Csv.Reader
import LabelForge.Json.Query

/-!
# LabelForge.Frame.Document

**Tables as documents.** A table that does not come from a file is a document with its columns;
every column has a name, the word for its type, and its values. A missing value is `null`.

Design points:

* A number may be written as a text, because some numbers (infinities, a quiet not-a-number, a
  negative zero) cannot be written as a JSON number.
* In a written table every value is shown by its text, so that the document does not depend on how
  numbers are printed elsewhere.
-/

namespace LabelForge

open Json (Decoder asText asBool asInt asDouble asList)
open Number (Double)

namespace DataType

/-- The words for the types that a table in a document may have. -/
def tableWords : List (String × DataType) :=
  [IntWidth.i8, .i16, .i32, .i64, .u32, .u64].map (fun w => (w.name, DataType.int w)) ++
  [("f32", .single), ("f64", .double), ("bool", .bool), ("str", .text), ("null", .null),
    ("date", .date)]

/-- The words for the types that a single cell may have. -/
def cellWords : List (String × DataType) :=
  tableWords ++ [("u8", .int .u8), ("u16", .int .u16)]

/-- The words for all types. -/
def words : List (String × DataType) :=
  cellWords ++ [("time", .time), ("datetime", .datetime), ("binary", .binary)]

end DataType

/-- Decodes a number, which may be written as a text. -/
def asReal : Decoder Double
  | .text (some s) =>
    match Csv.floatValue? s with
    | some x => .ok x
    | none => .error .mismatch
  | j => asDouble j

namespace Cell

/-- Decodes a value of a type. -/
def valueDecoder (t : DataType) : Decoder Cell := fun j => do
  match t with
  | .int w => return .int (← asInt w.range.1 w.range.2 j)
  | .single => return .real (← asReal j).toSingle
  | .double => return .real (← asReal j)
  | .bool => return .bool (← asBool j)
  | .text => return .text (← asText j)
  | .date => return .date (← asInt (-2 ^ 31) (2 ^ 31 - 1) j)
  | _ => throw .mismatch

/-- Decodes a cell of a type. -/
def decoder (t : DataType) : Decoder Cell
  | .null => .ok .missing
  | j => valueDecoder t j

/-- The cell as a document. -/
def toJson : Cell → Json
  | .missing => .null
  | c => .ofText c.render

end Cell

namespace Frame

/-- Decodes a column. -/
def columnDecoder : Decoder Column := fun j =>
  let column : Json.Asked Column := do
    let t ← j.required "dtype" (Json.asWord DataType.tableWords)
    return ⟨← j.required "name" asText, t, ← j.required "values" (asList (Cell.decoder t))⟩
  column.mapError fun _ => .mismatch

/-- The table of a document. -/
def ofJson (j : Json) : Json.Asked Frame := do
  match ofColumns? (← j.required "columns" (asList columnDecoder)) with
  | some f => return f
  | none => throw "columns"

/-- The document of a table. -/
def toJson (f : Frame) : Json := .ofMembers [
  ("rows", .ofNat f.rows),
  ("columns", .ofItems (f.columns.map fun c => .ofMembers [
    ("name", .ofText c.name), ("dtype", .ofText c.dataType.name),
    ("values", .ofItems (c.cells.map Cell.toJson))]))]

end Frame

end LabelForge
