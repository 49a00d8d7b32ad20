import LabelForge.Csv.Reader
import LabelForge.Csv.Writer
import LabelForge.Disk
import LabelForge.Schema

/-!
# LabelForge.Table

**Tables in files.** Reading and writing of tables by path, and the digest of a table.

Design points:

* Writing makes the directories that are missing; a fault names the directory that could not be
  made, or the file.
* The digest shows the first three rows of a table as the texts of their cells.
-/

namespace LabelForge

open Csv

/-- Why a table could not be read or written. -/
inductive TableError where
  /-- There is no file. -/
  | notFound (path : FilePath)
  /-- The file, or a directory on the way to it, could not be made. -/
  | unwritable (path : FilePath) (cause : OsError)
  /-- The file is no table. -/
  | unreadable (path : FilePath) (cause : CsvError)
  /-- The file was made, but its text could not be written. -/
  | incomplete (path : FilePath) (cause : OsError)
  deriving DecidableEq, Repr

/-- The message of a fault. -/
def TableError.message : TableError → String
  | .notFound path => s!"input table not found: {path.text}"
  | .unwritable path cause => s!"cannot write {path.text}: {cause.message}"
  | .unreadable path cause => s!"{path.text} is not a readable CSV table: {cause.message}"
  | .incomplete path cause =>
    s!"failed to encode table as CSV at {path.text}: {cause.message}"

namespace Table

/-- Reads the table that a path leads to. -/
def read (d : Disk) (path : FilePath) : Except TableError Frame :=
  if !d.isFile path then .error (.notFound path)
  else match d.read path with
    | .error _ => .error (.notFound path)
    | .ok bytes =>
      match Csv.parse bytes with
      | .ok frame => .ok frame
      | .error cause => .error (.unreadable path cause)

/-- Makes the directory of a file. -/
def makeParent (d : Disk) (path : FilePath) : Except TableError Unit × Disk :=
  match path.parent? with
  | none => (.ok (), d)
  | some parent =>
    match d.makeDirs parent with
    | (.ok (), d) => (.ok (), d)
    | (.error e, d) => (.error (.unwritable parent e), d)

/-- Writes a table to a path. Returns the disk even on a fault, as directories and the file may
have been made by then. -/
def write (frame : Frame) (d : Disk) (path : FilePath) : Except TableError Unit × Disk :=
  match makeParent d path with
  | (.error e, d) => (.error e, d)
  | (.ok (), d) =>
    match d.write path [] with
    | .error e => (.error (.unwritable path e), d)
    | .ok d =>
      match d.write path (Text.bytesOf (Csv.print frame)) with
      | .error e => (.error (.incomplete path e), d)
      | .ok d => (.ok (), d)

end Table

/-- The coarse type of a column. -/
def DataType.coarse : DataType → ColumnType
  | .int _ => .integer
  | .single => .float
  | .double => .float
  | .bool => .boolean
  | .text => .text
  | _ => .other

/-- The digest of a table. -/
def Frame.digest (f : Frame) : SchemaDigest where
  columns := f.columns.map fun c => ⟨c.name, c.dataType.coarse⟩
  sampleRows := (List.range (min f.rows sampleRowCount)).map fun i => (f.row i).map Cell.render
  totalRows := f.rows

end LabelForge
