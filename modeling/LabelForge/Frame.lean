import LabelForge.Moment
import LabelForge.Number.Decimal
import LabelForge.Tally
import LabelForge.Text.Blank

/-!
# LabelForge.Frame

**Tables in memory.** A frame is a list of named, typed columns of one length; a cell is a value
or missing.

Design points:

* The columns of a frame have as many cells as the frame has rows, and distinct names. Both are
  part of the type, so a lookup by name is a lookup of *the* column.
* Numbers of single precision are kept as doubles; the column's type tells that they are single.
* The text of a cell is what the digest, the counts and the checks go by; a missing cell has the
  empty text.
-/

namespace LabelForge

open Number

/-- The widths of integers. -/
inductive IntWidth where
  | i8
  | i16
  | i32
  | i64
  | u8
  | u16
  | u32
  | u64
  deriving DecidableEq, Repr

/-- The name of a width. -/
def IntWidth.name : IntWidth → String
  | .i8 => "i8"
  | .i16 => "i16"
  | .i32 => "i32"
  | .i64 => "i64"
  | .u8 => "u8"
  | .u16 => "u16"
  | .u32 => "u32"
  | .u64 => "u64"

/-- The smallest and the largest integer of a width. -/
def IntWidth.range : IntWidth → Int × Int
  | .i8 => (-2 ^ 7, 2 ^ 7 - 1)
  | .i16 => (-2 ^ 15, 2 ^ 15 - 1)
  | .i32 => (-2 ^ 31, 2 ^ 31 - 1)
  | .i64 => (-2 ^ 63, 2 ^ 63 - 1)
  | .u8 => (0, 2 ^ 8 - 1)
  | .u16 => (0, 2 ^ 16 - 1)
  | .u32 => (0, 2 ^ 32 - 1)
  | .u64 => (0, 2 ^ 64 - 1)

/-- The type of a column. -/
inductive DataType where
  | int (width : IntWidth)
  | single
  | double
  | bool
  | text
  /-- A column that cannot hold a value. -/
  | null
  | date
  | time
  | datetime
  | binary
  deriving DecidableEq, Repr

namespace DataType

/-- The name of a type in messages. -/
def name : DataType → String
  | .int width => width.name
  | .single => "f32"
  | .double => "f64"
  | .bool => "bool"
  | .text => "str"
  | .null => "null"
  | .date => "date"
  | .time => "time"
  | .datetime => "datetime[μs]"
  | .binary => "binary"

/-- Whether the values are numbers. -/
def isNumeric : DataType → Bool
  | .int _ => true
  | .single => true
  | .double => true
  | _ => false

end DataType

/-- A cell of a table. -/
inductive Cell where
  | missing
  | int (value : Int)
  | real (value : Double)
  | bool (value : Bool)
  | text (value : String)
  /-- A date as the number of days since the start of 1970. -/
  | date (days : Int)
  deriving DecidableEq, Repr, Inhabited

namespace Cell

/-- Whether the cell has no value. -/
def isMissing : Cell → Bool
  | .missing => true
  | _ => false

/-- The text of a truth value. -/
def boolText (b : Bool) : String := if b then "true" else "false"

/-- The date of a number of days. -/
def dateText (days : Int) : String :=
  Moment.dateText ⟨days * 86400, 0⟩

/-- The text of a cell; empty for a missing one. -/
def render : Cell → String
  | .missing => ""
  | .int i => intText i
  | .real x => x.cellText
  | .bool b => boolText b
  | .text s => s
  | .date days => dateText days

end Cell

/-- A named column of cells. -/
structure Column where
  name : String
  dataType : DataType
  cells : List Cell
  deriving DecidableEq, Repr

namespace Column

/-- Whether no cell has a value. -/
def isValueless (c : Column) : Bool :=
  c.cells.all Cell.isMissing

/-- How many cells are missing or blank. -/
def missingCount (c : Column) : Nat :=
  c.cells.countP fun cell => Text.isBlankText cell.render

/-- The trimmed texts of the cells that are not blank. -/
def labels (c : Column) : List String :=
  (c.cells.filter fun cell => !Text.isBlankText cell.render).map fun cell => Text.trim cell.render

/-- How often each trimmed text occurs; blank cells do not count. -/
def counts (c : Column) : Tally :=
  Tally.ofLabels c.labels

end Column

/-- A table. -/
structure Frame where
  rows : Nat
  columns : List Column
  /-- Every column has a cell for every row. -/
  aligned : ∀ c ∈ columns, c.cells.length = rows
  /-- No two columns share a name. -/
  distinct : (columns.map Column.name).Nodup
  deriving DecidableEq, Repr

namespace Frame

/-- The table without columns. -/
def empty : Frame := ⟨0, [], by simp, by simp⟩

instance : Inhabited Frame := ⟨empty⟩

/-- The table of columns that have one length and distinct names. -/
def ofColumns? (columns : List Column) : Option Frame :=
  let rows := match columns with
    | [] => 0
    | c :: _ => c.cells.length
  if h : (∀ c ∈ columns, c.cells.length = rows) ∧ (columns.map Column.name).Nodup then
    some ⟨rows, columns, h.1, h.2⟩
  else none

/-- The names of the columns. -/
def names (f : Frame) : List String :=
  f.columns.map Column.name

/-- The column of a name. -/
def column? (f : Frame) (name : String) : Option Column :=
  f.columns.find? (·.name == name)

/-- The cell of a column and a row; missing where there is none. -/
def cell (f : Frame) (name : String) (row : Nat) : Cell :=
  match f.column? name with
  | some c => c.cells.getD row .missing
  | none => .missing

/-- The cells of a row. -/
def row (f : Frame) (i : Nat) : List Cell :=
  f.columns.map fun c => c.cells.getD i .missing

/-- The first rows. -/
def take (f : Frame) (n : Nat) : Frame where
  rows := min n f.rows
  columns := f.columns.map fun c => { c with cells := c.cells.take n }
  aligned := by
    intro c hc
    obtain ⟨d, hd, rfl⟩ := List.mem_map.1 hc
    simp [f.aligned d hd]
  distinct := by
    have h : (Column.name ∘ fun c => { c with cells := c.cells.take n }) = Column.name := rfl
    simpa [h] using f.distinct

/-- The table with other types of its columns; the cells stay. -/
def retyped (f : Frame) (type : String → DataType) : Frame where
  rows := f.rows
  columns := f.columns.map fun c => { c with dataType := type c.name }
  aligned := by
    intro c hc
    obtain ⟨d, hd, rfl⟩ := List.mem_map.1 hc
    exact f.aligned d hd
  distinct := by
    have h : (Column.name ∘ fun c => { c with dataType := type c.name }) = Column.name := rfl
    simpa [h] using f.distinct

/-- The table without its first column. -/
def tail (f : Frame) : Frame where
  rows := f.rows
  columns := f.columns.tail
  aligned := fun c hc => f.aligned c (List.mem_of_mem_tail hc)
  distinct := by
    rw [List.map_tail]
    exact f.distinct.sublist (List.tail_sublist _)

/-- Columns with one column replaced by another of its name, or with a new one behind them. -/
def place (column : Column) (columns : List Column) : List Column :=
  if columns.any (·.name == column.name) then
    columns.map fun c => if c.name == column.name then column else c
  else columns ++ [column]

theorem place_aligned {column : Column} {columns : List Column} {rows : Nat}
    (aligned : ∀ c ∈ columns, c.cells.length = rows) (h : column.cells.length = rows) :
    ∀ c ∈ place column columns, c.cells.length = rows := by
  intro c hc
  unfold place at hc
  split at hc
  · obtain ⟨d, hd, rfl⟩ := List.mem_map.1 hc
    split
    · exact h
    · exact aligned d hd
  · rcases List.mem_append.1 hc with hc | hc
    · exact aligned c hc
    · rw [List.mem_singleton.1 hc]; exact h

theorem place_distinct {column : Column} {columns : List Column}
    (distinct : (columns.map Column.name).Nodup) :
    ((place column columns).map Column.name).Nodup := by
  unfold place
  split
  · have h : (columns.map fun c => if c.name == column.name then column else c).map Column.name
        = columns.map Column.name := by
      rw [List.map_map]
      apply List.map_congr_left
      intro c _
      by_cases hc : c.name = column.name <;> simp [hc]
    rw [h]
    exact distinct
  · rename_i h
    rw [List.map_append]
    refine List.nodup_append.2 ⟨distinct, by simp, ?_⟩
    intro a ha b hb hab
    obtain ⟨c, hc, rfl⟩ := List.mem_map.1 ha
    simp only [List.map_cons, List.map_nil, List.mem_singleton] at hb
    exact h (List.any_eq_true.2 ⟨c, hc, by simp [hab, hb]⟩)

/-- The table with a column put in place: it replaces the column of its name, or comes last. -/
def withColumn (f : Frame) (column : Column) (h : column.cells.length = f.rows) : Frame :=
  ⟨f.rows, place column f.columns, place_aligned f.aligned h, place_distinct f.distinct⟩

/-- The table of a single column. -/
def ofColumn (c : Column) : Frame :=
  ⟨c.cells.length, [c], by simp, by simp⟩

end Frame

end LabelForge
