import LabelForge.Text.Utf8

/-!
# LabelForge.Csv.Record

**Lines, records and fields of comma-separated text.** The bytes of a table are cut in two ways.
A *line* ends at a line feed in front of which there is an even number of quotes. A *record* is a
list of fields: a field whose first byte is a quote is *quoted*, and commas and line ends inside
its quotes belong to it; a quote anywhere else in a field is an ordinary byte. The two cuts agree
unless a quote stands where none belongs.

Design points:

* Each cut is one pass over the bytes with a small state, so it never looks back.
* Fields keep their quotes here. What a field means depends on whether it is a heading or a
  cell, which `Csv.Reader` decides.
* A line is cut into fields to its very end, so a comma at its end is followed by one more, empty
  field. In the records of a whole text a comma at the end of the text starts no further field.
-/

namespace LabelForge.Csv

open Text (Bytes)

/-- The quote. -/
def quote : UInt8 := 0x22

/-- The comma. -/
def comma : UInt8 := 0x2C

/-- The line feed. -/
def lineFeed : UInt8 := 0x0A

/-- The carriage return. -/
def carriageReturn : UInt8 := 0x0D

/-- Bytes without a carriage return at their end. -/
def withoutReturn (bytes : Bytes) : Bytes :=
  if bytes.getLast? == some carriageReturn then bytes.dropLast else bytes

/-- A field as it stands in the text. -/
structure RawField where
  /-- All bytes, quotes included. -/
  bytes : Bytes
  /-- Whether the first byte is a quote. -/
  quoted : Bool
  deriving DecidableEq, Repr

namespace RawField

/-- The field without its first and last byte if it is quoted; a single quote is left as it is. -/
def inner (f : RawField) : Bytes :=
  if f.quoted && 2 ≤ f.bytes.length then (f.bytes.drop 1).dropLast else f.bytes

/-- Whether the quotes of a quoted field are its first and its last byte. -/
def isClosed (f : RawField) : Bool :=
  2 ≤ f.bytes.length && f.bytes.getLast? == some quote

/-- Drops quotes, but the second of two quotes in a row stays; `after` tells that the last byte
was a quote that was dropped. -/
def dropQuotes (after : Bool) : Bytes → Bytes
  | [] => []
  | b :: rest =>
    if b == quote then
      if after then b :: dropQuotes false rest else dropQuotes true rest
    else b :: dropQuotes false rest

/-- The bytes that the field stands for. -/
def content (f : RawField) : Bytes :=
  if f.quoted then dropQuotes false f.inner else f.bytes

/-- The field without a carriage return at its end. -/
def trimReturn (f : RawField) : RawField :=
  { f with bytes := withoutReturn f.bytes }

end RawField

/-- A field that is being read. -/
inductive Pending where
  /-- Nothing of it has been read. -/
  | start
  /-- It began without a quote; its bytes, last first. -/
  | plain (bytes : Bytes)
  /-- It began with a quote; its bytes, last first, and whether the next byte is inside quotes. -/
  | quoted (bytes : Bytes) (inside : Bool)
  deriving DecidableEq, Repr

namespace Pending

/-- The field that is complete now. -/
def close : Pending → RawField
  | .start => ⟨[], false⟩
  | .plain bytes => ⟨bytes.reverse, false⟩
  | .quoted bytes _ => ⟨bytes.reverse, true⟩

/-- Whether a comma or a line end would end the field. -/
def isOpen : Pending → Bool
  | .quoted _ inside => !inside
  | _ => true

/-- Takes a byte that does not end the field. -/
def push (b : UInt8) : Pending → Pending
  | .start => if b == quote then .quoted [b] true else .plain [b]
  | .plain bytes => .plain (b :: bytes)
  | .quoted bytes inside => .quoted (b :: bytes) (if b == quote then !inside else inside)

end Pending

/-! ### Lines -/

/-- Cuts bytes into lines and what is left behind the last line end; `line` holds the bytes of the
current line, last first, and `inside` tells whether the number of quotes so far is odd. -/
def cutFrom (line : Bytes) (inside : Bool) : Bytes → List Bytes × Bytes
  | [] => ([], line.reverse)
  | b :: rest =>
    if b == lineFeed && !inside then
      let (lines, left) := cutFrom [] false rest
      (line.reverse :: lines, left)
    else cutFrom (b :: line) (inside != (b == quote)) rest

/-- The lines of a text, without the line feeds that end them, and what is left behind them. -/
def cut (bytes : Bytes) : List Bytes × Bytes :=
  cutFrom [] false bytes

/-- The lines of a text; what is left behind the last line end is a line if it is not empty. -/
def lines (bytes : Bytes) : List Bytes :=
  let (lines, left) := cut bytes
  if left.isEmpty then lines else lines ++ [left]

/-- What follows the first line; nothing if its end is not found. -/
def afterLine (inside : Bool) : Bytes → Bytes
  | [] => []
  | b :: rest =>
    if b == lineFeed && !inside then rest else afterLine (inside != (b == quote)) rest

/-- Cuts a line into fields; a line feed that has strayed into it ends it. -/
def fieldsFrom (pending : Pending) : Bytes → List RawField
  | [] => [pending.close]
  | b :: rest =>
    if pending.isOpen && b == comma then pending.close :: fieldsFrom .start rest
    else if pending.isOpen && b == lineFeed then [pending.close]
    else fieldsFrom (pending.push b) rest

/-- The fields of a line. -/
def fields (line : Bytes) : List RawField :=
  fieldsFrom .start line

/-! ### Records -/

/-- The fields of one record. -/
abbrev Record := List RawField

/-- Cuts bytes into records; `fields` holds the fields of the current record, last first. Neither
a line end nor a comma at the end of the text starts anything. -/
def recordsFrom (fields : Record) (pending : Pending) : Bytes → List Record
  | [] =>
    let fields := if pending == .start then fields else pending.close :: fields
    if fields.isEmpty then [] else [fields.reverse]
  | b :: rest =>
    if pending.isOpen && b == comma then
      recordsFrom (pending.close :: fields) .start rest
    else if pending.isOpen && b == lineFeed then
      (pending.close :: fields).reverse :: recordsFrom [] .start rest
    else recordsFrom fields (pending.push b) rest

/-- The records of a text. -/
def records (bytes : Bytes) : List Record :=
  recordsFrom [] .start bytes

@[simp] theorem lines_nil : lines [] = [] := rfl

@[simp] theorem records_nil : records [] = [] := rfl

end LabelForge.Csv
