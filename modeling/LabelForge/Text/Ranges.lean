/-!
# LabelForge.Text.Ranges

**Sets of characters as tables of code point ranges.** A table lists its ranges in ascending
order, both ends included, and no two of them overlap. A table of single characters lists them in
ascending order, each with what belongs to it.
-/

namespace LabelForge.Text

/-- Whether a code point lies in one of the ranges from the `low`th on and before the `high`th: the
middle one tells on which side to go on. -/
def searchRanges (ranges : Array (Nat × Nat)) (n low high : Nat) : Bool :=
  if low < high then
    let middle := (low + high) / 2
    match ranges[middle]? with
    | some (first, last) =>
      if n < first then searchRanges ranges n low middle
      else if last < n then searchRanges ranges n (middle + 1) high
      else true
    | none => false
  else false
termination_by high - low

/-- Whether a code point lies in one of the ranges. -/
def inRanges (ranges : Array (Nat × Nat)) (n : Nat) : Bool :=
  searchRanges ranges n 0 ranges.size

/-- The entry of a code point from the `low`th one on and before the `high`th. -/
def searchEntries {α : Type} (entries : Array (Nat × α)) (n low high : Nat) : Option α :=
  if low < high then
    let middle := (low + high) / 2
    match entries[middle]? with
    | some (key, value) =>
      if n < key then searchEntries entries n low middle
      else if key < n then searchEntries entries n (middle + 1) high
      else some value
    | none => none
  else none
termination_by high - low

/-- What belongs to a code point. -/
def entryOf? {α : Type} (entries : Array (Nat × α)) (n : Nat) : Option α :=
  searchEntries entries n 0 entries.size

end LabelForge.Text
