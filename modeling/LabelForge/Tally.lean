import LabelForge.Json.Decoder

/-!
# LabelForge.Tally

**Counts by label.** A tally maps labels to counts and keeps the labels in ascending order, so
that two tallies with the same counts are equal and every listing of labels comes out sorted.

Design points:

* The order of labels is by code point, which is the order of their UTF-8 bytes.
* `OrderedSet` is the same idea without counts.
-/

namespace LabelForge

/-- Counts by label, in ascending order of the labels. -/
abbrev Tally := List (String × Nat)

namespace Tally

/-- Changes the count of a label, from `none` if it had none. -/
def alter (label : String) (f : Option Nat → Nat) : Tally → Tally
  | [] => [(label, f none)]
  | (other, n) :: rest =>
    match compare label other with
    | .lt => (label, f none) :: (other, n) :: rest
    | .eq => (other, f (some n)) :: rest
    | .gt => (other, n) :: alter label f rest

/-- Sets the count of a label. -/
def set (t : Tally) (label : String) (n : Nat) : Tally :=
  t.alter label fun _ => n

/-- Counts a label once more. -/
def count (t : Tally) (label : String) : Tally :=
  t.alter label fun n => n.getD 0 + 1

/-- The tally of some labels, each counted as often as it occurs. -/
def ofLabels (labels : List String) : Tally :=
  labels.foldl count []

/-- The tally of pairs; of two counts for one label the later one stays. -/
def ofPairs (pairs : List (String × Nat)) : Tally :=
  pairs.foldl (fun t p => t.set p.1 p.2) []

/-- The labels in ascending order. -/
def labels (t : Tally) : List String :=
  t.map Prod.fst

/-- The count of a label; zero if it does not occur. -/
def get (t : Tally) (label : String) : Nat :=
  (t.lookup label).getD 0

/-- Whether a label occurs. -/
def has (t : Tally) (label : String) : Bool :=
  (t.lookup label).isSome

/-- The sum of all counts. -/
def total (t : Tally) : Nat :=
  (t.map Prod.snd).sum

/-- Decodes an object of counts. -/
def decoder : Json.Decoder Tally := fun j =>
  (Json.asPairs (Json.asNat 64) j).map ofPairs

/-- The object of a tally. -/
def toJson (t : Tally) : Json :=
  .ofMembers (t.map fun p => (p.1, .ofNat p.2))

@[simp] theorem ofLabels_nil : ofLabels [] = [] := rfl

@[simp] theorem total_nil : total [] = 0 := rfl

@[simp] theorem total_cons (p : String × Nat) (t : Tally) : total (p :: t) = p.2 + total t := rfl

end Tally

/-- Distinct texts in ascending order. -/
abbrev OrderedSet := List String

namespace OrderedSet

/-- Adds a text. -/
def insert (s : String) : OrderedSet → OrderedSet
  | [] => [s]
  | other :: rest =>
    match compare s other with
    | .lt => s :: other :: rest
    | .eq => other :: rest
    | .gt => other :: insert s rest

/-- The distinct texts of a list. -/
def ofTexts (texts : List String) : OrderedSet :=
  texts.foldl (fun acc s => insert s acc) []

end OrderedSet

end LabelForge
