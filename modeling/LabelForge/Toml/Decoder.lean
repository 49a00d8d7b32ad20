import LabelForge.Json.Decoder

/-!
# LabelForge.Toml.Decoder

**Decoding configurations.** A configuration is decoded like any other document, with some freedom
of its own.

Design points:

* A choice of words may be written as a table with the word as its only name; its value is an
  empty table or array.
* A record may be written as an array that has more items than the record has fields; nobody looks
  at them.
* A number that no number type can hold is a fault wherever it stands in a table, also under a
  name nobody asked for.
-/

namespace LabelForge.Toml

open Json

mutual

/-- Whether all numbers of a document are within range. -/
def inRange : Json → Bool
  | .number .overflow => false
  | .array items => itemsInRange items
  | .object members => membersInRange members
  | _ => true

/-- Whether all numbers of items are within range. -/
def itemsInRange : Items → Bool
  | .cons j rest => inRange j && itemsInRange rest
  | _ => true

/-- Whether all numbers of members are within range. -/
def membersInRange : Members → Bool
  | .cons _ j rest => inRange j && membersInRange rest
  | _ => true

end

/-- Whether a document is an empty table or array. -/
def isEmpty : Json → Bool
  | .array .done => true
  | .object .done => true
  | _ => false

/-- One of several words, each with its meaning. -/
def asWord (words : List (String × α)) : Decoder α
  | .object (.cons (some word) j .done) =>
    if isEmpty j then Json.asWord words (.ofText word) else .error .mismatch
  | j => Json.asWord words j

/-- The first items of an array. -/
def firstItems : Nat → Items → Items
  | n + 1, .cons j rest => .cons j (firstItems n rest)
  | _, _ => .done

/-- The fields of a record, all there that must be. -/
def record (fields : List Field) : Decoder Found
  | .array items => gather fields (.array (firstItems fields.length items))
  | j => if inRange j then gather fields j else .error .mismatch

/-- The fields of a record that has no members but its fields. -/
def exactRecord (fields : List Field) : Decoder Found
  | .object members => gatherOnly fields (.object members)
  | j => record fields j

end LabelForge.Toml
