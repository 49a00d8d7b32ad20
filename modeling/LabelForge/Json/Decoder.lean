import LabelForge.Json.Reader

/-!
# LabelForge.Json.Decoder

**Decoding documents.** A decoder walks a document in the order of its text and stops at the
first thing that is wrong, be it the shape of a value or a fault of the text.

Design points:

* A record may be written as an object or as the array of its fields in order. In an object
  unknown members are skipped, a known member must not occur twice, and an optional or defaulted
  field may be missing; in an array only defaulted fields may be left off the end.
* A choice of words may be written as the word, or as an object with the word as its only key
  and `null` as its value.
* `verify` is the strict look at a whole document that precedes every decision about its shape:
  it also refuses nesting beyond a given depth.
-/

namespace LabelForge.Json

open LabelForge.Number

/-- A way to make sense of a document. -/
abbrev Decoder (α : Type) := Json → Except Fault α

/-- Why a value that is not of the wanted kind is refused. -/
def unwanted : Json → Fault
  | .broken stop => stop.read
  | .text none => .malformed
  | .number .overflow => .malformed
  | _ => .mismatch

/-! ### Skipping and verifying -/

mutual

/-- Passes over a value nobody asked for. -/
def skip : Json → Except Fault Unit
  | .broken stop => .error stop.skip
  | .array items => skipItems items
  | .object members => skipMembers members
  | _ => .ok ()

/-- Passes over items. -/
def skipItems : Items → Except Fault Unit
  | .done => .ok ()
  | .stopped stop => .error stop.skip
  | .cons j rest => do skip j; skipItems rest

/-- Passes over members. -/
def skipMembers : Members → Except Fault Unit
  | .done => .ok ()
  | .stopped stop => .error stop.skip
  | .cons _ j rest => do skip j; skipMembers rest

end

/-- How many arrays and objects may be open at once. -/
def maxDepth : Nat := 127

mutual

/-- Whether all of a document can be read, with at most `depth` levels of nesting. -/
def verify (depth : Nat) : Json → Except Fault Unit
  | .broken stop => .error stop.read
  | .text none => .error .malformed
  | .number .overflow => .error .malformed
  | .array items =>
    match depth with
    | 0 => .error .malformed
    | depth + 1 => verifyItems depth items
  | .object members =>
    match depth with
    | 0 => .error .malformed
    | depth + 1 => verifyMembers depth members
  | _ => .ok ()

/-- Whether all items can be read. -/
def verifyItems (depth : Nat) : Items → Except Fault Unit
  | .done => .ok ()
  | .stopped stop => .error stop.read
  | .cons j rest => do verify depth j; verifyItems depth rest

/-- Whether all members can be read. -/
def verifyMembers (depth : Nat) : Members → Except Fault Unit
  | .done => .ok ()
  | .stopped stop => .error stop.read
  | .cons none _ _ => .error .malformed
  | .cons (some _) j rest => do verify depth j; verifyMembers depth rest

end

/-! ### Values without parts -/

/-- A string. -/
def asText : Decoder String
  | .text (some s) => .ok s
  | j => .error (unwanted j)

/-- A truth value. -/
def asBool : Decoder Bool
  | .bool b => .ok b
  | j => .error (unwanted j)

/-- An integer of a range, both ends included. -/
def asInt (low high : Int) : Decoder Int
  | .number (.int i) => if low ≤ i && i ≤ high then .ok i else .error .mismatch
  | j => .error (unwanted j)

/-- A signed integer of 64 bits. -/
def asInt64 : Decoder Int := asInt (-(2 ^ 63)) (2 ^ 63 - 1)

/-- A natural number of at most the given number of bits. -/
def asNat (bits : Nat) : Decoder Nat := fun j =>
  (asInt 0 (2 ^ bits - 1) j).map Int.toNat

/-- Any number. -/
def asDouble : Decoder Double
  | .number (.int i) => .ok (Double.ofInt i)
  | .number (.real x) => .ok x
  | j => .error (unwanted j)

/-- A value or `null`. -/
def asOption (d : Decoder α) : Decoder (Option α)
  | .null => .ok none
  | j => (d j).map some

/-- One of several words, each with its meaning. -/
def asWord (words : List (String × α)) : Decoder α
  | .text (some s) =>
    match words.lookup s with
    | some a => .ok a
    | none => .error .mismatch
  | .object (.cons (some s) j rest) =>
    match words.lookup s with
    | none => .error .mismatch
    | some a =>
      match j, rest with
      | .null, .done => .ok a
      | .null, .stopped stop => .error stop.next
      | .null, .cons .. => .error .malformed
      | j, _ => .error (unwanted j)
  | .object (.stopped stop) => .error stop.read
  | .broken stop => .error stop.next
  | _ => .error .malformed

/-! ### Lists and tables -/

/-- Decodes items in order. -/
def Items.decode (d : Decoder α) : Items → Except Fault (List α)
  | .done => .ok []
  | .stopped stop => .error stop.read
  | .cons j rest => do
    let a ← d j
    let as ← rest.decode d
    return a :: as

/-- An array of values of one kind. -/
def asList (d : Decoder α) : Decoder (List α)
  | .array items => items.decode d
  | j => .error (unwanted j)

/-- Decodes members in order, with their keys. -/
def Members.decode (d : Decoder α) : Members → Except Fault (List (String × α))
  | .done => .ok []
  | .stopped stop => .error stop.read
  | .cons none _ _ => .error .malformed
  | .cons (some key) j rest => do
    let a ← d j
    let as ← rest.decode d
    return (key, a) :: as

/-- An object of values of one kind, as pairs in the order of the text. -/
def asPairs (d : Decoder α) : Decoder (List (String × α))
  | .object members => members.decode d
  | j => .error (unwanted j)

/-! ### Records -/

/-- When a field may be left out. -/
inductive Absence where
  /-- Never. -/
  | never
  /-- In an object only. -/
  | fromObject
  /-- In an object, and off the end of an array. -/
  | anywhere
  deriving DecidableEq

/-- A field of a record: its name, whether its value can be decoded, and when it may be left
out. -/
structure Field where
  name : String
  check : Json → Except Fault Unit
  absence : Absence

/-- The check of a decoder. -/
def Decoder.check (d : Decoder α) : Json → Except Fault Unit := fun j => (d j).map fun _ => ()

/-- A field that must be there. -/
def Field.required (name : String) (d : Decoder α) : Field := ⟨name, d.check, .never⟩

/-- A field that may be missing from an object. -/
def Field.optional (name : String) (d : Decoder α) : Field := ⟨name, d.check, .fromObject⟩

/-- A field with a default. -/
def Field.defaulted (name : String) (d : Decoder α) : Field := ⟨name, d.check, .anywhere⟩

/-- The values of a record's fields. -/
abbrev Found := List (String × Json)

/-- Gathers the fields of a record from an object. -/
def Members.gather (fields : List Field) (found : Found) : Members → Except Fault Found
  | .done => .ok found
  | .stopped stop => .error stop.read
  | .cons none _ _ => .error .malformed
  | .cons (some key) j rest =>
    match fields.find? (·.name == key) with
    | none => do
      skip j
      rest.gather fields found
    | some field => do
      if (found.lookup key).isSome then throw .mismatch
      field.check j
      rest.gather fields (found ++ [(key, j)])

/-- Gathers the fields of a record from an array. -/
def Items.gather (found : Found) : List Field → Items → Except Fault Found
  | _, .stopped stop => .error stop.read
  | [], .done => .ok found
  | [], .cons .. => .error .malformed
  | fields, .done =>
    if fields.all (·.absence == .anywhere) then .ok found else .error .mismatch
  | field :: fields, .cons j rest => do
    field.check j
    rest.gather (found ++ [(field.name, j)]) fields

/-- The fields of a record, all there that must be. -/
def gather (fields : List Field) : Decoder Found
  | .object members => do
    let found ← members.gather fields []
    if fields.all fun f => f.absence != .never || (found.lookup f.name).isSome then return found
    else throw .mismatch
  | .array items => items.gather [] fields
  | j => .error (unwanted j)

/-- Whether an object has no members but those with the given names. -/
def Members.hasOnly (names : List String) : Members → Bool
  | .cons (some key) _ rest => names.contains key && rest.hasOnly names
  | .cons none _ _ => false
  | _ => true

/-- The fields of a record that has no members but its fields. -/
def gatherOnly (fields : List Field) : Decoder Found := fun j => do
  if let .object members := j then
    unless members.hasOnly (fields.map Field.name) do throw .mismatch
  gather fields j

/-- The value of a field that is there. -/
def Found.get (found : Found) (name : String) (d : Decoder α) : Except Fault α :=
  match found.lookup name with
  | some j => d j
  | none => .error .mismatch

/-- The value of a field, or its default. -/
def Found.getD (found : Found) (name : String) (d : Decoder α) (default : α) : Except Fault α :=
  match found.lookup name with
  | some j => d j
  | none => .ok default

/-! ### Whole texts -/

/-- Decodes a whole text; what follows the value is looked at last. -/
def decode (d : Decoder α) (s : String) : Except Fault α := do
  let document := Json.read s
  let a ← d document.value
  if document.trailing then throw .malformed
  return a

end LabelForge.Json
