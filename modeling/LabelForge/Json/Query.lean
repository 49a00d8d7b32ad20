import LabelForge.Json.Decoder

/-!
# LabelForge.Json.Query

**Asking a document for single fields.** Where the shape of a document depends on what some of
its fields say, the fields are asked for one by one. A question that has no answer fails with the
name of the field.
-/

namespace LabelForge.Json

/-- The items of an array. -/
def Items.toList : Items → List Json
  | .cons j rest => j :: rest.toList
  | _ => []

/-- The members of an object that have a readable key. -/
def Members.toList : Members → List (String × Json)
  | .cons (some key) j rest => (key, j) :: rest.toList
  | .cons none _ rest => rest.toList
  | _ => []

/-- The items of an array; a value of another kind has none. -/
def items : Json → List Json
  | .array js => js.toList
  | _ => []

/-- The members of an object; a value of another kind has none. -/
def members : Json → List (String × Json)
  | .object ms => ms.toList
  | _ => []

/-- The value of a member. -/
def member? (j : Json) (name : String) : Option Json :=
  j.members.lookup name

/-- The object without a member. -/
def without (j : Json) (name : String) : Json :=
  .ofMembers (j.members.filter (·.1 != name))

/-- The outcome of a question: an answer, or the name of the field that has none. -/
abbrev Asked := Except String

/-- Decodes the value of a field. -/
def decodeAs (name : String) (d : Decoder α) (j : Json) : Asked α :=
  match d j with
  | .ok a => .ok a
  | .error _ => .error name

/-- The value of a field that must be there. -/
def required (j : Json) (name : String) (d : Decoder α) : Asked α :=
  match j.member? name with
  | some v => decodeAs name d v
  | none => .error name

/-- The value of a field, or a default where the field is missing. -/
def defaulted (j : Json) (name : String) (d : Decoder α) (default : α) : Asked α :=
  match j.member? name with
  | some v => decodeAs name d v
  | none => .ok default

/-- The value of a field, if it is there and not `null`. -/
def optional (j : Json) (name : String) (d : Decoder α) : Asked (Option α) :=
  j.defaulted name (asOption d) none

/-- Any value. -/
def asAny : Decoder Json := .ok

mutual

/-- Changes every text of a document, keys apart. -/
def mapTexts (f : String → String) : Json → Json
  | .text (some s) => .text (some (f s))
  | .array js => .array (js.mapTexts f)
  | .object ms => .object (ms.mapTexts f)
  | j => j

/-- Changes every text of some items. -/
def Items.mapTexts (f : String → String) : Items → Items
  | .cons j rest => .cons (j.mapTexts f) (rest.mapTexts f)
  | js => js

/-- Changes every text of some members, keys apart. -/
def Members.mapTexts (f : String → String) : Members → Members
  | .cons key j rest => .cons key (j.mapTexts f) (rest.mapTexts f)
  | ms => ms

end

end LabelForge.Json
