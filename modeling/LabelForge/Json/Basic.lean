import LabelForge.Number.Decimal

/-!
# LabelForge.Json.Basic

**Documents.** A JSON text is first read into a tree that also records *where reading stopped*:
an array or object may end in a fault instead of its closing bracket, and a value may be a
fault. Whoever decodes the tree walks it from left to right and so meets a misplaced value and a
broken text in the order in which they stand.

Design points:

* A fault has three readings: a value that is skipped (a field nobody asked for) is checked less
  strictly than a value that is read, and a value of which only the next character is looked at
  is refused before its own fault is met.
* Numbers keep what the text says about them: an integer in the range of 64-bit integers, a
  double, or an overflow.
* A string with an unpaired surrogate is kept as unreadable; skipping it is fine.
-/

namespace LabelForge

/-- Why a text was not accepted. -/
inductive Json.Fault where
  /-- The text ended inside a value. -/
  | truncated
  /-- The text is not JSON. -/
  | malformed
  /-- The text is JSON, but of another shape. -/
  | mismatch
  deriving DecidableEq, Repr, Inhabited

/-- The message of a fault. -/
def Json.Fault.message : Json.Fault → String
  | .truncated => "the text ends inside a value"
  | .malformed => "the text is not JSON"
  | .mismatch => "the document has another shape"

/-- A fault of the text, as seen when its value is read, when its value is skipped, and when the
next character is found not to be the one that must stand there. -/
structure Json.Stop where
  read : Json.Fault
  skip : Json.Fault
  next : Json.Fault
  deriving DecidableEq, Repr, Inhabited

/-- A stop that is the same in all three readings. -/
def Json.Stop.same (f : Json.Fault) : Json.Stop := ⟨f, f, f⟩

/-- An end of the text in front of which something stands that must not stand there. -/
def Json.Stop.cutOff : Json.Stop := ⟨.truncated, .truncated, .malformed⟩

/-- A number of a document. -/
inductive Json.Numeral where
  /-- An integer between `-2^63` and `2^64 - 1`. -/
  | int (value : Int)
  /-- Any other number within the range of doubles. -/
  | real (value : Number.Double)
  /-- A number beyond the range of doubles. -/
  | overflow
  deriving DecidableEq, Repr

mutual

/-- A document, possibly broken off. -/
inductive Json where
  | null
  | bool (value : Bool)
  | number (value : Json.Numeral)
  /-- A string; `none` if it holds an unpaired surrogate. -/
  | text (value : Option String)
  | array (items : Json.Items)
  | object (members : Json.Members)
  /-- No value could be read here. -/
  | broken (stop : Json.Stop)

/-- The items of an array, in order. -/
inductive Json.Items where
  | done
  /-- The text went wrong before the closing bracket. -/
  | stopped (stop : Json.Stop)
  | cons (head : Json) (tail : Json.Items)

/-- The members of an object, in order; a key may occur more than once. -/
inductive Json.Members where
  | done
  /-- The text went wrong before the closing brace. -/
  | stopped (stop : Json.Stop)
  | cons (key : Option String) (value : Json) (tail : Json.Members)

end

namespace Json

deriving instance DecidableEq for Json, Items, Members
deriving instance Repr for Json, Items, Members

instance : Inhabited Json := ⟨.null⟩

/-- An array of complete items. -/
def Items.ofList : List Json → Items
  | [] => .done
  | j :: rest => .cons j (ofList rest)

/-- An object of complete members. -/
def Members.ofList : List (String × Json) → Members
  | [] => .done
  | (k, j) :: rest => .cons (some k) j (ofList rest)

/-- The array of a list of documents. -/
def ofItems (js : List Json) : Json := .array (.ofList js)

/-- The object of a list of members. -/
def ofMembers (ms : List (String × Json)) : Json := .object (.ofList ms)

/-- The document of a text. -/
def ofText (s : String) : Json := .text (some s)

/-- The document of a natural number. -/
def ofNat (n : Nat) : Json := .number (.int n)

/-- The document of an integer. -/
def ofInt (i : Int) : Json := .number (.int i)

/-- The document of an optional value; `null` for none. -/
def ofOption (f : α → Json) : Option α → Json
  | none => .null
  | some a => f a

end Json

end LabelForge
