import LabelForge.Rule.Basic
import LabelForge.Json.Decoder
import LabelForge.Json.Printer

/-!
# LabelForge.Rule.Document

**Rule sets as documents.** A rule set document is an object with the rules under `rules`, or
the bare array of them. Operators may be written by symbol or by name; a literal is told by its
kind of value; a rule's condition, priority and description may be left out.

Design points:

* A document that is not JSON is reported as such before its shape is looked at.
* Writing always gives the object form with every field but an absent description, so what is
  written can be read as nothing else.
-/

namespace LabelForge

open Json

/-- The words for the operators, the symbol of each first. -/
def Operator.words : List (String × Operator) :=
  [("==", .eq), ("eq", .eq), ("!=", .ne), ("ne", .ne), (">", .gt), ("gt", .gt),
    (">=", .ge), ("ge", .ge), ("<", .lt), ("lt", .lt), ("<=", .le), ("le", .le)]

/-- Decodes an operator. -/
def Operator.decoder : Decoder Operator := asWord Operator.words

/-- Decodes a literal: a truth value, a number or a text. -/
def Literal.decoder : Decoder Literal
  | .bool b => .ok (.bool b)
  | .number (.int i) => .ok (.number (Number.Double.ofInt i))
  | .number (.real x) => .ok (.number x)
  | .text (some s) => .ok (.text s)
  | j => .error (match verify maxDepth j with | .error f => f | .ok _ => .mismatch)

/-- Decodes a clause. -/
def Clause.decoder : Decoder Clause := fun j => do
  let found ← gather [.required "column" asText, .required "op" Operator.decoder,
    .required "value" Literal.decoder] j
  return {
    column := ← found.get "column" asText
    op := ← found.get "op" Operator.decoder
    value := ← found.get "value" Literal.decoder }

/-- Decodes a condition. -/
def Condition.decoder : Decoder Condition := fun j => do
  let clauses := asList Clause.decoder
  let found ← gather [.defaulted "all" clauses] j
  return { all := ← found.getD "all" clauses [] }

/-- Decodes a rule. -/
def Rule.decoder : Decoder Rule := fun j => do
  let found ← gather [.required "id" asText, .required "name" asText,
    .defaulted "condition" Condition.decoder, .required "action" asText,
    .defaulted "priority" asInt64, .defaulted "description" (asOption asText)] j
  return {
    id := ← found.get "id" asText
    name := ← found.get "name" asText
    condition := ← found.getD "condition" Condition.decoder .always
    action := ← found.get "action" asText
    priority := ← found.getD "priority" asInt64 0
    description := ← found.getD "description" (asOption asText) none }

/-- Decodes a rule set under `rules`. -/
def RuleSet.wrappedDecoder : Decoder RuleSet := fun j => do
  let rules := asList Rule.decoder
  let found ← gather [.required "rules" rules] j
  return { rules := ← found.get "rules" rules }

/-- Decodes a bare array of rules. -/
def RuleSet.bareDecoder : Decoder RuleSet := fun j => do
  return { rules := ← asList Rule.decoder j }

/-- Decodes a rule set: the object form is tried first, then the bare array. -/
def RuleSet.decoder : Decoder RuleSet := fun j => do
  verify maxDepth j
  match wrappedDecoder j with
  | .ok s => return s
  | .error _ =>
    match bareDecoder j with
    | .ok s => return s
    | .error _ => throw .mismatch

/-- Reads a rule set document. -/
def RuleSet.parse (text : String) : Except Fault RuleSet :=
  Json.decode RuleSet.decoder text

/-! ### Writing -/

/-- The document of a literal. -/
def Literal.toJson : Literal → Json
  | .bool b => .bool b
  | .number (.finite s n) => .number (.real (.finite s n))
  | .number _ => .null
  | .text s => .ofText s

/-- The document of a clause. -/
def Clause.toJson (c : Clause) : Json :=
  .ofMembers [("column", .ofText c.column), ("op", .ofText c.op.symbol), ("value", c.value.toJson)]

/-- The document of a condition. -/
def Condition.toJson (c : Condition) : Json :=
  .ofMembers [("all", .ofItems (c.all.map Clause.toJson))]

/-- The document of a rule. -/
def Rule.toJson (r : Rule) : Json :=
  .ofMembers <|
    [("id", .ofText r.id), ("name", .ofText r.name), ("condition", r.condition.toJson),
      ("action", .ofText r.action), ("priority", .ofInt r.priority)] ++
    match r.description with
    | none => []
    | some d => [("description", .ofText d)]

/-- The document of a rule set. -/
def RuleSet.toJson (s : RuleSet) : Json :=
  .ofMembers [("rules", .ofItems (s.rules.map Rule.toJson))]

/-- The text of a rule set document. -/
def RuleSet.print (s : RuleSet) : String :=
  s.toJson.pretty

end LabelForge
