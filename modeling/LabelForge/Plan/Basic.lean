import LabelForge.Policy
import LabelForge.Rule.Document

/-!
# LabelForge.Plan.Basic

**Label plans.** A plan is a rule set flattened into the order in which its rules win, together
with the labels that are used. The first rule of a plan whose clauses all hold labels the record;
the tie-break policy is not needed any more.

Design points:

* A plan document carries a format tag. A document with another tag is refused, but only after
  the rest of it has been read.
* Names and priorities of the rules do not take part in a plan.
-/

namespace LabelForge

open Json

/-- A rule of a plan. -/
structure PlanRule where
  id : String
  /-- The label of the records this rule wins. -/
  action : String
  /-- What must hold; no clause holds of every record. -/
  clauses : List Clause := []
  deriving DecidableEq, Repr

/-- Rules in the order in which they win. -/
structure Plan where
  statusColumn : String
  defaultLabel : String
  rules : List PlanRule
  deriving DecidableEq, Repr

namespace Plan

/-- The format tag of plan documents. -/
def format : String := "rulesmith-label-plan/v1"

/-- A rule without what a plan does not need. -/
def ofRule (r : Rule) : PlanRule :=
  ⟨r.id, r.action, r.condition.all⟩

/-- The plan of a rule set. -/
def compile (s : RuleSet) (policy : TieBreak) (labels : Labels) : Plan where
  statusColumn := labels.statusColumn
  defaultLabel := labels.defaultLabel
  rules := (policy.ranked s.rules).map fun r => ofRule r.1

/-- The distinct labels of the rules in order, with the default label last. -/
def vocabulary (p : Plan) : List String :=
  (p.rules.map PlanRule.action ++ [p.defaultLabel]).eraseDups

end Plan

/-! ### Documents -/

/-- Why a text is no plan. -/
inductive PlanError where
  /-- The text is no plan document. -/
  | notPlan (fault : Fault)
  /-- The document has another format tag. -/
  | unsupportedFormat (found : String)
  deriving DecidableEq, Repr

/-- The message of a fault. -/
def PlanError.message : PlanError → String
  | .notPlan fault => s!"label plan is not valid JSON: {fault.message}"
  | .unsupportedFormat found => s!"unsupported label plan format '{found}'"

/-- Decodes a rule of a plan. -/
def PlanRule.decoder : Decoder PlanRule := fun j => do
  let clauses := asList Clause.decoder
  let found ← gather [.required "id" asText, .required "action" asText,
    .defaulted "clauses" clauses] j
  return {
    id := ← found.get "id" asText
    action := ← found.get "action" asText
    clauses := ← found.getD "clauses" clauses [] }

/-- The document of a rule of a plan. -/
def PlanRule.toJson (r : PlanRule) : Json :=
  .ofMembers [("id", .ofText r.id), ("action", .ofText r.action),
    ("clauses", .ofItems (r.clauses.map Clause.toJson))]

namespace Plan

/-- Decodes a plan together with its format tag. -/
def taggedDecoder : Decoder (String × Plan) := fun j => do
  let rules := asList PlanRule.decoder
  let found ← gather [.required "format" asText, .required "status_column" asText,
    .required "default_label" asText, .required "rules" rules] j
  return (← found.get "format" asText, {
    statusColumn := ← found.get "status_column" asText
    defaultLabel := ← found.get "default_label" asText
    rules := ← found.get "rules" rules })

/-- Reads a plan document. -/
def parse (text : String) : Except PlanError Plan :=
  match Json.decode taggedDecoder text with
  | .error fault => .error (.notPlan fault)
  | .ok (tag, plan) => if tag == format then .ok plan else .error (.unsupportedFormat tag)

/-- The document of a plan. -/
def toJson (p : Plan) : Json :=
  .ofMembers [
    ("format", .ofText format),
    ("status_column", .ofText p.statusColumn),
    ("default_label", .ofText p.defaultLabel),
    ("rules", .ofItems (p.rules.map PlanRule.toJson))]

/-- The text of a plan document. -/
def print (p : Plan) : String :=
  p.toJson.pretty

end Plan

end LabelForge
