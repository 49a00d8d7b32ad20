import LabelForge.Rule.Basic

/-!
# LabelForge.Policy

**Which rule wins.** When a record meets the conditions of several rules, the *tie-break policy*
decides. Both policies compare the number of clauses (more is stronger), the priority (lower is
stronger) and at last the position of the declaration, so they order the rules of a set totally.

Design points:

* A rule is compared together with its position; the position is the last key of every policy.
* `ranked` sorts from the strongest rule to the weakest; evaluating the ranked rules in order
  never needs the policy again.
-/

namespace LabelForge

/-- How overlapping rules are ranked. -/
inductive TieBreak where
  /-- Most clauses first, then the lowest priority value. -/
  | specificityFirst
  /-- Lowest priority value first, then most clauses. -/
  | priorityFirst
  deriving DecidableEq, Repr

namespace TieBreak

/-- The word for a policy in documents. -/
def label : TieBreak → String
  | .specificityFirst => "specificity_then_priority"
  | .priorityFirst => "priority_then_specificity"

/-- The words for the policies. -/
def words : List (String × TieBreak) :=
  [("specificity_then_priority", .specificityFirst), ("priority_then_specificity", .priorityFirst)]

/-- Compares two rules at their positions; `lt` if the first one is stronger. -/
def compare (p : TieBreak) (left right : Rule × Nat) : Ordering :=
  let specificity := Ord.compare right.1.specificity left.1.specificity
  let priority := Ord.compare left.1.priority right.1.priority
  let primary := match p with
    | .specificityFirst => specificity.then priority
    | .priorityFirst => priority.then specificity
  primary.then (Ord.compare left.2 right.2)

/-- The rules with their positions, from the strongest to the weakest. -/
def ranked (p : TieBreak) (rules : List Rule) : List (Rule × Nat) :=
  rules.zipIdx.mergeSort fun a b => (p.compare a b).isLE

/-- The positions of the rules, from the strongest to the weakest. -/
def order (p : TieBreak) (s : RuleSet) : List Nat :=
  (p.ranked s.rules).map Prod.snd

/-- The policy in plain words, for whoever writes programs from the rules. -/
def instruction : TieBreak → String
  | .specificityFirst =>
    "When a record matches more than one rule, the rule whose condition has the MOST clauses " ++
    "(the most specific rule) wins. If several matching rules have the same number of clauses, " ++
    "the rule with the LOWEST priority value wins. If they are still tied, the rule listed " ++
    "first wins."
  | .priorityFirst =>
    "When a record matches more than one rule, the rule with the LOWEST priority value wins. " ++
    "If several matching rules share that priority, the rule whose condition has the MOST " ++
    "clauses wins. If they are still tied, the rule listed first wins."

end TieBreak

/-- The names used for labelling: the column that takes the label, and the label of the records
that no rule matches. -/
structure Labels where
  statusColumn : String := "Status"
  defaultLabel : String := "Normal"
  deriving DecidableEq, Repr

end LabelForge
