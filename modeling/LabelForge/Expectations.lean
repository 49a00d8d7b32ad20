import LabelForge.Plan.Labelling
import LabelForge.Settings

/-!
# LabelForge.Expectations

**What an output must look like.** The expectations name the status column, the columns that must
survive, the labels that may occur, those that must, and, if that is asked for, how often.

Design points:

* The labels that must occur are those that the plan of the rules gives to some row, trimmed as
  they will be counted. A rule that never wins requires nothing.
* The status column is not one of the columns that must survive.
-/

namespace LabelForge

/-- What an output must look like. -/
structure Expectations where
  statusColumn : String
  defaultLabel : String
  inputColumns : List String
  /-- The labels of the rules. -/
  vocabulary : OrderedSet
  /-- The labels that must occur. -/
  required : OrderedSet := []
  /-- How often labels must occur. -/
  counts : Option Tally := none
  deriving DecidableEq, Repr

namespace Expectations

/-- The expectations of a rule set on a table with the given columns. -/
def ofRules (s : RuleSet) (labels : Labels) (columns : List String) : Expectations where
  statusColumn := labels.statusColumn
  defaultLabel := labels.defaultLabel
  inputColumns := columns.filter (· != labels.statusColumn)
  vocabulary := .ofTexts s.vocabulary

/-- Whether a label may occur. -/
def allows (e : Expectations) (label : String) : Bool :=
  label == e.defaultLabel || e.vocabulary.contains label

/-- The expectations as a document. -/
def toJson (e : Expectations) : Json := .ofMembers [
  ("status_column", .ofText e.statusColumn), ("default_label", .ofText e.defaultLabel),
  ("input_columns", .ofItems (e.inputColumns.map .ofText)),
  ("vocabulary", .ofItems (e.vocabulary.map .ofText)),
  ("required_labels", .ofItems (e.required.map .ofText)),
  ("expected_counts", .ofOption Tally.toJson e.counts)]

/-- The expectations of a rule set on a table. -/
def derive (f : Frame) (s : RuleSet) (settings : Settings) :
    Except LabellingError Expectations := do
  let winners ← (Plan.compile s settings.tieBreak settings.labels).winningLabels f
  return { ofRules s settings.labels f.names with
    required := .ofTexts (winners.labels.filter (· != settings.labels.defaultLabel))
    counts := if settings.strictCounts then some winners else none }

end Expectations

end LabelForge
