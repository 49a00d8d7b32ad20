import LabelForge.Frame
import LabelForge.Plan.Basic

/-!
# LabelForge.Plan.Labelling

**Applying a plan to a table.** Every row gets the label of the first rule whose clauses all hold
on the row's cells, or the default label. The label column is the only thing that changes.

Design points:

* A clause is false on a missing cell, whatever its comparison.
* Before any row is looked at, the clauses are checked against the types of the columns. A column
  without values takes the type of the first literal that does not fit its own; only a further
  clause that mixes numbers and texts on such a column is refused.
* The checks look a column up by its name. The evaluation reads the name as an expression, in which
  a star means all columns and a text between a caret and a dollar sign is a pattern. A plan is
  refused if such a name stands for anything but the one column that has it.
* Clauses see the cells of the input, also those of a status column that is about to be replaced.
* A choice that depends on no column is made once; its label is then spread over the rows.
* Integers are compared as doubles. In a single-precision column the literal is rounded to
  single precision first.
-/

namespace LabelForge

open Number

/-- Whether a literal may be compared with the values of a column of a type. -/
def Literal.fits (t : DataType) : Literal → Bool
  | .number _ => t.isNumeric
  | .text _ => t == .text
  | .bool _ => t == .bool

/-- The type of a column of values like the literal. -/
def Literal.dataType : Literal → DataType
  | .number _ => .double
  | .text _ => .text
  | .bool _ => .bool

/-- Whether a clause holds on a cell of a column of the given type. -/
def Clause.holds (c : Clause) (t : DataType) (cell : Cell) : Bool :=
  match cell, c.value with
  | .int i, .number x => c.op.holds ((Double.ofInt i).cmp x)
  | .real y, .number x => c.op.holds (y.cmp (if t == .single then x.toSingle else x))
  | .bool b, .bool v => c.op.holds (compare b v)
  | .text s, .text v => c.op.holds (compare s v)
  | _, _ => false

/-- Why a plan cannot be applied to a table. -/
inductive LabellingError where
  /-- The table does not have the column of a clause. -/
  | unknownColumn (rule column : String)
  /-- A clause compares a column with a literal that does not fit its values. -/
  | clauseType (rule column : String) (found : DataType) (value : Literal)
  /-- The clauses on a column cannot be evaluated: they compare a column without values both with
  numbers and with texts, or its name stands for other columns as well. -/
  | incomparable (column : String)
  deriving DecidableEq, Repr

/-- The message of a fault. -/
def LabellingError.message : LabellingError → String
  | .unknownColumn rule column =>
    s!"rule '{rule}' references column '{column}' which is not in the input"
  | .clauseType rule column found value =>
    s!"rule '{rule}' compares column '{column}' ({found.name}) with a {value.kind}"
  | .incomparable column =>
    s!"dataframe evaluation failed: the clauses on column '{column}' cannot be evaluated"

/-! ### Names in expressions -/

/-- Whether a name is taken for a pattern of names when it is read as an expression. -/
def isNamePattern (name : String) : Bool :=
  name.toList.head? == some '^' && name.toList.getLast? == some '$'

/-- The columns for which a name stands in an expression: a star stands for all columns. Patterns
are not looked up, so a pattern stands for none. -/
def Frame.selected (f : Frame) (name : String) : List String :=
  if name = "*" then f.names else if isNamePattern name then [] else [name]

theorem Frame.selected_star (f : Frame) : f.selected "*" = f.names :=
  if_pos rfl

theorem Frame.selected_of_ne_star {f g : Frame} {name : String} (other : name ≠ "*") :
    g.selected name = f.selected name := by
  rw [selected, selected, if_neg other, if_neg other]

theorem Frame.selected_plain {f : Frame} {name : String} (other : name ≠ "*")
    (plain : isNamePattern name = false) : f.selected name = [name] := by
  rw [selected, if_neg other, plain]
  rfl

namespace Plan

/-! ### Checks -/

/-- What is wrong with a clause of a rule, given the table. -/
def clauseFault? (f : Frame) (rule : String) (c : Clause) : Option LabellingError :=
  match f.column? c.column with
  | none => some (.unknownColumn rule c.column)
  | some column =>
    if column.dataType == .null || c.value.fits column.dataType || column.isValueless then none
    else some (.clauseType rule c.column column.dataType c.value)

/-- All clauses in the order of the plan, each with the id of its rule. -/
def clauses (p : Plan) : List (String × Clause) :=
  p.rules.flatMap fun r => r.clauses.map fun c => (r.id, c)

/-- The type in which a column is compared: that of the first literal that does not fit a column
without values, otherwise its own. -/
def comparedType (p : Plan) (f : Frame) (name : String) : DataType :=
  match f.column? name with
  | none => .null
  | some column =>
    if column.dataType == .null || !column.isValueless then column.dataType
    else
      match p.clauses.find? fun (_, c) => c.column == name && !c.value.fits column.dataType with
      | some (_, c) => c.value.dataType
      | none => column.dataType

/-- Whether a literal cannot be compared with a column of a type: numbers with texts. -/
def clashes (t : DataType) : Literal → Bool
  | .number _ => t == .text
  | .text _ => t.isNumeric
  | .bool _ => false

/-- Whether a clause can be evaluated: its name stands for one column only, and the literal can be
compared with the values of that column. -/
def evaluable (p : Plan) (f : Frame) (c : Clause) : Bool :=
  f.selected c.column == [c.column] && !clashes (p.comparedType f c.column) c.value

/-- The fault that keeps a plan from being applied to a table: the first faulty clause, or else a
clause that cannot be evaluated. -/
def fault? (p : Plan) (f : Frame) : Option LabellingError :=
  match p.clauses.findSome? fun (rule, c) => clauseFault? f rule c with
  | some e => some e
  | none =>
    (p.clauses.find? fun (_, c) => !p.evaluable f c).map fun (_, c) => .incomparable c.column

/-- The table on which the clauses are evaluated: a column without values has the type in which it
is compared. -/
def prepared (p : Plan) (f : Frame) : Frame :=
  f.retyped (p.comparedType f)

end Plan

/-! ### Choices

What a plan computes for a row is a nest of alternatives. It is built from the weakest rule
outward, so that the strongest rule is the one that is tested first. -/

/-- How a label is chosen. -/
inductive Choice where
  /-- The same label for every row. -/
  | constant (label : String)
  /-- A label for the rows on which all clauses hold, and another choice for the others. -/
  | test (clauses : List Clause) (label : String) (otherwise : Choice)
  deriving DecidableEq, Repr

/-- The type of a column; none has the type without values. -/
def Frame.typeOf (f : Frame) (name : String) : DataType :=
  match f.column? name with
  | some column => column.dataType
  | none => .null

/-- Whether a clause holds on a row. -/
def Clause.holdsOn (f : Frame) (row : Nat) (c : Clause) : Bool :=
  c.holds (f.typeOf c.column) (f.cell c.column row)

namespace Choice

/-- The label that is chosen for a row. -/
def eval (f : Frame) (row : Nat) : Choice → String
  | .constant label => label
  | .test clauses label otherwise =>
    if clauses.all (Clause.holdsOn f row) then label else otherwise.eval f row

/-- Whether the choice depends on a column. -/
def readsColumn : Choice → Bool
  | .constant _ => false
  | .test clauses _ otherwise => !clauses.isEmpty || otherwise.readsColumn

/-- The labels that are chosen on a table: one for every row, or a single one if the choice
depends on no column. -/
def labels (c : Choice) (f : Frame) : List String :=
  (List.range (if c.readsColumn then f.rows else 1)).map fun row => c.eval f row

end Choice

/-- A single label for a number of rows; labels that are as many as the rows stay. -/
def spread (rows : Nat) : List String → List String
  | [label] => List.replicate rows label
  | labels => labels

theorem length_spread_labels (c : Choice) (f : Frame) :
    (spread f.rows (c.labels f)).length = f.rows := by
  unfold spread
  split
  · simp
  · rename_i hne
    cases hr : c.readsColumn with
    | false => exact (hne (c.eval f 0) (by simp [Choice.labels, hr])).elim
    | true => simp [Choice.labels, hr]

namespace Plan

/-- The choice of a plan: the label of the first rule whose clauses all hold, or the default. -/
def choice (p : Plan) : Choice :=
  p.rules.reverse.foldl (fun otherwise r => .test r.clauses r.action otherwise)
    (.constant p.defaultLabel)

/-- The label column with the given labels. -/
def statusOf (p : Plan) (labels : List String) : Column :=
  ⟨p.statusColumn, .text, labels.map Cell.text⟩

/-- The table with its label column. A table without columns becomes one with a single label. -/
def apply (p : Plan) (f : Frame) : Except LabellingError Frame :=
  match p.fault? f with
  | some e => .error e
  | none =>
    let labels := p.choice.labels (p.prepared f)
    if f.columns.isEmpty then .ok (.ofColumn (p.statusOf labels))
    else .ok (f.withColumn (p.statusOf (spread (p.prepared f).rows labels))
      ((List.length_map ..).trans (length_spread_labels _ _)))

/-- How many rows each label wins. -/
def winningLabels (p : Plan) (f : Frame) : Except LabellingError Tally := do
  let labelled ← p.apply f
  match labelled.column? p.statusColumn with
  | some column => return column.counts
  | none => return []

end Plan

/-- The table with the labels that a rule set gives it. -/
def Frame.label (f : Frame) (s : RuleSet) (policy : TieBreak) (labels : Labels) :
    Except LabellingError Frame :=
  (Plan.compile s policy labels).apply f

end LabelForge
