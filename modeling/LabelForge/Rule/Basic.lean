import LabelForge.Number.Decimal
import LabelForge.Text.Blank
import LabelForge.Text.Quoted

/-!
# LabelForge.Rule.Basic

**Business rules as data.** A rule pairs a conjunction of comparisons with the label it assigns.
Everything downstream (the compiled plan, the prompt, the expectations on an output) reads the
same clauses; no rule is ever turned into code by hand.

Design points:

* A condition is a list of clauses. The empty list holds for every record, so there is no
  separate "always".
* The *specificity* of a rule is the number of its clauses.
* `RuleSet.defect?` goes through the rules in order and reports the first thing that is wrong
  with the first rule that breaks a requirement.
-/

namespace LabelForge

/-- The comparison of a clause. -/
inductive Operator where
  /-- Equal. -/
  | eq
  /-- Not equal. -/
  | ne
  /-- Greater. -/
  | gt
  /-- Greater or equal. -/
  | ge
  /-- Less. -/
  | lt
  /-- Less or equal. -/
  | le
  deriving DecidableEq, Repr

/-- The symbol of an operator. -/
def Operator.symbol : Operator → String
  | .eq => "=="
  | .ne => "!="
  | .gt => ">"
  | .ge => ">="
  | .lt => "<"
  | .le => "<="

/-- Whether the comparison holds of two values that compare as `o`. -/
def Operator.holds : Operator → Ordering → Bool
  | .eq, o => o == .eq
  | .ne, o => o != .eq
  | .gt, o => o == .gt
  | .ge, o => o != .lt
  | .lt, o => o == .lt
  | .le, o => o != .gt

/-- The value a clause compares with. -/
inductive Literal where
  | bool (value : Bool)
  | number (value : Number.Double)
  | text (value : String)
  deriving DecidableEq, Repr

/-- What a message calls the kind of a literal. -/
def Literal.kind : Literal → String
  | .bool _ => "boolean"
  | .number _ => "number"
  | .text _ => "text value"

/-- The text of a literal in a message. -/
def Literal.render : Literal → String
  | .bool b => if b then "true" else "false"
  | .number x => x.plainText
  | .text s => Text.quoted s

/-- A comparison of a column with a literal; false on a missing cell. -/
structure Clause where
  column : String
  op : Operator
  value : Literal
  deriving DecidableEq, Repr

/-- The text of a clause in a message. -/
def Clause.render (c : Clause) : String :=
  c.column ++ " " ++ c.op.symbol ++ " " ++ c.value.render

/-- A conjunction of clauses. -/
structure Condition where
  all : List Clause := []
  deriving DecidableEq, Repr

/-- The condition that every record meets. -/
def Condition.always : Condition := ⟨[]⟩

/-- Whether the condition asks nothing. -/
def Condition.isAlways (c : Condition) : Bool := c.all.isEmpty

/-- The text of a condition in a message. -/
def Condition.render (c : Condition) : String :=
  if c.isAlways then "always" else " AND ".intercalate (c.all.map Clause.render)

/-- A business rule. -/
structure Rule where
  id : String
  name : String
  condition : Condition
  /-- The label of the records this rule wins. -/
  action : String
  /-- Lower values win. -/
  priority : Int
  /-- A note for whoever writes programs from the rules. -/
  description : Option String
  deriving DecidableEq, Repr

/-- The number of clauses. -/
def Rule.specificity (r : Rule) : Nat := r.condition.all.length

/-- Rules in the order of their declaration. -/
structure RuleSet where
  rules : List Rule
  deriving DecidableEq, Repr

namespace RuleSet

/-- The distinct labels in the order of their first rule. -/
def vocabulary (s : RuleSet) : List String :=
  (s.rules.map Rule.action).eraseDups

/-! ### Requirements -/

/-- What can be wrong with a rule set. -/
inductive Defect where
  /-- There is no rule. -/
  | noRules
  /-- The rule at a position has a blank id. -/
  | blankId (index : Nat)
  /-- An earlier rule has the same id. -/
  | duplicateId (id : String)
  /-- The rule assigns a blank label. -/
  | blankAction (id : String)
  /-- A clause of the rule names a blank column. -/
  | blankColumn (id : String)
  deriving DecidableEq, Repr

/-- The message of a defect. -/
def Defect.message : Defect → String
  | .noRules => "rule set is empty"
  | .blankId index => s!"rule at position {index} has an empty id"
  | .duplicateId id => s!"duplicate rule id: {id}"
  | .blankAction id => s!"rule {id} has an empty action label"
  | .blankColumn id => s!"rule {id} has a clause with an empty column name"

/-- The first requirement that a rule breaks, given its position and the ids before it. -/
def ruleDefect? (index : Nat) (earlier : List String) (r : Rule) : Option Defect :=
  if Text.isBlankText r.id then some (.blankId index)
  else if earlier.contains r.id then some (.duplicateId r.id)
  else if Text.isBlankText r.action then some (.blankAction r.id)
  else if r.condition.all.any (fun c => Text.isBlankText c.column) then some (.blankColumn r.id)
  else none

/-- The first defect among rules that follow `index` others with the ids `earlier`. -/
def defectFrom? (index : Nat) (earlier : List String) : List Rule → Option Defect
  | [] => none
  | r :: rest =>
    match ruleDefect? index earlier r with
    | some d => some d
    | none => defectFrom? (index + 1) (r.id :: earlier) rest

/-- The first defect of a rule set, or `none` if it may be used. -/
def defect? (s : RuleSet) : Option Defect :=
  if s.rules.isEmpty then some .noRules else defectFrom? 0 [] s.rules

@[simp] theorem defectFrom?_nil (index : Nat) (earlier : List String) :
    defectFrom? index earlier [] = none := rfl

end RuleSet

end LabelForge
