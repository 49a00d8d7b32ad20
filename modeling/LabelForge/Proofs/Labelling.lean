import LabelForge.Plan.Labelling
import LabelForge.Proofs.Ranking

/-!
# LabelForge.Proofs.Labelling

**What a compiled plan computes.** Every row gets the action of the strongest rule whose clauses
all hold on the row's original cells, and the default label if there is none. The proof goes
through the four things that happen on the way: the rules are sorted, flattened into a nest of
choices, evaluated on a table with some types changed, and the labels are spread over the rows.
-/

namespace LabelForge

/-! ### When a clause holds

`Cell.Compares` is the documented comparison of a cell with a literal. It has no case for a
missing cell, so there is nothing that any operator could hold of. -/

/-- The outcomes that an operator accepts. -/
def Operator.Accepts : Operator → Ordering → Prop
  | .eq, o => o = .eq
  | .ne, o => o ≠ .eq
  | .gt, o => o = .gt
  | .ge, o => o = .gt ∨ o = .eq
  | .lt, o => o = .lt
  | .le, o => o = .lt ∨ o = .eq

/-- How a cell of a column of the given type compares with a literal. -/
inductive Cell.Compares (t : DataType) : Cell → Literal → Ordering → Prop where
  /-- Integers are compared as doubles. -/
  | integer (i : Int) (x : Number.Double) :
      Compares t (.int i) (.number x) ((Number.Double.ofInt i).cmp x)
  /-- In a single-precision column the literal is rounded first. -/
  | single (y x : Number.Double) (h : t = .single) :
      Compares t (.real y) (.number x) (y.cmp x.toSingle)
  | double (y x : Number.Double) (h : t ≠ .single) :
      Compares t (.real y) (.number x) (y.cmp x)
  | bool (b v : Bool) : Compares t (.bool b) (.bool v) (compare b v)
  | text (s v : String) : Compares t (.text s) (.text v) (compare s v)

/-- Whether a clause holds on a row: the cell and the literal compare as the operator asks. -/
def Clause.Meets (f : Frame) (row : Nat) (c : Clause) : Prop :=
  ∃ o, (f.cell c.column row).Compares (f.typeOf c.column) c.value o ∧ c.op.Accepts o

/-- Whether all clauses of a rule hold on a row. -/
def Rule.Meets (f : Frame) (row : Nat) (r : Rule) : Prop :=
  ∀ c ∈ r.condition.all, c.Meets f row

theorem Operator.holds_iff (op : Operator) (o : Ordering) : op.holds o = true ↔ op.Accepts o := by
  cases op <;> cases o <;> simp [Operator.holds, Operator.Accepts]

theorem Clause.holds_iff (c : Clause) (t : DataType) (cell : Cell) :
    c.holds t cell = true ↔ ∃ o, cell.Compares t c.value o ∧ c.op.Accepts o := by
  constructor
  · intro h
    unfold Clause.holds at h
    split at h
    · rename_i i x hv
      exact ⟨_, hv ▸ .integer i x, (c.op.holds_iff _).1 h⟩
    · rename_i y x hv
      split at h
      · rename_i ht
        exact ⟨_, hv ▸ .single y x (by simpa using ht), (c.op.holds_iff _).1 h⟩
      · rename_i ht
        exact ⟨_, hv ▸ .double y x (by simpa using ht), (c.op.holds_iff _).1 h⟩
    · rename_i b v hv
      exact ⟨_, hv ▸ .bool b v, (c.op.holds_iff _).1 h⟩
    · rename_i s v hv
      exact ⟨_, hv ▸ .text s v, (c.op.holds_iff _).1 h⟩
    · exact absurd h (by simp)
  · rintro ⟨o, compares, accepts⟩
    have holds := (c.op.holds_iff o).2 accepts
    unfold Clause.holds
    generalize c.value = value at compares ⊢
    cases compares with
    | integer i x => exact holds
    | single y x ht => simpa [ht] using holds
    | double y x ht => simpa [ht] using holds
    | bool b v => exact holds
    | text s v => exact holds

/-- No clause holds on a missing cell, whatever its operator. -/
theorem Clause.holds_missing (c : Clause) (t : DataType) : c.holds t .missing = false := by
  rw [Bool.eq_false_iff]
  intro h
  obtain ⟨o, compares, -⟩ := (c.holds_iff t .missing).1 h
  cases compares

theorem Clause.holdsOn_iff (f : Frame) (row : Nat) (c : Clause) :
    c.holdsOn f row = true ↔ c.Meets f row :=
  c.holds_iff _ _

/-! ### The cast copy of the table

Changing types can only matter where there are values, and only columns without values are
changed. -/

namespace Frame

theorem column?_retyped (f : Frame) (type : String → DataType) (name : String) :
    (f.retyped type).column? name =
      (f.column? name).map fun c => { c with dataType := type c.name } := by
  rw [column?, retyped, List.find?_map]
  rfl

@[simp] theorem cell_retyped (f : Frame) (type : String → DataType) (name : String) (row : Nat) :
    (f.retyped type).cell name row = f.cell name row := by
  unfold cell
  rw [column?_retyped]
  cases f.column? name <;> rfl

theorem name_of_column? {f : Frame} {name : String} {c : Column} (h : f.column? name = some c) :
    c.name = name := by
  simpa using List.find?_some h

theorem typeOf_retyped {f : Frame} {type : String → DataType} {name : String} {c : Column}
    (h : f.column? name = some c) : (f.retyped type).typeOf name = type name := by
  simp [typeOf, column?_retyped, h, name_of_column? h]

/-- A column without values has nothing but missing cells. -/
theorem cell_of_isValueless {f : Frame} {name : String} {c : Column} (h : f.column? name = some c)
    (valueless : c.isValueless = true) (row : Nat) : f.cell name row = .missing := by
  simp only [cell, h, List.getD_eq_getElem?_getD]
  cases hc : c.cells[row]? with
  | none => rfl
  | some cell =>
      have missing := List.all_eq_true.1 valueless cell (List.mem_of_getElem? hc)
      cases cell <;> simp [Cell.isMissing] at missing ⊢

end Frame

namespace Plan

theorem mem_clauses {p : Plan} {r : PlanRule} {c : Clause} (rule : r ∈ p.rules)
    (clause : c ∈ r.clauses) : (r.id, c) ∈ p.clauses :=
  List.mem_flatMap.2 ⟨r, rule, List.mem_map_of_mem clause⟩

/-- A column that holds a value is compared in its own type. -/
theorem comparedType_of_not_isValueless {p : Plan} {f : Frame} {name : String} {c : Column}
    (h : f.column? name = some c) (valued : c.isValueless = false) :
    p.comparedType f name = c.dataType := by
  simp [comparedType, h, valued]

/-- Clauses hold on the prepared table where they hold on the table itself. -/
theorem holdsOn_prepared (p : Plan) (f : Frame) (row : Nat) (c : Clause) :
    c.holdsOn (p.prepared f) row = c.holdsOn f row := by
  unfold Clause.holdsOn
  rw [prepared, Frame.cell_retyped]
  cases hc : f.column? c.column with
  | none =>
      have missing : f.cell c.column row = .missing := by simp [Frame.cell, hc]
      rw [missing, Clause.holds_missing, Clause.holds_missing]
  | some column =>
      cases hv : column.isValueless with
      -- the type has been changed, but there is no value that would be compared in it
      | true => rw [Frame.cell_of_isValueless hc hv, Clause.holds_missing, Clause.holds_missing]
      | false =>
          rw [Frame.typeOf_retyped hc, comparedType_of_not_isValueless hc hv]
          simp [Frame.typeOf, hc]

end Plan

/-! ### The nest of choices -/

/-- Testing the rules from the outermost one inward finds the first that matches. -/
theorem Plan.eval_choice (p : Plan) (f : Frame) (row : Nat) :
    p.choice.eval f row =
      ((p.rules.find? fun r => r.clauses.all (Clause.holdsOn f row)).map PlanRule.action).getD
        p.defaultLabel := by
  unfold Plan.choice
  rw [List.foldl_reverse]
  induction p.rules with
  | nil => rfl
  | cons r rest ih =>
      rw [List.foldr_cons, Choice.eval, ih, List.find?_cons]
      cases r.clauses.all (Clause.holdsOn f row) <;> rfl

/-- A plan chooses the same label on the prepared table and on the table itself. -/
theorem Plan.eval_choice_prepared (p : Plan) (f : Frame) (row : Nat) :
    p.choice.eval (p.prepared f) row = p.choice.eval f row := by
  rw [eval_choice, eval_choice, funext (p.holdsOn_prepared f row)]

/-- A choice that depends on no column is the same on every row. -/
theorem Choice.eval_eq_of_not_readsColumn {c : Choice} (h : c.readsColumn = false) (f : Frame)
    (i j : Nat) : c.eval f i = c.eval f j := by
  induction c with
  | constant label => rfl
  | test clauses label otherwise ih =>
      simp only [readsColumn, Bool.or_eq_false_iff, Bool.not_eq_false', List.isEmpty_iff] at h
      obtain ⟨rfl, -⟩ := h
      rfl

/-- Every label that is computed is the choice for its row. -/
theorem Choice.eval_of_getElem?_labels {c : Choice} {f : Frame} {label : String} {i : Nat}
    (h : (c.labels f)[i]? = some label) : label = c.eval f i := by
  simp only [labels, List.getElem?_map, Option.map_eq_some_iff] at h
  obtain ⟨j, hj, rfl⟩ := h
  obtain ⟨_, rfl⟩ := List.getElem?_eq_some_iff.1 hj
  rw [List.getElem_range]

/-- Spreading gives every row its own choice, also if the choice was made only once. -/
theorem spread_labels (c : Choice) (f : Frame) :
    spread f.rows (c.labels f) = (List.range f.rows).map (c.eval f) := by
  cases hr : c.readsColumn with
  | false =>
      have once : c.labels f = [c.eval f 0] := by simp [Choice.labels, hr]
      rw [once, spread, eq_comm, List.eq_replicate_iff]
      refine ⟨by simp, fun label h => ?_⟩
      obtain ⟨i, -, rfl⟩ := List.mem_map.1 h
      exact Choice.eval_eq_of_not_readsColumn hr f i 0
  | true =>
      have all : c.labels f = (List.range f.rows).map (c.eval f) := by simp [Choice.labels, hr]
      rw [all]
      unfold spread
      split
      · -- a list of one label is spread, which changes nothing if there is one row
        rename_i label single
        have one : f.rows = 1 := by simpa using congrArg List.length single
        rw [single, one]
        rfl
      · rfl

/-! ### The label column in its table -/

namespace Frame

theorem column?_place (column : Column) (columns : List Column) :
    (place column columns).find? (·.name == column.name) = some column := by
  unfold place
  split
  · rename_i h
    rw [List.find?_map]
    have same : ((fun c : Column => c.name == column.name) ∘ fun c =>
        if c.name == column.name then column else c) = fun c => c.name == column.name := by
      funext c
      by_cases hc : c.name = column.name <;> simp [hc]
    rw [same]
    cases hf : columns.find? (·.name == column.name) with
    | none => exact absurd h (by simpa using hf)
    | some c =>
        have named := List.find?_some hf
        rw [Option.map_some, if_pos named]
  · rename_i h
    rw [List.find?_append, List.find?_eq_none.2 (by simpa using h)]
    simp

/-- The column that was put in place is the one that is found under its name. -/
theorem cell_withColumn_self (f : Frame) (c : Column) (h : c.cells.length = f.rows) (row : Nat) :
    (f.withColumn c h).cell c.name row = c.cells.getD row .missing := by
  simp only [cell, column?, withColumn, column?_place]

theorem cell_ofColumn (c : Column) (row : Nat) :
    (ofColumn c).cell c.name row = c.cells.getD row .missing := by
  simp [cell, column?, ofColumn]

end Frame

theorem Frame.withColumn_congr (f : Frame) {c d : Column} (e : c = d)
    (h : c.cells.length = f.rows) : f.withColumn c h = f.withColumn d (e ▸ h) := by
  subst e
  rfl

namespace Plan

/-- The label column of a table with one row for each row of the given one. -/
def statusColumnOf (p : Plan) (f : Frame) : Column :=
  p.statusOf ((List.range f.rows).map fun row => p.choice.eval f row)

@[simp] theorem length_statusColumnOf (p : Plan) (f : Frame) :
    (p.statusColumnOf f).cells.length = f.rows := by
  simp [statusColumnOf, statusOf]

theorem getD_statusColumnOf (p : Plan) {f : Frame} {row : Nat} (h : row < f.rows) :
    (p.statusColumnOf f).cells.getD row .missing = .text (p.choice.eval f row) := by
  simp [statusColumnOf, statusOf, List.getD_eq_getElem?_getD, h]

@[simp] theorem length_prepared (p : Plan) (f : Frame) : (p.prepared f).rows = f.rows := rfl

/-- What applying a plan gives if it gives a table: no clause was faulty, and the label column of
the prepared table has been put into the table itself. -/
theorem apply_eq_ok {p : Plan} {f out : Frame} (h : p.apply f = .ok out) :
    p.fault? f = none ∧
      (f.columns = [] ∧ out = .ofColumn (p.statusOf (p.choice.labels (p.prepared f))) ∨
        f.columns ≠ [] ∧
          out = f.withColumn (p.statusColumnOf (p.prepared f)) (by simp)) := by
  unfold apply at h
  split at h
  · cases h
  · rename_i sound
    refine ⟨sound, ?_⟩
    dsimp only at h
    split at h
    · rename_i bare
      cases h
      exact .inl ⟨List.isEmpty_iff.1 bare, rfl⟩
    · rename_i wide
      cases h
      refine .inr ⟨by simpa using wide, f.withColumn_congr ?_ _⟩
      rw [spread_labels, statusColumnOf]

/-- A plan that can be applied gives every row of the result the choice for that row. -/
theorem cell_apply {p : Plan} {f out : Frame} (h : p.apply f = .ok out) {i : Nat}
    (hi : i < out.rows) :
    out.cell p.statusColumn i = .text (p.choice.eval (p.prepared f) i) := by
  obtain ⟨-, ⟨-, rfl⟩ | ⟨-, rfl⟩⟩ := apply_eq_ok h
  · have hi' : i < (p.choice.labels (p.prepared f)).length := by
      simpa [Frame.ofColumn, statusOf] using hi
    have label := Choice.eval_of_getElem?_labels (List.getElem?_eq_getElem hi')
    refine (Frame.cell_ofColumn _ i).trans ?_
    simp [statusOf, List.getD_eq_getElem?_getD, hi', label]
  · exact (Frame.cell_withColumn_self f _ _ i).trans (p.getD_statusColumnOf hi)

/-- The rules of a compiled plan test the clauses of the sorted rules. -/
theorem find?_compile (s : RuleSet) (policy : TieBreak) (labels : Labels) (q : List Clause → Bool) :
    (compile s policy labels).rules.find? (fun r => q r.clauses) =
      ((policy.ranked s.rules).find? fun r => q r.1.condition.all).map fun r => ofRule r.1 := by
  rw [compile, List.find?_map]
  rfl

end Plan

/-- The labels that a rule set gives to a row: the action of the strongest rule that matches it,
or the default label. -/
inductive RuleSet.Assigns (s : RuleSet) (policy : TieBreak) (labels : Labels) (f : Frame)
    (row : Nat) : String → Prop where
  /-- The rule is the strongest of those whose clauses all hold on the row. -/
  | won {r : Rule × Nat} (h : policy.Strongest s.rules (Rule.Meets f row) r) :
      Assigns s policy labels f row r.1.action
  /-- Of every rule some clause does not hold on the row. -/
  | unmatched (h : ∀ r ∈ s.rules, ¬ r.Meets f row) :
      Assigns s policy labels f row labels.defaultLabel

theorem Rule.all_holdsOn_iff (f : Frame) (row : Nat) (r : Rule) :
    r.condition.all.all (Clause.holdsOn f row) = true ↔ r.Meets f row := by
  simp [Rule.Meets, Clause.holdsOn_iff]

/-- The choice of a compiled plan is a label that the rule set assigns. -/
theorem RuleSet.assigns_choice (s : RuleSet) (policy : TieBreak) (labels : Labels) (f : Frame)
    (row : Nat) :
    s.Assigns policy labels f row ((Plan.compile s policy labels).choice.eval f row) := by
  rw [Plan.eval_choice, Plan.find?_compile s policy labels fun cs => cs.all (Clause.holdsOn f row)]
  cases hf : (policy.ranked s.rules).find?
      fun r => r.1.condition.all.all (Clause.holdsOn f row) with
  | none =>
      refine .unmatched fun r hr => ?_
      rw [← Rule.all_holdsOn_iff]
      exact TieBreak.not_of_find?_ranked_eq_none (fun r => r.condition.all.all _) hf r hr
  | some r =>
      refine .won (r := r) ?_
      have strongest := TieBreak.strongest_of_find?_ranked (fun r => r.condition.all.all _) hf
      simpa only [Rule.all_holdsOn_iff] using strongest

/-- A rule set assigns one label to every row. -/
theorem RuleSet.Assigns.unique {s : RuleSet} {policy : TieBreak} {labels : Labels} {f : Frame}
    {row : Nat} {a b : String} (ha : s.Assigns policy labels f row a)
    (hb : s.Assigns policy labels f row b) : a = b := by
  cases ha with
  | won first =>
      cases hb with
      | won second => rw [first.eq second]
      | unmatched none => exact absurd first.met (none _ (List.mem_of_getElem? first.listed))
  | unmatched none =>
      cases hb with
      | won second => exact absurd second.met (none _ (List.mem_of_getElem? second.listed))
      | unmatched _ => rfl

/-- **Labelling semantics.** Where a compiled plan can be applied, the table keeps its rows, and
the status cell of every row is the one label that the rule set assigns to the row's original
cells: the action of the strongest rule that matches, or the default label. A clause on a missing
cell never holds, and a rule without clauses always does. -/
theorem apply_compile_assigns {s : RuleSet} {policy : TieBreak} {labels : Labels} {f out : Frame}
    (h : (Plan.compile s policy labels).apply f = .ok out) :
    (f.columns ≠ [] → out.rows = f.rows) ∧
      (∀ row < out.rows, ∃ label, out.cell labels.statusColumn row = .text label ∧
        ∀ other, s.Assigns policy labels f row other ↔ other = label) ∧
      (∀ row (c : Clause), f.cell c.column row = .missing → ¬ c.Meets f row) ∧
      ∀ row (r : Rule), r.condition.all = [] → r.Meets f row := by
  refine ⟨?_, ?_, ?_, ?_⟩
  · rintro wide
    obtain ⟨-, ⟨bare, -⟩ | ⟨-, rfl⟩⟩ := Plan.apply_eq_ok h
    · exact absurd bare wide
    · rfl
  · intro row hrow
    refine ⟨_, Plan.cell_apply h hrow, fun other => ?_⟩
    rw [Plan.eval_choice_prepared]
    have assigned := s.assigns_choice policy labels f row
    exact ⟨fun ha => ha.unique assigned, fun e => e ▸ assigned⟩
  · rintro row c missing ⟨o, compares, -⟩
    rw [missing] at compares
    cases compares
  · intro row r none c hc
    rw [none] at hc
    cases hc

/-- Two rules that overlap; the second one also reads the column that takes the label. -/
def overlappingRules : RuleSet := ⟨[
  ⟨"old", "Old stock", ⟨[⟨"age", .gt, .number (.ofNat 180)⟩]⟩, "sell", 1, none⟩,
  ⟨"held", "Old stock on hold",
    ⟨[⟨"age", .gt, .number (.ofNat 180)⟩, ⟨"Status", .ne, .text "free"⟩]⟩, "keep", 5, none⟩]⟩

/-- A row that both rules match, one where the label to be replaced is missing, and one without
an age. -/
def agedStock : Frame where
  rows := 3
  columns := [⟨"age", .int .i64, [.int 200, .int 200, .missing]⟩,
    ⟨"Status", .text, [.text "held", .missing, .text "held"]⟩]
  aligned := by decide
  distinct := by decide

theorem ranked_overlappingRules : TieBreak.specificityFirst.ranked overlappingRules.rules =
    overlappingRules.rules.zipIdx.reverse := by
  simp [TieBreak.ranked, overlappingRules, List.mergeSort, List.MergeSort.Internal.splitInTwo,
    TieBreak.compare, Rule.specificity, List.merge]
  decide

theorem apply_compile_assigns_overlap :
    ∃ out, (Plan.compile overlappingRules .specificityFirst {}).apply agedStock = .ok out ∧
      out.rows = 3 ∧ ∀ row < out.rows, ∃ label, out.cell "Status" row = .text label ∧
        ∀ other, overlappingRules.Assigns .specificityFirst {} agedStock row other ↔
          other = label := by
  have sound : (Plan.compile overlappingRules .specificityFirst {}).fault? agedStock = none := by
    rw [Plan.compile, ranked_overlappingRules]
    decide +kernel
  obtain ⟨out, h⟩ : ∃ out, (Plan.compile overlappingRules .specificityFirst {}).apply agedStock =
      .ok out := by
    rw [Plan.apply, sound]
    exact ⟨_, rfl⟩
  have assigned := apply_compile_assigns h
  exact ⟨out, h, assigned.1 (by decide), assigned.2.1⟩

end LabelForge
