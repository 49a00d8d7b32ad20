import LabelForge.Proofs.Labelling
import Mathlib.Data.List.Basic
import Mathlib.Data.List.Find

/-!
# LabelForge.Proofs.StatusColumn

**What labelling changes.** The label column, and nothing else: it takes the place of a column of
its name or comes last, and all other columns keep their places, their types and their cells. What
was done to the types for the evaluation does not show.

Design points:

* A plan sees a table only through the columns that its clauses name, and through what these names
  stand for. Two tables that agree on both are refused for the same reason and get the same labels
  row by row; a plan whose clauses do not name the label column therefore gives a labelled table the
  labels it already has. The name `*` is the exception: it stands for the label column as well.
* A table without columns has no rows that could be counted. A plan that can be applied to it has no
  clause, and its one label makes a table of one row.
-/

namespace LabelForge

namespace Frame

/-- Columns before and after a column was put in place: it has replaced the one of its name, or
there was none and it comes last. -/
inductive Splices (column : Column) : List Column → List Column → Prop where
  | replaced (before : List Column) (old : Column) (after : List Column)
      (named : old.name = column.name) :
      Splices column (before ++ old :: after) (before ++ column :: after)
  | appended (columns : List Column) (new : ∀ c ∈ columns, c.name ≠ column.name) :
      Splices column columns (columns ++ [column])

/-- The column is where it was put. -/
theorem Splices.placed {column : Column} {columns result : List Column}
    (splices : Splices column columns result) :
    ∃ before after, result = before ++ column :: after := by
  cases splices with
  | replaced before old after named => exact ⟨before, after, rfl⟩
  | appended _ new => exact ⟨columns, [], rfl⟩

theorem place_of_new {column : Column} {columns : List Column}
    (new : ∀ c ∈ columns, c.name ≠ column.name) : place column columns = columns ++ [column] := by
  have absent : columns.any (·.name == column.name) = false := by simpa using new
  rw [place, absent]
  rfl

/-- Columns of other names stay as they are. -/
theorem map_replace_of_new {column : Column} {columns : List Column}
    (new : ∀ c ∈ columns, c.name ≠ column.name) :
    (columns.map fun c => if c.name == column.name then column else c) = columns :=
  (List.map_congr_left fun c mem => by rw [beq_false_of_ne (new c mem)]; rfl).trans
    (List.map_id' columns)

theorem place_of_mem {column old : Column} {before after : List Column}
    (distinct : ((before ++ old :: after).map Column.name).Nodup) (named : old.name = column.name) :
    place column (before ++ old :: after) = before ++ column :: after := by
  have present : (before ++ old :: after).any (·.name == column.name) = true := by simp [named]
  simp only [List.map_append, List.map_cons, List.nodup_append, List.nodup_cons,
    List.mem_map, named] at distinct
  have before_new : ∀ c ∈ before, c.name ≠ column.name := fun c mem same =>
    distinct.2.2 _ ⟨c, mem, rfl⟩ _ (List.mem_cons_self ..) same
  have after_new : ∀ c ∈ after, c.name ≠ column.name := fun c mem same =>
    distinct.2.1.1 ⟨c, mem, same⟩
  rw [place, present, if_pos rfl, List.map_append, List.map_cons, map_replace_of_new before_new,
    map_replace_of_new after_new]
  simp [named]

/-- Putting a column in place changes one place of a table. -/
theorem splices_place (column : Column) {columns : List Column}
    (distinct : (columns.map Column.name).Nodup) :
    Splices column columns (place column columns) := by
  by_cases present : ∃ old ∈ columns, old.name = column.name
  · obtain ⟨old, mem, named⟩ := present
    obtain ⟨before, after, rfl⟩ := List.append_of_mem mem
    rw [place_of_mem distinct named]
    exact .replaced before old after named
  · have new : ∀ c ∈ columns, c.name ≠ column.name := fun c mem same => present ⟨c, mem, same⟩
    rw [place_of_new new]
    exact .appended columns new

/-- Putting a column in place leaves the columns of other names. -/
theorem column?_withColumn_of_ne (f : Frame) {column : Column} (h : column.cells.length = f.rows)
    {name : String} (other : name ≠ column.name) :
    (f.withColumn column h).column? name = f.column? name := by
  have unnamed : (column.name == name) = false := beq_false_of_ne other.symm
  have splices := splices_place column f.distinct
  simp only [column?, withColumn]
  generalize place column f.columns = result at splices
  generalize f.columns = columns at splices
  cases splices with
  | replaced before old after named =>
      have unnamed_old : (old.name == name) = false := by rw [named, unnamed]
      simp [List.find?_append, unnamed, unnamed_old]
  | appended _ new => simp [List.find?_append, unnamed]

theorem eq_of_columns {f g : Frame} (rows : f.rows = g.rows) (columns : f.columns = g.columns) :
    f = g := by
  cases f
  cases g
  cases rows
  cases columns
  rfl

end Frame

namespace Plan

variable {p : Plan} {f g out : Frame}

/-! ### What a plan sees of a table -/

/-- Whether two tables have the same columns under the names that occur in the clauses of a plan,
and these names stand for the same columns in both. -/
def Agree (p : Plan) (f g : Frame) : Prop :=
  ∀ x ∈ p.clauses, g.column? x.2.column = f.column? x.2.column ∧
    g.selected x.2.column = f.selected x.2.column

/-- Tables that a plan cannot tell apart are refused for the same reason. -/
theorem fault?_congr (agree : p.Agree f g) : p.fault? g = p.fault? f := by
  have same_faults : (p.clauses.findSome? fun x => clauseFault? g x.1 x.2) =
      p.clauses.findSome? fun x => clauseFault? f x.1 x.2 := by
    rw [← List.head?_filterMap, ← List.head?_filterMap]
    refine congrArg List.head? (List.filterMap_congr fun x mem => ?_)
    rw [clauseFault?, clauseFault?, (agree x mem).1]
  have same_evaluation : (p.clauses.find? fun x => !p.evaluable g x.2) =
      p.clauses.find? fun x => !p.evaluable f x.2 := by
    refine List.find?_congr fun x mem => ?_
    obtain ⟨column, selected⟩ := agree x mem
    rw [evaluable, evaluable, comparedType, comparedType, column, selected]
  unfold fault?
  rw [same_faults, same_evaluation]

/-- Tables that a plan cannot tell apart get the same label in every row. -/
theorem eval_choice_congr (agree : p.Agree f g) (row : Nat) :
    p.choice.eval g row = p.choice.eval f row := by
  rw [eval_choice, eval_choice]
  congr 2
  refine List.find?_congr fun r rule => ?_
  have same : ∀ c ∈ r.clauses, c.holdsOn g row = c.holdsOn f row := by
    intro c clause
    have column := (agree (r.id, c) (mem_clauses rule clause)).1
    simp only [Clause.holdsOn, Frame.typeOf, Frame.cell, column]
  rw [Bool.eq_iff_iff, List.all_eq_true, List.all_eq_true]
  exact forall₂_congr fun c clause => by rw [same c clause]

/-! ### The label column -/

/-- Every label that a plan chooses is in its vocabulary. -/
theorem choice_mem_vocabulary (p : Plan) (f : Frame) (row : Nat) :
    p.choice.eval f row ∈ p.vocabulary := by
  rw [eval_choice, vocabulary, List.mem_eraseDups, List.mem_append, List.mem_singleton]
  cases winner : p.rules.find? fun r => r.clauses.all (Clause.holdsOn f row) with
  | none => exact .inr rfl
  | some r => exact .inl (List.mem_map_of_mem (List.mem_of_find?_eq_some winner))

/-- A column with the labels of a plan: its name, texts, and no cell without a label. -/
structure Labelled (p : Plan) (column : Column) : Prop where
  name : column.name = p.statusColumn
  dataType : column.dataType = .text
  known : ∀ cell ∈ column.cells, ∃ label ∈ p.vocabulary, cell = .text label

theorem labelled_statusColumnOf (p : Plan) (f : Frame) : p.Labelled (p.statusColumnOf f) where
  name := rfl
  dataType := rfl
  known := by
    intro cell mem
    simp only [statusColumnOf, statusOf, List.map_map, List.mem_map] at mem
    obtain ⟨row, -, rfl⟩ := mem
    exact ⟨_, p.choice_mem_vocabulary f row, rfl⟩

/-- Labels do not depend on the types that were changed for the evaluation. -/
theorem statusColumnOf_prepared (p : Plan) (f : Frame) :
    p.statusColumnOf (p.prepared f) = p.statusColumnOf f := by
  simp only [statusColumnOf, eval_choice_prepared, length_prepared]

theorem statusColumnOf_congr (agree : p.Agree f g) (rows : g.rows = f.rows) :
    p.statusColumnOf g = p.statusColumnOf f := by
  simp only [statusColumnOf, rows, eval_choice_congr agree]

/-! ### Applying a plan -/

/-- The table with the label column in its place. -/
theorem apply_of_columns (sound : p.fault? f = none) (wide : f.columns ≠ []) :
    p.apply f = .ok (f.withColumn (p.statusColumnOf f) (p.length_statusColumnOf f)) := by
  cases applied : p.apply f with
  | error e =>
      rw [apply, sound] at applied
      dsimp only at applied
      split at applied <;> cases applied
  | ok out =>
      obtain ⟨-, ⟨bare, -⟩ | ⟨-, rfl⟩⟩ := apply_eq_ok applied
      · exact absurd bare wide
      · exact congrArg Except.ok (f.withColumn_congr (p.statusColumnOf_prepared f) _)

/-- A plan that can be applied to a table without columns has no clause. -/
theorem clauses_eq_nil (sound : p.fault? f = none) (bare : f.columns = []) : p.clauses = [] := by
  rw [List.eq_nil_iff_forall_not_mem]
  intro x mem
  unfold fault? at sound
  split at sound
  · cases sound
  · rename_i none_faulty
    have in_order := List.findSome?_eq_none_iff.1 none_faulty x mem
    simp [clauseFault?, Frame.column?, bare] at in_order

/-- A plan without clauses makes its choice once. -/
theorem readsColumn_choice (none : p.clauses = []) : p.choice.readsColumn = false := by
  have empty : ∀ r ∈ p.rules, r.clauses = [] := by
    simpa [clauses, List.flatMap_eq_nil_iff] using none
  unfold choice
  rw [List.foldl_reverse]
  generalize p.rules = rules at empty
  induction rules with
  | nil => rfl
  | cons r rest ih =>
      rw [List.foldr_cons, Choice.readsColumn, empty r (List.mem_cons_self ..),
        ih fun r mem => empty r (List.mem_cons_of_mem _ mem)]
      rfl

/-- On a table without columns the one label makes a table of one row. -/
theorem apply_of_no_columns (sound : p.fault? f = none) (bare : f.columns = []) :
    p.apply f = .ok (.ofColumn (p.statusOf [p.choice.eval f 0])) := by
  have once : p.choice.labels (p.prepared f) = [p.choice.eval f 0] := by
    simp [Choice.labels, readsColumn_choice (clauses_eq_nil sound bare), eval_choice_prepared]
  simp [apply, sound, bare, once]

/-- Applying a plan to a table that has its label column already changes nothing. -/
theorem apply_of_placed (sound : p.fault? f = none)
    (placed : ∃ before after, f.columns = before ++ p.statusColumnOf f :: after) :
    p.apply f = .ok f := by
  obtain ⟨before, after, placed⟩ := placed
  have wide : f.columns ≠ [] := by simp [placed]
  rw [apply_of_columns sound wide]
  refine congrArg Except.ok (Frame.eq_of_columns rfl ?_)
  have distinct := f.distinct
  simp only [Frame.withColumn]
  rw [placed] at distinct ⊢
  exact Frame.place_of_mem distinct rfl

/-- A plan without clauses cannot tell any two tables apart. -/
theorem Agree.ofColumn (unread : p.clauses = []) (column : Column) :
    p.Agree f (.ofColumn column) := by
  intro x mem
  rw [unread] at mem
  cases mem

/-- The table of a single label is labelled with it again. -/
theorem apply_ofColumn (sound : p.fault? f = none) (bare : f.columns = []) :
    p.apply (.ofColumn (p.statusOf [p.choice.eval f 0])) =
      .ok (.ofColumn (p.statusOf [p.choice.eval f 0])) := by
  have agree : p.Agree f (.ofColumn (p.statusOf [p.choice.eval f 0])) :=
    .ofColumn (clauses_eq_nil sound bare) _
  have again : p.statusColumnOf (.ofColumn (p.statusOf [p.choice.eval f 0])) =
      p.statusOf [p.choice.eval f 0] := by
    have one : (Frame.ofColumn (p.statusOf [p.choice.eval f 0])).rows = 1 := rfl
    rw [statusColumnOf, one, List.range_one, List.map_singleton, eval_choice_congr agree]
  refine apply_of_placed ((fault?_congr agree).trans sound) ⟨[], [], ?_⟩
  rw [again]
  rfl

/-- A table with the labels of a plan that does not read them is labelled with them again. -/
theorem apply_withColumn (sound : p.fault? f = none)
    (unread : ∀ x ∈ p.clauses, x.2.column ≠ p.statusColumn ∧ x.2.column ≠ "*") :
    p.apply (f.withColumn (p.statusColumnOf f) (p.length_statusColumnOf f)) =
      .ok (f.withColumn (p.statusColumnOf f) (p.length_statusColumnOf f)) := by
  have agree : p.Agree f (f.withColumn (p.statusColumnOf f) (p.length_statusColumnOf f)) :=
    fun x mem => ⟨f.column?_withColumn_of_ne _ (unread x mem).1,
      Frame.selected_of_ne_star (unread x mem).2⟩
  have again := statusColumnOf_congr agree rfl
  refine apply_of_placed ((fault?_congr agree).trans sound) ?_
  rw [again]
  exact (Frame.splices_place (p.statusColumnOf f) f.distinct).placed

/-- **Frame of labelling.** What applying a plan gives has the columns of the table with the label
column spliced in: in the place of the column of its name, or behind all others. All labels are in
the vocabulary of the plan. The rows stay, unless there was no column to count them in; then there
is one. If no clause names the label column, or the column `*`, applying the plan again changes
nothing. -/
theorem apply_frame {p : Plan} {f out : Frame} (h : p.apply f = .ok out) :
    (f.columns ≠ [] → out.rows = f.rows) ∧ (f.columns = [] → out.rows = 1) ∧
      (∃ column, p.Labelled column ∧ Frame.Splices column f.columns out.columns) ∧
      ((∀ x ∈ p.clauses, x.2.column ≠ p.statusColumn ∧ x.2.column ≠ "*") →
        p.apply out = .ok out) := by
  obtain ⟨sound, -⟩ := apply_eq_ok h
  by_cases bare : f.columns = []
  · cases h.symm.trans (apply_of_no_columns sound bare)
    refine ⟨fun wide => absurd bare wide, fun _ => rfl, ?_, fun _ => apply_ofColumn sound bare⟩
    refine ⟨p.statusOf [p.choice.eval f 0], ⟨rfl, rfl, ?_⟩, bare ▸ .appended [] (by simp)⟩
    intro cell mem
    exact ⟨_, p.choice_mem_vocabulary f 0, by simpa [statusOf] using mem⟩
  · cases h.symm.trans (apply_of_columns sound bare)
    refine ⟨fun _ => rfl, fun e => absurd e bare, ?_, apply_withColumn sound⟩
    exact ⟨_, p.labelled_statusColumnOf f, Frame.splices_place _ f.distinct⟩

end Plan

/-- A plan whose clauses do not name the column of its labels. -/
def reviewPlan : Plan where
  statusColumn := "Status"
  defaultLabel := "Normal"
  rules := [⟨"A", "review", [⟨"note", .eq, .number (.ofNat 1)⟩]⟩,
    ⟨"B", "sell", [⟨"age", .gt, .number (.ofNat 180)⟩]⟩]

/-- A table that has a column of the name of the labels between two others, one of them without
values. -/
def reviewedStock : Frame where
  rows := 2
  columns := [⟨"note", .text, [.missing, .missing]⟩, ⟨"Status", .bool, [.bool true, .missing]⟩,
    ⟨"age", .int .i64, [.int 200, .int 10]⟩]
  aligned := by decide
  distinct := by decide

theorem apply_frame_reviewPlan :
    ∃ out, reviewPlan.apply reviewedStock = .ok out ∧ out.rows = 2 ∧
      (∃ column, reviewPlan.Labelled column ∧
        Frame.Splices column reviewedStock.columns out.columns) ∧
      reviewPlan.apply out = .ok out := by
  have sound : reviewPlan.fault? reviewedStock = none := by decide +kernel
  have applied := Plan.apply_of_columns sound (by decide)
  obtain ⟨rows, -, spliced, again⟩ := Plan.apply_frame applied
  exact ⟨_, applied, rows (by decide), spliced, again (by decide)⟩

/-- A plan without rules. -/
def rulelessPlan : Plan := ⟨"Status", "Normal", []⟩

/-- A plan that names the column `*`. In a table with this column alone that is the column itself;
in the table with its labels there are two. -/
def starredPlan : Plan := ⟨"Status", "Normal", [⟨"A", "sell", [⟨"*", .gt, .number (.ofNat 5)⟩]⟩]⟩

/-- A table without columns has no row, and the labelled one has a row. The labels of a table with
the column `*` alone are another column, and the plan that gave them is refused. -/
theorem unframed_labelling :
    (∃ out, rulelessPlan.apply Frame.empty = .ok out ∧ Frame.empty.rows = 0 ∧ out.rows = 1) ∧
      ∃ out, starredPlan.apply (.ofColumn ⟨"*", .int .i64, [.int 7]⟩) = .ok out ∧
        starredPlan.apply out = .error (.incomparable "*") :=
  ⟨⟨_, rfl, rfl, rfl⟩, _, rfl, rfl⟩

end LabelForge
