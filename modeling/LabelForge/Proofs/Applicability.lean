import LabelForge.Proofs.Labelling

/-!
# LabelForge.Proofs.Applicability

**When a plan can be applied.** A plan is refused because of its first clause that is faulty by
itself: one on a column that the table does not have, or one whose literal does not fit a column
with values. There are two more reasons, and no clause is at fault in either. On a column without
values one clause settles the type in which the column is compared, and another one asks for a
comparison which that type does not have. Or a clause is on a column whose name is a star, and the
table has other columns, for which the star stands as well when the clause is evaluated.

Design points:

* What is wrong with a clause by itself is a relation (`Clause.Fault`); which clause of a plan is
  the first of a kind is said once (`Plan.First`), for faults and for the clause that settles a
  type.
* The order of the checks is part of the result: as long as a faulty clause is left, it is what is
  reported, also if clauses before it cannot be evaluated.
* What a name that is a pattern would stand for is left open: such names are refused, and of plans
  in which they occur only the faults of single clauses are stated.
-/

namespace LabelForge

/-- Whether a column holds a value. A column of the type without values does not. -/
def Column.Valued (c : Column) : Prop :=
  c.dataType ≠ .null ∧ c.isValueless = false

/-- What is wrong with a clause of a rule by itself. -/
inductive Clause.Fault (f : Frame) (rule : String) (c : Clause) : LabellingError → Prop where
  /-- The table does not have the column. -/
  | unknownColumn (absent : f.column? c.column = none) :
      Fault f rule c (.unknownColumn rule c.column)
  /-- The column holds values of another kind than the literal. -/
  | clauseType {column : Column} (found : f.column? c.column = some column)
      (valued : column.Valued) (misfit : c.value.fits column.dataType = false) :
      Fault f rule c (.clauseType rule c.column column.dataType c.value)

/-- Whether two literals cannot be values of one column: a number and a text. -/
inductive Literal.Apart : Literal → Literal → Prop where
  | numberText (x : Number.Double) (s : String) : Apart (.number x) (.text s)
  | textNumber (s : String) (x : Number.Double) : Apart (.text s) (.number x)

/-- A name is the only one of a table if the column that has it is the only one. -/
theorem Frame.names_eq_singleton_iff {f : Frame} {column : Column} {name : String}
    (found : f.column? name = some column) :
    f.names = [name] ↔ ∀ other ∈ f.columns, other = column := by
  have mem : column ∈ f.columns := List.mem_of_find?_eq_some found
  have named := name_of_column? found
  have distinct := f.distinct
  rw [names]
  generalize f.columns = columns at mem distinct ⊢
  constructor
  · intro single other there
    obtain ⟨c, rfl, -⟩ := List.map_eq_singleton_iff.1 single
    rw [List.mem_singleton.1 there, List.mem_singleton.1 mem]
  · intro only
    match columns with
    | [] => cases mem
    | [c] => rw [only c (List.mem_cons_self ..), List.map_singleton, named]
    | c :: d :: rest =>
        have twice : c = d := (only c (by simp)).trans (only d (by simp)).symm
        simp [twice] at distinct

namespace Plan

variable {p : Plan} {f : Frame}

/-- Whether a clause of a rule is the first of a kind, going through the rules and their clauses in
the order of the plan. -/
def First (p : Plan) (kind : String → Clause → Prop) (rule : String) (c : Clause) : Prop :=
  kind rule c ∧ ∃ before after, p.clauses = before ++ (rule, c) :: after ∧
    ∀ earlier ∈ before, ¬ kind earlier.1 earlier.2

/-- What is wrong with the first faulty clause of a plan. -/
def FirstFault (p : Plan) (f : Frame) (e : LabellingError) : Prop :=
  ∃ rule c, c.Fault f rule e ∧ p.First (fun rule c => ∃ e, c.Fault f rule e) rule c

/-- Whether a plan compares a column without values both with numbers and with texts: the first
literal that does not fit the column settles its type, and another clause does not go with it. -/
structure Mixes (p : Plan) (f : Frame) (column : Column) : Prop where
  found : f.column? column.name = some column
  typed : column.dataType ≠ .null
  valueless : column.isValueless = true
  apart : ∃ rule c other d,
    p.First (fun _ c => c.column = column.name ∧ c.value.fits column.dataType = false) rule c ∧
      (other, d) ∈ p.clauses ∧ d.column = column.name ∧ c.value.Apart d.value

/-- Whether a plan names the column `*` of a table that has other columns too. In an expression the
name stands for all of them. -/
structure Spreads (p : Plan) (f : Frame) (column : Column) : Prop where
  found : f.column? column.name = some column
  star : column.name = "*"
  named : ∃ rule c, (rule, c) ∈ p.clauses ∧ c.column = column.name
  others : ∃ other ∈ f.columns, other ≠ column

/-- Whether no clause of a plan names its column by a pattern. -/
def Patternless (p : Plan) : Prop :=
  ∀ x ∈ p.clauses, isNamePattern x.2.column = false

/-! ### Clauses that are faulty by themselves -/

theorem clauseFault?_eq_some_iff {rule : String} {c : Clause} {e : LabellingError} :
    clauseFault? f rule c = some e ↔ c.Fault f rule e := by
  constructor
  · intro h
    unfold clauseFault? at h
    split at h
    · rename_i absent
      cases h
      exact .unknownColumn absent
    · rename_i column found
      split at h
      · cases h
      · rename_i faulty
        cases h
        simp only [Bool.or_eq_true, beq_iff_eq, not_or, Bool.not_eq_true] at faulty
        exact .clauseType found ⟨faulty.1.1, faulty.2⟩ faulty.1.2
  · rintro (absent | ⟨found, valued, misfit⟩)
    · simp [clauseFault?, absent]
    · simp [clauseFault?, found, valued.1, valued.2, misfit]

theorem clauseFault?_eq_none_iff {rule : String} {c : Clause} :
    clauseFault? f rule c = none ↔ ¬ ∃ e, c.Fault f rule e := by
  simp only [Option.eq_none_iff_forall_ne_some, ne_eq, clauseFault?_eq_some_iff, not_exists]

/-- The search for a fault finds that of the first faulty clause. -/
theorem findSome?_clauseFault?_eq_some_iff {e : LabellingError} :
    (p.clauses.findSome? fun (rule, c) => clauseFault? f rule c) = some e ↔ p.FirstFault f e := by
  rw [List.findSome?_eq_some_iff]
  constructor
  · rintro ⟨before, ⟨rule, c⟩, after, split, faulty, sound⟩
    have fault := clauseFault?_eq_some_iff.1 faulty
    exact ⟨rule, c, fault, ⟨e, fault⟩, before, after, split,
      fun earlier mem => clauseFault?_eq_none_iff.1 (sound earlier mem)⟩
  · rintro ⟨rule, c, fault, -, before, after, split, sound⟩
    exact ⟨before, (rule, c), after, split, clauseFault?_eq_some_iff.2 fault,
      fun earlier mem => clauseFault?_eq_none_iff.2 (sound earlier mem)⟩

theorem findSome?_clauseFault?_eq_none_iff :
    (p.clauses.findSome? fun (rule, c) => clauseFault? f rule c) = none ↔
      ¬ ∃ e, p.FirstFault f e := by
  simp only [Option.eq_none_iff_forall_ne_some, ne_eq, findSome?_clauseFault?_eq_some_iff,
    not_exists]

/-- Where no clause is faulty, every clause is on a column of the table, and its literal fits the
column if there is a value to compare. -/
theorem column?_of_not_firstFault (sound : ¬ ∃ e, p.FirstFault f e) {rule : String} {c : Clause}
    (listed : (rule, c) ∈ p.clauses) :
    ∃ column, f.column? c.column = some column ∧
      (column.Valued → c.value.fits column.dataType = true) := by
  have none_faulty := List.findSome?_eq_none_iff.1 (findSome?_clauseFault?_eq_none_iff.2 sound)
  have in_order := clauseFault?_eq_none_iff.1 (none_faulty (rule, c) listed)
  cases found : f.column? c.column with
  | none => exact absurd ⟨_, .unknownColumn found⟩ in_order
  | some column =>
      refine ⟨column, rfl, fun valued => ?_⟩
      cases fits : c.value.fits column.dataType with
      | true => rfl
      | false => exact absurd ⟨_, .clauseType found valued fits⟩ in_order

/-! ### The type in which a column without values is compared -/

theorem comparedType_of_null {column : Column} {name : String}
    (found : f.column? name = some column) (untyped : column.dataType = .null) :
    p.comparedType f name = .null := by
  simp [comparedType, found, untyped]

/-- The search for a literal that does not fit finds the first such clause on a column. -/
theorem find?_misfit_eq_some_iff {t : DataType} {name rule : String} {c : Clause} :
    (p.clauses.find? fun (_, c) => c.column == name && !c.value.fits t) = some (rule, c) ↔
      p.First (fun _ c => c.column = name ∧ c.value.fits t = false) rule c := by
  simp only [List.find?_eq_some_iff_append, First, Bool.and_eq_true, beq_iff_eq,
    Bool.not_eq_true', Bool.not_eq_false', Bool.and_eq_false_imp]
  grind

/-- The first literal that does not fit a column without values settles its type. -/
theorem comparedType_of_first {column : Column} {name rule : String} {c : Clause}
    (found : f.column? name = some column) (typed : column.dataType ≠ .null)
    (valueless : column.isValueless = true)
    (first : p.First (fun _ c => c.column = name ∧ c.value.fits column.dataType = false) rule c) :
    p.comparedType f name = c.value.dataType := by
  have search := find?_misfit_eq_some_iff.2 first
  simp [comparedType, found, typed, valueless, search]

/-- A column without values keeps its type if all literals fit it. -/
theorem comparedType_of_fits {column : Column} {name : String}
    (found : f.column? name = some column)
    (fits : ∀ x ∈ p.clauses, x.2.column = name → x.2.value.fits column.dataType = true) :
    p.comparedType f name = column.dataType := by
  have search : (p.clauses.find? fun (_, c) =>
      c.column == name && !c.value.fits column.dataType) = none := by
    rw [List.find?_eq_none]
    intro x mem
    simpa using fits x mem
  simp [comparedType, found, search]

theorem clashes_dataType_iff {l v : Literal} : clashes l.dataType v = true ↔ l.Apart v := by
  constructor
  · intro h
    cases l <;> cases v <;> cases h
    case number.text.refl => exact .numberText ..
    case text.number.refl => exact .textNumber ..
  · rintro (⟨x, s⟩ | ⟨s, x⟩) <;> rfl

theorem clashes_of_fits {t : DataType} {v : Literal} (h : v.fits t = true) :
    clashes t v = false := by
  cases v <;> cases t <;> first | rfl | cases h

/-- The clauses that clash are those on a column on which numbers and texts are mixed. -/
theorem mixes_of_clashes (sound : ¬ ∃ e, p.FirstFault f e) {rule : String} {d : Clause}
    (listed : (rule, d) ∈ p.clauses) (clash : clashes (p.comparedType f d.column) d.value = true) :
    ∃ column, p.Mixes f column ∧ column.name = d.column := by
  obtain ⟨column, found, fits⟩ := column?_of_not_firstFault sound listed
  have named := Frame.name_of_column? found
  by_cases typed : column.dataType = .null
  · rw [comparedType_of_null found typed] at clash
    cases value : d.value <;> rw [value] at clash <;> cases clash
  cases valueless : column.isValueless with
  | false =>
      rw [comparedType_of_not_isValueless found valueless,
        clashes_of_fits (fits ⟨typed, valueless⟩)] at clash
      cases clash
  | true =>
      cases search : p.clauses.find? fun (_, c) =>
          c.column == d.column && !c.value.fits column.dataType with
      | none =>
          -- every literal fits, so the column is compared in its own type
          have all : ∀ x ∈ p.clauses, x.2.column = d.column →
              x.2.value.fits column.dataType = true := by
            simpa using List.find?_eq_none.1 search
          rw [comparedType_of_fits found all, clashes_of_fits (all _ listed rfl)] at clash
          cases clash
      | some x =>
          have first := find?_misfit_eq_some_iff.1 search
          rw [comparedType_of_first found typed valueless first] at clash
          rw [← named] at found first
          exact ⟨column, ⟨found, typed, valueless,
            x.1, x.2, rule, d, first, listed, named.symm, clashes_dataType_iff.1 clash⟩, named⟩

/-- A column on which numbers and texts are mixed has a clause that clashes. -/
theorem Mixes.clashes {column : Column} (mixes : p.Mixes f column) :
    ∃ x ∈ p.clauses, clashes (p.comparedType f x.2.column) x.2.value = true := by
  obtain ⟨rule, c, other, d, first, listed, on, apart⟩ := mixes.apart
  refine ⟨(other, d), listed, ?_⟩
  rw [on, comparedType_of_first mixes.found mixes.typed mixes.valueless first]
  exact clashes_dataType_iff.2 apart

/-! ### The columns for which a name stands -/

/-- A name that stands for other columns than the one that has it is a star, if it is no pattern. -/
theorem spreads_of_selected (sound : ¬ ∃ e, p.FirstFault f e) (plain : p.Patternless)
    {rule : String} {d : Clause} (listed : (rule, d) ∈ p.clauses)
    (others : f.selected d.column ≠ [d.column]) :
    ∃ column, p.Spreads f column ∧ column.name = d.column := by
  obtain ⟨column, found, -⟩ := column?_of_not_firstFault sound listed
  have named := Frame.name_of_column? found
  have star : d.column = "*" :=
    Decidable.of_not_not fun other => others (Frame.selected_plain other (plain _ listed))
  have shared : ¬ ∀ other ∈ f.columns, other = column := by
    rw [← Frame.names_eq_singleton_iff found]
    rwa [star, Frame.selected_star, ← star] at others
  obtain ⟨other, different⟩ := Classical.not_forall.1 shared
  refine ⟨column, ⟨?_, named.trans star, ⟨rule, d, listed, named.symm⟩, other, ?_⟩, named⟩
  · rwa [named]
  · exact Classical.not_imp.1 different

/-- The star stands for the other columns too. -/
theorem Spreads.selected {column : Column} (spreads : p.Spreads f column) :
    f.selected column.name ≠ [column.name] := by
  obtain ⟨other, there, different⟩ := spreads.others
  rw [spreads.star, Frame.selected_star, ← spreads.star, ne_eq,
    Frame.names_eq_singleton_iff spreads.found]
  exact fun only => different (only other there)

/-- The clauses that cannot be evaluated are those on a column on which numbers and texts are mixed,
or for which the star stands among others. -/
theorem column_of_not_evaluable (sound : ¬ ∃ e, p.FirstFault f e) (plain : p.Patternless)
    {rule : String} {d : Clause} (listed : (rule, d) ∈ p.clauses)
    (stuck : p.evaluable f d = false) :
    ∃ column, (p.Mixes f column ∨ p.Spreads f column) ∧ column.name = d.column := by
  rw [evaluable, Bool.and_eq_false_iff, Bool.not_eq_false'] at stuck
  rcases stuck with others | clash
  · obtain ⟨column, spreads, named⟩ :=
      spreads_of_selected sound plain listed (beq_eq_false_iff_ne.1 others)
    exact ⟨column, .inr spreads, named⟩
  · obtain ⟨column, mixes, named⟩ := mixes_of_clashes sound listed clash
    exact ⟨column, .inl mixes, named⟩

/-- A column on which numbers and texts are mixed, or for which the star stands among others, has a
clause that cannot be evaluated. -/
theorem exists_not_evaluable {column : Column} (h : p.Mixes f column ∨ p.Spreads f column) :
    ∃ x ∈ p.clauses, p.evaluable f x.2 = false := by
  rcases h with mixes | spreads
  · obtain ⟨x, listed, clash⟩ := mixes.clashes
    exact ⟨x, listed, by rw [evaluable, clash, Bool.not_true, Bool.and_false]⟩
  · obtain ⟨rule, c, listed, on⟩ := spreads.named
    have others := beq_eq_false_iff_ne.2 spreads.selected
    exact ⟨(rule, c), listed, by rw [evaluable, on, others, Bool.false_and]⟩

/-! ### The outcome of applying a plan -/

theorem apply_of_fault {e : LabellingError} (h : p.fault? f = some e) : p.apply f = .error e := by
  rw [apply, h]

theorem apply_of_sound (h : p.fault? f = none) : ∃ out, p.apply f = .ok out := by
  rw [apply, h]
  dsimp only
  split <;> exact ⟨_, rfl⟩

theorem fault?_of_firstFault {e : LabellingError} (h : p.FirstFault f e) : p.fault? f = some e := by
  simp only [fault?, findSome?_clauseFault?_eq_some_iff.2 h]

/-- Where no clause is faulty by itself, a fault is a clause that cannot be evaluated. -/
theorem column_of_fault? (sound : ¬ ∃ e, p.FirstFault f e) (plain : p.Patternless)
    {e : LabellingError} (h : p.fault? f = some e) :
    ∃ column, (p.Mixes f column ∨ p.Spreads f column) ∧ e = .incomparable column.name := by
  simp only [fault?, findSome?_clauseFault?_eq_none_iff.2 sound, Option.map_eq_some_iff] at h
  obtain ⟨⟨rule, d⟩, search, rfl⟩ := h
  have stuck : p.evaluable f d = false := by simpa using List.find?_some search
  obtain ⟨column, reason, named⟩ :=
    column_of_not_evaluable sound plain (List.mem_of_find?_eq_some search) stuck
  exact ⟨column, reason, by rw [named]⟩

/-- A plan with a clause that cannot be evaluated has a fault. -/
theorem fault?_ne_none {column : Column} (h : p.Mixes f column ∨ p.Spreads f column) :
    p.fault? f ≠ none := by
  obtain ⟨x, listed, stuck⟩ := exists_not_evaluable h
  intro none_found
  unfold fault? at none_found
  split at none_found
  · cases none_found
  · rw [Option.map_eq_none_iff, List.find?_eq_none] at none_found
    exact none_found x listed (congrArg not stuck)

/-- No clause holds on a column without values, whatever it is compared with. -/
theorem holdsOn_prepared_of_isValueless {column : Column} {c : Clause}
    (found : f.column? c.column = some column) (valueless : column.isValueless = true)
    (row : Nat) : c.holdsOn (p.prepared f) row = false := by
  rw [holdsOn_prepared, Clause.holdsOn, Frame.cell_of_isValueless found valueless,
    Clause.holds_missing]

/-- **Outcome of applying a plan.** If some clause is faulty by itself, applying fails with the
fault of the first such clause. In every other case it succeeds, unless the plan mixes numbers and
texts on a column without values or names the column `*` among others; then it fails and names such
a column. This is stated for plans without patterns. On a column without values every clause is
false in every row. -/
theorem apply_outcome (p : Plan) (f : Frame) :
    (∀ e, p.FirstFault f e → p.apply f = .error e) ∧
      (p.Patternless →
        ((∃ out, p.apply f = .ok out) ↔
          (¬ ∃ e, p.FirstFault f e) ∧ ¬ ∃ column, p.Mixes f column ∨ p.Spreads f column) ∧
        ∀ e, p.apply f = .error e →
          p.FirstFault f e ∨
            (¬ ∃ e, p.FirstFault f e) ∧
              ∃ column, (p.Mixes f column ∨ p.Spreads f column) ∧
                e = .incomparable column.name) ∧
      ∀ (c : Clause) (column : Column), f.column? c.column = some column →
        column.isValueless = true → ∀ row, c.holdsOn (p.prepared f) row = false := by
  have refused {e : LabellingError} (h : p.FirstFault f e) : p.apply f = .error e :=
    apply_of_fault (fault?_of_firstFault h)
  refine ⟨fun e => refused, fun plain => ⟨⟨?_, ?_⟩, ?_⟩,
    fun c column found valueless => holdsOn_prepared_of_isValueless found valueless⟩
  · rintro ⟨out, h⟩
    obtain ⟨accepted, -⟩ := apply_eq_ok h
    refine ⟨?_, fun ⟨column, reason⟩ => fault?_ne_none reason accepted⟩
    rintro ⟨e, first⟩
    exact absurd (h.symm.trans (refused first)) (by simp)
  · rintro ⟨sound, evaluable⟩
    cases h : p.fault? f with
    | none => exact apply_of_sound h
    | some e =>
        obtain ⟨column, reason, -⟩ := column_of_fault? sound plain h
        exact absurd ⟨column, reason⟩ evaluable
  · intro e failed
    cases h : p.fault? f with
    | none =>
        obtain ⟨out, succeeded⟩ := apply_of_sound h
        exact absurd (failed.symm.trans succeeded) (by simp)
    | some found =>
        cases (apply_of_fault h).symm.trans failed
        by_cases sound : ∃ e, p.FirstFault f e
        · obtain ⟨first, fault⟩ := sound
          cases (fault?_of_firstFault fault).symm.trans h
          exact .inl fault
        · exact .inr ⟨sound, column_of_fault? sound plain h⟩

end Plan

/-- Two rules, one of which asks for a text and the other for a number in the same column. -/
def mixedPlan : Plan where
  statusColumn := "Status"
  defaultLabel := "Normal"
  rules := [⟨"B", "txt", [⟨"x", .eq, .text "q"⟩]⟩,
    ⟨"A", "num", [⟨"x", .gt, .number (.ofNat 1)⟩]⟩]

/-- A table in which the column that both rules ask about has not been filled. -/
def unfilledStock : Frame where
  rows := 3
  columns := [⟨"k", .int .i64, [.int 1, .int 2, .int 3]⟩,
    ⟨"x", .text, [.missing, .missing, .missing]⟩]
  aligned := by decide
  distinct := by decide

/-- Every clause is in order by itself, and the plan is refused all the same. -/
theorem refused_mixedPlan :
    (∀ rule c, (rule, c) ∈ mixedPlan.clauses → ¬ ∃ e, c.Fault unfilledStock rule e) ∧
      mixedPlan.apply unfilledStock = .error (.incomparable "x") := by
  constructor
  · intro rule c listed
    rw [← Plan.clauseFault?_eq_none_iff]
    have found : unfilledStock.column? c.column =
        some ⟨"x", .text, [.missing, .missing, .missing]⟩ := by
      simp only [Plan.clauses, mixedPlan, List.flatMap_cons, List.flatMap_nil, List.map_cons,
        List.map_nil, List.append_nil, List.mem_append, List.mem_singleton, Prod.mk.injEq] at listed
      rcases listed with ⟨-, rfl⟩ | ⟨-, rfl⟩ <;> rfl
    simp [Plan.clauseFault?, found, Column.isValueless, Cell.isMissing]
  · exact Plan.apply_of_fault (by decide +kernel)

/-- The refusal is one that the outcome allows: the column is compared with numbers and with texts,
or its name stands for others too. -/
theorem apply_outcome_mixedPlan : mixedPlan.Patternless ∧
    ∃ column, mixedPlan.Mixes unfilledStock column ∨ mixedPlan.Spreads unfilledStock column := by
  have plain : mixedPlan.Patternless := by
    unfold Plan.Patternless
    decide
  have failed : mixedPlan.apply unfilledStock = .error (.incomparable "x") :=
    Plan.apply_of_fault (by decide +kernel)
  obtain ⟨-, outcome, -⟩ := Plan.apply_outcome mixedPlan unfilledStock
  rcases (outcome plain).2 _ failed with ⟨rule, c, fault, -⟩ | ⟨-, column, reason, -⟩
  · cases fault
  · exact ⟨plain, column, reason⟩

end LabelForge
