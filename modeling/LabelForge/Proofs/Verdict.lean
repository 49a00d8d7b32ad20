import LabelForge.Proofs.Validation

/-!
# LabelForge.Proofs.Verdict

**Every check is made and reported.** An output can be compared with the expectations if the run
succeeded, its output is a table, and every row of it has a label. If one of these fails, the first
one that does is the report. Otherwise the expectations come down to a list of requirements, and the
report names exactly those that are not met, in the order of the list.

Design points:

* Requirements speak of the labels of the rows, one by one, and not of the counts that the checks go
  by.
* What a requirement asks (`Requirement.Met`) and what is reported where it is not met
  (`Requirement.failure`) stand side by side; there is one list of them, which is gone through once.
-/

namespace LabelForge

/-- The trimmed texts of all rows. -/
def Column.assigned (c : Column) : List String :=
  c.cells.map fun cell => Text.trim cell.render

/-! ### Requirements -/

/-- Something that expectations ask of a table whose rows all have labels. -/
inductive Requirement where
  /-- No row is lost or added. -/
  | rowCount
  /-- No column of the input is lost. -/
  | columns
  /-- Some row has the label. -/
  | assigned (label : String)
  /-- Every label is the default label or that of a rule. -/
  | known
  /-- So many rows have the label. -/
  | counted (label : String) (times : Nat)

/-- The requirements of expectations, in the order in which they are reported. -/
def Expectations.requirements (e : Expectations) : List Requirement :=
  [.rowCount, .columns] ++ (e.required.map .assigned ++ ([.known] ++
    (e.counts.getD []).map fun p => .counted p.1 p.2))

namespace Requirement

variable (e : Expectations) (rows : Nat) (f : Frame) (c : Column)

/-- Whether a table with a status column meets a requirement, given the number of rows of the
input. -/
def Met : Requirement → Prop
  | .rowCount => f.rows = rows
  | .columns => ∀ name ∈ e.inputColumns, name ∈ f.names
  | .assigned label => label ∈ c.assigned
  | .known => ∀ label ∈ c.assigned, label = e.defaultLabel ∨ label ∈ e.vocabulary
  | .counted label times => c.assigned.count label = times

instance decidableMet : DecidablePred (Met e rows f c)
  | .rowCount => inferInstanceAs (Decidable (f.rows = rows))
  | .columns => inferInstanceAs (Decidable (∀ name ∈ e.inputColumns, name ∈ f.names))
  | .assigned label => inferInstanceAs (Decidable (label ∈ c.assigned))
  | .known => inferInstanceAs
      (Decidable (∀ label ∈ c.assigned, label = e.defaultLabel ∨ label ∈ e.vocabulary))
  | .counted label times => inferInstanceAs (Decidable (c.assigned.count label = times))

/-- What is reported where a requirement is not met. -/
def failure : Requirement → Failure
  | .rowCount => .rowCountMismatch rows f.rows
  | .columns => .columnsMissing (e.inputColumns.filter (· ∉ f.names))
  | .assigned label => .labelNeverAssigned label
  | .known => .unknownLabels (OrderedSet.ofTexts
      (c.assigned.filter fun label => ¬ (label = e.defaultLabel ∨ label ∈ e.vocabulary)))
  | .counted label times => .labelCountMismatch label times (c.assigned.count label)

/-- What is reported of some requirements. -/
def violations (rs : List Requirement) : List Failure :=
  (rs.filter fun r => ¬ r.Met e rows f c).map (failure e rows f c)

variable {e rows f c}

theorem violations_append (rs rs' : List Requirement) :
    violations e rows f c (rs ++ rs') = violations e rows f c rs ++ violations e rows f c rs' := by
  rw [violations, List.filter_append, List.map_append]
  rfl

/-- Of a single requirement at most one failure is reported. -/
theorem violations_singleton {r : Requirement} {p : Prop} [Decidable p]
    (met : r.Met e rows f c ↔ p) :
    violations e rows f c [r] = if p then [] else [r.failure e rows f c] := by
  by_cases h : p
  · rw [if_pos h, violations, List.filter_cons_of_neg (by simpa using met.mpr h)]
    rfl
  · rw [if_neg h, violations, List.filter_cons_of_pos (by simpa using mt met.mp h)]
    rfl

/-- Of requirements of one kind those that are not met are reported. -/
theorem violations_map {α : Type} (kind : α → Requirement) (xs : List α) :
    violations e rows f c (xs.map kind) =
      (xs.filter fun x => ¬ (kind x).Met e rows f c).map fun x => (kind x).failure e rows f c := by
  rw [violations, List.filter_map, List.map_map]
  rfl

theorem violations_eq_nil {rs : List Requirement} :
    violations e rows f c rs = [] ↔ ∀ r ∈ rs, r.Met e rows f c := by
  simp [violations]

end Requirement

/-! ### Outputs that can be compared -/

namespace Validation

/-- An output that can be compared with expectations: a run that succeeded, the table it left
behind, and its status column, in which no cell is missing or blank. -/
structure Comparable (d : Disk) (run : Execution) (name : String) (f : Frame) (c : Column) :
    Prop where
  ended : run.exitCode = some 0
  inTime : run.timedOut = false
  marked : run.markerSeen = true
  table : ∃ path, run.outputPath = some path ∧ Table.read d path = .ok f
  column : f.column? name = some c
  full : ∀ cell ∈ c.cells, cell ≠ .missing ∧ Text.isBlankText cell.render = false

/-- The first thing that keeps an output from being compared with expectations. -/
inductive Obstacle (d : Disk) (run : Execution) (name : String) : Failure → Prop where
  | failed (failed : run.succeeded = false) : Obstacle d run name .executionNotSuccessful
  | noPath (succeeded : run.succeeded = true) (unnamed : run.outputPath = none) :
    Obstacle d run name (.artifactMissing none)
  | noFile {path : FilePath} (succeeded : run.succeeded = true) (named : run.outputPath = some path)
      (absent : d.isFile path = false) : Obstacle d run name (.artifactMissing (some path))
  | noTable {path : FilePath} {cause : TableError} (succeeded : run.succeeded = true)
      (named : run.outputPath = some path) (there : d.isFile path = true)
      (unreadable : Table.read d path = .error cause) :
    Obstacle d run name (.artifactUnreadable path cause.message)
  | noColumn {path : FilePath} {f : Frame} (succeeded : run.succeeded = true)
      (named : run.outputPath = some path) (table : Table.read d path = .ok f)
      (absent : f.column? name = none) : Obstacle d run name (.statusColumnMissing name)
  | gaps {path : FilePath} {f : Frame} {c : Column} (succeeded : run.succeeded = true)
      (named : run.outputPath = some path) (table : Table.read d path = .ok f)
      (column : f.column? name = some c) (incomplete : 0 < c.missingCount) :
    Obstacle d run name (.statusColumnIncomplete name c.missingCount)

variable {d : Disk} {run : Execution} {e : Expectations} {rows : Nat} {f : Frame} {c : Column}
  {name : String} {failure : Failure}

theorem Obstacle.isHard (h : Obstacle d run name failure) : failure.isHard = true := by
  cases h <;> rfl

theorem succeeded_iff :
    run.succeeded = true ↔
      run.exitCode = some 0 ∧ run.timedOut = false ∧ run.markerSeen = true := by
  simp [Execution.succeeded, and_assoc]

theorem artifact_eq_ok :
    artifact d run.outputPath = .ok f ↔
      ∃ path, run.outputPath = some path ∧ Table.read d path = .ok f := by
  cases named : run.outputPath with
  | none => simp [artifact]
  | some path =>
      simp only [artifact, Option.some.injEq, exists_eq_left']
      cases there : d.isFile path with
      | false => simp [Table.read, there]
      | true => cases Table.read d path <;> simp

theorem missingCount_eq_zero :
    c.missingCount = 0 ↔
      ∀ cell ∈ c.cells, cell ≠ .missing ∧ Text.isBlankText cell.render = false := by
  simp only [Column.missingCount, List.countP_eq_zero, Bool.not_eq_true]
  refine forall₂_congr fun cell mem => ⟨fun filled => ⟨?_, filled⟩, And.right⟩
  rintro rfl
  cases filled

/-- The status column is accepted if it is there and complete. -/
theorem status_eq_ok_iff :
    status f name = .ok c ↔ f.column? name = some c ∧ c.missingCount = 0 := by
  unfold status
  cases f.column? name with
  | none => simp
  | some column =>
      by_cases gaps : column.missingCount > 0
      · simp only [if_pos gaps, Option.some.injEq, reduceCtorEq, false_iff, not_and]
        rintro rfl
        omega
      · simp only [if_neg gaps, Except.ok.injEq, Option.some.injEq]
        refine ⟨fun same => ⟨same, ?_⟩, And.left⟩
        subst same
        omega

/-- The three leading groups of checks pass exactly if the output can be compared. -/
theorem comparable_iff :
    Comparable d run name f c ↔ run.succeeded = true ∧ artifact d run.outputPath = .ok f ∧
      status f name = .ok c := by
  rw [succeeded_iff, artifact_eq_ok, status_eq_ok_iff, missingCount_eq_zero]
  constructor
  · rintro ⟨ended, inTime, marked, table, column, full⟩
    exact ⟨⟨ended, inTime, marked⟩, table, column, full⟩
  · rintro ⟨⟨ended, inTime, marked⟩, table, column, full⟩
    exact ⟨ended, inTime, marked, table, column, full⟩

theorem obstacle_of_artifact (succeeded : run.succeeded = true)
    (h : artifact d run.outputPath = .error failure) : Obstacle d run name failure := by
  cases named : run.outputPath with
  | none =>
      rw [named] at h
      cases h
      exact .noPath succeeded named
  | some path =>
      rw [named] at h
      cases there : d.isFile path with
      | false =>
          simp only [artifact, there, Bool.not_false, if_true, Except.error.injEq] at h
          exact h ▸ .noFile succeeded named there
      | true =>
          cases table : Table.read d path with
          | error cause =>
              simp only [artifact, there, table, Bool.not_true, Bool.false_eq_true, if_false,
                Except.error.injEq] at h
              exact h ▸ .noTable succeeded named there table
          | ok f => simp [artifact, there, table] at h

theorem obstacle_of_status (succeeded : run.succeeded = true)
    (table : artifact d run.outputPath = .ok f) (h : status f name = .error failure) :
    Obstacle d run name failure := by
  obtain ⟨path, named, table⟩ := artifact_eq_ok.mp table
  unfold status at h
  cases column : f.column? name with
  | none =>
      rw [column] at h
      cases h
      exact .noColumn succeeded named table column
  | some c =>
      by_cases incomplete : 0 < c.missingCount
      · simp only [column, gt_iff_lt, if_pos incomplete, Except.error.injEq] at h
        exact h ▸ .gaps succeeded named table column incomplete
      · simp [column, incomplete] at h

/-- An output that cannot be compared meets an obstacle, and that is all that is reported. -/
theorem check_obstacle (h : ¬ ∃ f c, Comparable d run e.statusColumn f c) (rows : Nat) :
    ∃ failure, Obstacle d run e.statusColumn failure ∧
      (check d run e rows).failures = [failure] ∧ (check d run e rows).passed = false := by
  simp only [comparable_iff, not_exists, not_and] at h
  unfold check
  cases succeeded : run.succeeded with
  | false => exact ⟨_, .failed succeeded, rfl, rfl⟩
  | true =>
      simp only [Bool.not_true, Bool.false_eq_true, if_false]
      cases table : artifact d run.outputPath with
      | error failure => exact ⟨failure, obstacle_of_artifact succeeded table, rfl, rfl⟩
      | ok f =>
          cases column : status f e.statusColumn with
          | error failure =>
              simp only [column]
              exact ⟨failure, obstacle_of_status succeeded table column, rfl, rfl⟩
          | ok c => exact absurd column (h f c succeeded table)

/-! ### The last group of checks -/

open Requirement

theorem column?_eq_none_iff (name : String) : f.column? name = none ↔ name ∉ f.names := by
  simp only [Frame.column?, List.find?_eq_none, beq_iff_eq, Frame.names, List.mem_map, not_exists,
    not_and]

/-- What is wrong with rows and columns are the first two requirements. -/
theorem shape_eq_violations :
    shape f rows e.inputColumns = violations e rows f c [.rowCount, .columns] := by
  have missing : (e.inputColumns.filter fun name => (f.column? name).isNone) =
      e.inputColumns.filter (· ∉ f.names) :=
    List.filter_congr fun name _ => by
      rw [Bool.eq_iff_iff, Option.isNone_iff_eq_none, column?_eq_none_iff, decide_eq_true_iff]
  have none_lost : (Requirement.columns).Met e rows f c ↔
      (e.inputColumns.filter (· ∉ f.names)).isEmpty = true := by
    simp [Met]
  have none_added : (Requirement.rowCount).Met e rows f c ↔ (f.rows == rows) = true :=
    beq_iff_eq.symm
  rw [← List.singleton_append, violations_append, violations_singleton none_added,
    violations_singleton none_lost, shape, missing]
  rfl

/-- Where no cell is blank, every row is counted. -/
theorem counts_eq (complete : c.missingCount = 0) : c.counts = Tally.ofLabels c.assigned := by
  have full : ∀ cell ∈ c.cells, (!Text.isBlankText cell.render) = true := by
    intro cell mem
    simp [(missingCount_eq_zero.mp complete cell mem).2]
  rw [Column.counts, Column.labels, List.filter_eq_self.mpr full]
  rfl

theorem allows_iff {label : String} :
    e.allows label = true ↔ label = e.defaultLabel ∨ label ∈ e.vocabulary := by
  simp [Expectations.allows]

/-- What is wrong with the labels are the other requirements. -/
theorem labels_eq_violations (complete : c.missingCount = 0) :
    labels c.counts e = violations e rows f c (e.required.map .assigned ++ ([.known] ++
      (e.counts.getD []).map fun p => .counted p.1 p.2)) := by
  have counts := counts_eq complete
  have times (label : String) : c.counts.get label = c.assigned.count label := by
    rw [counts, Tally.get_ofLabels]
  have unassigned : (e.required.filter fun label => !c.counts.has label) =
      e.required.filter fun label => ¬ (Requirement.assigned label).Met e rows f c :=
    List.filter_congr fun label _ => by
      rw [Bool.eq_iff_iff, decide_eq_true_iff, Bool.not_eq_true', ← Bool.not_eq_true, counts,
        Tally.has_iff_mem, Tally.mem_labels_ofLabels]
      rfl
  -- both sides are sorted, so it is enough that they have the same labels
  have unknown : (c.counts.labels.filter fun label => !e.allows label) = OrderedSet.ofTexts
      (c.assigned.filter fun label => ¬ (label = e.defaultLabel ∨ label ∈ e.vocabulary)) := by
    refine OrderedSet.Sorted.ext ?_ (OrderedSet.sorted_ofTexts _) fun label => ?_
    · rw [counts]
      exact (Tally.sorted_ofLabels _).filter _
    · rw [OrderedSet.mem_ofTexts, List.mem_filter, List.mem_filter, counts,
        Tally.mem_labels_ofLabels, decide_eq_true_iff, Bool.not_eq_true', ← Bool.not_eq_true,
        allows_iff]
  have none_unknown : (Requirement.known).Met e rows f c ↔ (OrderedSet.ofTexts
      (c.assigned.filter fun label => ¬ (label = e.defaultLabel ∨ label ∈ e.vocabulary))).isEmpty =
        true := by
    simp only [List.isEmpty_iff, List.eq_nil_iff_forall_not_mem, OrderedSet.mem_ofTexts,
      List.mem_filter, decide_eq_true_iff, not_and, Decidable.not_not, Met]
  have miscounted : ((e.counts.getD []).filter fun p => c.counts.get p.1 != p.2) =
      (e.counts.getD []).filter fun p => ¬ (Requirement.counted p.1 p.2).Met e rows f c :=
    List.filter_congr fun p _ => by
      rw [Bool.eq_iff_iff, decide_eq_true_iff, bne_iff_ne, times]
      rfl
  rw [labels, unassigned, unknown, miscounted, violations_append, violations_append,
    violations_map, violations_map, violations_singleton none_unknown, List.append_assoc]
  simp only [times]
  rfl

/-- An output that can be compared is checked for every requirement. -/
theorem check_comparable (h : Comparable d run e.statusColumn f c) (rows : Nat) :
    check d run e rows =
      let failures := violations e rows f c e.requirements
      { passed := failures.isEmpty, failures, rowCount := some f.rows,
        distribution := c.counts } := by
  obtain ⟨succeeded, table, column⟩ := comparable_iff.mp h
  have complete := (status_eq_ok_iff.mp column).2
  have all : shape f rows e.inputColumns ++ labels c.counts e =
      violations e rows f c e.requirements := by
    rw [Expectations.requirements, violations_append, ← shape_eq_violations,
      ← labels_eq_violations complete]
  simp only [check, succeeded, table, column, all, Bool.not_true, Bool.false_eq_true, if_false]

/-- **Every check is made and reported.** A report passes exactly if the output can be compared with
the expectations and meets all their requirements. An output that cannot be compared is reported
with one failure, a hard one: the first obstacle. Of an output that can be compared exactly the
requirements that it does not meet are reported, in their order. -/
theorem check_exact (d : Disk) (run : Execution) (e : Expectations) (rows : Nat) :
    ((check d run e rows).passed = true ↔ ∃ f c, Comparable d run e.statusColumn f c ∧
      ∀ r ∈ e.requirements, r.Met e rows f c) ∧
    ((¬ ∃ f c, Comparable d run e.statusColumn f c) →
      ∃ failure, Obstacle d run e.statusColumn failure ∧ failure.isHard = true ∧
        (check d run e rows).failures = [failure]) ∧
    ∀ f c, Comparable d run e.statusColumn f c →
      (check d run e rows).failures = violations e rows f c e.requirements := by
  refine ⟨⟨fun passed => ?_, ?_⟩, fun incomparable => ?_, fun f c comparable => ?_⟩
  · by_cases comparable : ∃ f c, Comparable d run e.statusColumn f c
    · obtain ⟨f, c, comparable⟩ := comparable
      rw [check_comparable comparable] at passed
      exact ⟨f, c, comparable, violations_eq_nil.mp (List.isEmpty_iff.mp passed)⟩
    · obtain ⟨failure, -, -, refused⟩ := check_obstacle comparable rows
      rw [refused] at passed
      cases passed
  · rintro ⟨f, c, comparable, met⟩
    rw [check_comparable comparable]
    exact List.isEmpty_iff.mpr (violations_eq_nil.mpr met)
  · obtain ⟨failure, obstacle, only, -⟩ := check_obstacle incomparable rows
    exact ⟨failure, obstacle, obstacle.isHard, only⟩
  · rw [check_comparable comparable]

end Validation

end LabelForge
