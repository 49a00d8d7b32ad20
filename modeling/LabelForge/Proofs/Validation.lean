import LabelForge.Proofs.Tally
import LabelForge.Validation

/-!
# LabelForge.Proofs.Validation

**What a passed report guarantees.** The output has as many rows as the table had, its labels add
up to them, every label is one that may occur, and every label that must occur does.
-/

namespace LabelForge

namespace Column

variable {c : Column}

/-- Where no cell is blank there is a label for every cell. -/
theorem length_labels (complete : c.missingCount = 0) : c.labels.length = c.cells.length := by
  have full : ∀ cell ∈ c.cells, (!Text.isBlankText cell.render) = true := by
    intro cell mem
    have none := List.countP_eq_zero.mp complete cell mem
    simpa using none
  rw [labels, List.length_map, List.filter_eq_self.mpr full]

/-- The labels of a complete column add up to its cells. -/
theorem total_counts (complete : c.missingCount = 0) : c.counts.total = c.cells.length := by
  rw [counts, Tally.total_ofLabels, length_labels complete]

end Column

namespace Validation

variable {d : Disk} {run : Execution} {e : Expectations} {rows : Nat} {f : Frame} {c : Column}
  {name : String}

theorem status_eq_ok (h : status f name = .ok c) : c ∈ f.columns ∧ c.missingCount = 0 := by
  unfold status at h
  split at h
  · cases h
  · rename_i column found
    dsimp only at h
    split at h
    · cases h
    · cases h
      exact ⟨List.mem_of_find?_eq_some found, by omega⟩

theorem rows_of_shape {columns : List String} (h : shape f rows columns = []) : f.rows = rows := by
  have count := (List.append_eq_nil_iff.mp h).1
  split at count
  · rename_i same
    exact eq_of_beq same
  · cases count

/-- What no failure among the labels means. -/
theorem labels_eq_nil {t : Tally} (h : labels t e = []) :
    (∀ label ∈ t.labels, e.allows label = true) ∧ ∀ label ∈ e.required, t.has label = true := by
  obtain ⟨front, -⟩ := List.append_eq_nil_iff.mp h
  obtain ⟨unassigned, unknown⟩ := List.append_eq_nil_iff.mp front
  constructor
  · intro label mem
    split at unknown
    · rename_i empty
      have none := List.filter_eq_nil_iff.mp (List.isEmpty_iff.mp empty) label mem
      simpa using none
    · cases unknown
  · intro label mem
    have none := List.filter_eq_nil_iff.mp (List.map_eq_nil_iff.mp unassigned) label mem
    simpa using none

/-- A report passes only after the last group of checks, and with no failure in it. -/
theorem passed_check (h : (check d run e rows).passed = true) :
    ∃ f c, artifact d run.outputPath = .ok f ∧ status f e.statusColumn = .ok c ∧
      shape f rows e.inputColumns = [] ∧ labels c.counts e = [] ∧
      (check d run e rows).rowCount = some f.rows ∧
      (check d run e rows).distribution = c.counts := by
  unfold check at h ⊢
  split at h
  · cases h
  · rename_i succeeded
    split at h
    · cases h
    · rename_i f found
      split at h
      · cases h
      · rename_i c complete
        obtain ⟨shaped, labelled⟩ := List.append_eq_nil_iff.mp (List.isEmpty_iff.mp h)
        refine ⟨f, c, found, complete, shaped, labelled, ?_⟩
        simp only [if_neg succeeded, and_self]

/-- Only a run that has named its output passes. -/
theorem outputPath_of_passed (h : (check d run e rows).passed = true) :
    ∃ path, run.outputPath = some path := by
  obtain ⟨f, -, found, -⟩ := passed_check h
  cases named : run.outputPath with
  | none =>
      rw [named] at found
      cases found
  | some path => exact ⟨path, rfl⟩

/-- What a report that passed says about the output. -/
structure Accepted (e : Expectations) (rows : Nat) (r : Report) : Prop where
  rowCount : r.rowCount = some rows
  /-- The labels that were counted are those of all rows. -/
  total : r.distribution.total = rows
  allowed : ∀ label ∈ r.distribution.labels, e.allows label = true
  required : ∀ label ∈ e.required, label ∈ r.distribution.labels

theorem accepted_of_passed (h : (check d run e rows).passed = true) :
    Accepted e rows (check d run e rows) := by
  obtain ⟨f, c, -, complete, shaped, labelled, rowCount, distribution⟩ := passed_check h
  obtain ⟨mem, full⟩ := status_eq_ok complete
  obtain ⟨allowed, required⟩ := labels_eq_nil labelled
  have same := rows_of_shape shaped
  constructor
  · rw [rowCount, same]
  · rw [distribution, Column.total_counts full, f.aligned c mem, same]
  · rw [distribution]
    exact allowed
  · intro label mem
    rw [distribution]
    exact Tally.has_iff_mem.mp (required label mem)

end Validation

end LabelForge
