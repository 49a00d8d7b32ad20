import LabelForge.Proofs.Disk
import LabelForge.Proofs.Verdict

/-!
# LabelForge.Proofs.Distribution

**What the counts of an output that passed say about its rows.** Every row has a label, so the
counts are those of all rows and add up to the rows of the input. Expected counts that add up to
them as well leave no row over for a label that is not expected, although only the expected labels
are looked at.
-/

namespace LabelForge.Validation

variable {d : Disk} {run : Execution} {e : Expectations} {rows : Nat}

/-- What a report that passed was made of: the table that the run left behind, and its status
column, in which every row has a label. -/
structure Counted (d : Disk) (run : Execution) (e : Expectations) (rows : Nat) (r : Report)
    (f : Frame) (c : Column) : Prop where
  table : ∃ path, run.outputPath = some path ∧ Table.read d path = .ok f
  column : f.column? e.statusColumn = some c
  assigned : c.assigned.length = f.rows
  /-- No row is lost or added. -/
  rows : f.rows = rows
  rowCount : r.rowCount = some f.rows
  distribution : r.distribution = .ofLabels c.assigned
  allowed : ∀ label ∈ c.assigned, e.allows label = true
  /-- The expected labels occur as often as expected. -/
  met : ∀ p ∈ e.counts.getD [], c.assigned.count p.1 = p.2

/-- Every report that passed was made of a table and its status column. -/
theorem counted_of_passed (passed : (check d run e rows).passed = true) :
    ∃ f c, Counted d run e rows (check d run e rows) f c := by
  obtain ⟨f, c, found, complete, shaped, labelled, rowCount, distribution⟩ := passed_check passed
  obtain ⟨column, full⟩ := status_eq_ok_iff.mp complete
  have required : labels c.counts e = Requirement.violations e rows f c _ :=
    labels_eq_violations full
  rw [required, Requirement.violations_eq_nil] at labelled
  refine ⟨f, c, {
    table := artifact_eq_ok.mp found
    column
    assigned := ?_
    rows := rows_of_shape shaped
    rowCount
    distribution := distribution.trans (counts_eq full)
    allowed := fun label mem => allows_iff.mpr (labelled .known (by simp) label mem)
    met := fun p mem => labelled (.counted p.1 p.2) (by simpa using mem) }⟩
  rw [Column.assigned, List.length_map, f.aligned c (List.mem_of_find?_eq_some column)]

/-- **Expected counts that add up to the rows pin the distribution.** An output that passes has the
expected labels, each as often as expected, and no other label. Counts are a sorted tally, that is,
they name each label once. -/
theorem distribution_of_counts {expected : Tally} (given : e.counts = some expected)
    (sorted : expected.Sorted) (sum : expected.total = rows)
    (passed : (check d run e rows).passed = true) :
    (check d run e rows).distribution = expected.filter fun p => 0 < p.2 := by
  obtain ⟨f, c, counted⟩ := counted_of_passed passed
  rw [counted.distribution]
  refine (Tally.sorted_ofLabels _).eq_positive sorted (fun _ => Tally.pos_of_mem_ofLabels) ?_ ?_
  · intro p mem
    rw [Tally.get_ofLabels]
    exact counted.met p (by rwa [given, Option.getD_some])
  · rw [sum, Tally.total_ofLabels, counted.assigned, counted.rows]

/-- A table with three labelled rows in `out.csv`. -/
def countedDisk : Disk where
  files := .directory (.entry "out.csv" (.file (Text.bytesOf "Status\nkeep\ndrop\n keep\n")) .none)

/-- A run that left it there. -/
def countedRun : Execution := ⟨some 0, "", "", .ofMillis 1, false, true, some ⟨"out.csv"⟩⟩

/-- Counts for three rows, one of them a zero. -/
def countedLabels : Tally := .ofPairs [("keep", 2), ("spare", 0), ("drop", 1)]

/-- Expectations with those counts. -/
def countedExpectations : Expectations where
  statusColumn := "Status"
  defaultLabel := "keep"
  inputColumns := []
  vocabulary := ["drop", "spare"]
  counts := some countedLabels

/-- The report on that output. -/
def countedReport : Report where
  passed := true
  rowCount := some 3
  distribution := [("drop", 1), ("keep", 2)]

theorem check_counted : check countedDisk countedRun countedExpectations 3 = countedReport := by
  have located : countedDisk.locate ⟨"out.csv"⟩ = .ok ["out.csv"] := by
    rw [Disk.walks_out.locate]
    rfl
  simp only [check, artifact, countedRun, Disk.isFile, Table.read, Disk.read, located]
  decide +kernel

/-- Of three rows one is expected with one label and two with another one. -/
theorem distribution_of_three_counts :
    countedLabels.Sorted ∧ countedLabels.total = 3 ∧
      (check countedDisk countedRun countedExpectations 3).passed = true ∧
      (check countedDisk countedRun countedExpectations 3).distribution =
        [("drop", 1), ("keep", 2)] := by
  have sorted : countedLabels.Sorted := Tally.sorted_ofPairs _
  have sum : countedLabels.total = 3 := by decide
  have passed : (check countedDisk countedRun countedExpectations 3).passed = true := by
    rw [check_counted]
    rfl
  exact ⟨sorted, sum, passed, distribution_of_counts rfl sorted sum passed⟩

end LabelForge.Validation
