import LabelForge.Attempt.Rerun
import LabelForge.Proofs.Distribution

/-!
# LabelForge.Proofs.Compile.Rerun

**A rerun that succeeds accounts for every row.** A verified program is run if its text is the one
that was verified, and its outcome counts if its output passes. Then every row has a label, and it
is a violation exactly if that is not the default label: what is no violation is counted with the
default label, and the two make up the rows of the input.
-/

namespace LabelForge

/-! ### Counting the other labels -/

namespace Tally

variable {t : Tally}

/-- The count of a label and those of the others make up the sum. -/
theorem Sorted.others_add_get (h : t.Sorted) (label : String) :
    t.others label + t.get label = t.total := by
  induction t with
  | nil => rfl
  | cons p t ih =>
      obtain ⟨least, rest⟩ := List.pairwise_cons.mp h
      have others := ih rest
      rw [Tally.others] at others ⊢
      rw [List.filter_cons, get_cons, total_cons]
      by_cases same : label = p.1
      · -- the label stands in front of all others, so it does not occur again
        have absent : label ∉ labels t := fun mem => ne_of_compare_lt (least label mem) same.symm
        rw [get_eq_zero absent] at others
        simp only [same, bne_self_eq_false, Bool.false_eq_true, if_false, if_true] at others ⊢
        omega
      · have other : (p.1 != label) = true := bne_iff_ne.mpr (Ne.symm same)
        rw [if_pos other, if_neg same, total_cons]
        omega

/-- The labels that are counted with the others are those that are different. -/
theorem others_ofLabels (ls : List String) (label : String) :
    (ofLabels ls).others label = ls.countP (· ≠ label) := by
  have sum := (sorted_ofLabels ls).others_add_get label
  have parts := ls.length_eq_countP_add_countP (· == label)
  have others : ls.countP (fun l => ¬ (l == label) = true) = ls.countP (· ≠ label) := by
    simp only [beq_iff_eq, ne_eq]
  rw [get_ofLabels, total_ofLabels, List.count] at sum
  omega

end Tally

namespace Compile

variable {σ : Type} {agents : Agents σ} {w after : World σ} {artifact : Artifact} {input : FilePath}
  {fingerprint : Fingerprint} {e : Expectations} {rows : Nat} {disk : Disk} {run : Execution}
  {outcome : RunOutcome}

/-! ### What became of the run -/

theorem conclude_eq_ok (concluded : conclude fingerprint e rows disk run = .ok outcome) :
    outcome.run = run ∧ (Validation.check disk run e rows).passed = true ∧
      outcome.report = Validation.check disk run e rows ∧
      run.outputPath = some outcome.output ∧
      outcome.violations = outcome.report.distribution.others e.defaultLabel := by
  unfold conclude at concluded
  split at concluded
  · cases concluded
  · simp only at concluded
    split at concluded
    · cases concluded
    · rename_i passed
      split at concluded
      · cases concluded
      · rename_i named
        cases concluded
        exact ⟨rfl, by simpa using passed, rfl, named, rfl⟩

/-- A stored program that is run again passes again, or it is not handed over. -/
theorem rerun_eq_ok (ran : rerun agents artifact input e rows w = (.ok outcome, after)) :
    artifact.isIntact = true ∧
      agents.execute ⟨artifact.manifest.attempt, artifact.manifest.language, artifact.source, none⟩
        input w.agents w.disk = (.ok outcome.run, after.agents, after.disk) ∧
      (Validation.check after.disk outcome.run e rows).passed = true ∧
      outcome.report = Validation.check after.disk outcome.run e rows ∧
      outcome.run.outputPath = some outcome.output ∧
      outcome.violations = outcome.report.distribution.others e.defaultLabel := by
  unfold rerun at ran
  simp only at ran
  split at ran
  · cases ran
  · rename_i intact
    split at ran
    · cases ran
    · rename_i executed
      obtain ⟨concluded, rfl⟩ := Prod.mk.inj ran
      obtain ⟨rfl, passed, report, output, violations⟩ := conclude_eq_ok concluded
      exact ⟨by simpa using intact, executed, passed, report, output, violations⟩

/-! ### The rows of the output -/

/-- What an outcome says about the table that the program left behind. -/
structure Accounted (e : Expectations) (rows : Nat) (outcome : RunOutcome) (f : Frame)
    (c : Column) : Prop where
  column : f.column? e.statusColumn = some c
  assigned : c.assigned.length = f.rows
  /-- The rows whose label is not the default label are the violations. -/
  violations : outcome.violations = c.assigned.countP (· ≠ e.defaultLabel)
  /-- The other rows are counted with the default label. -/
  balance : outcome.violations + outcome.report.distribution.get e.defaultLabel = f.rows
  rowCount : outcome.report.rowCount = some f.rows
  /-- No row is lost or added. -/
  rows : f.rows = rows
  allowed : ∀ label ∈ outcome.report.distribution.labels, e.allows label = true

/-- **Violations account for every row.** A rerun that succeeds has run the text that was verified,
and its violations are the rows of the output whose label is not the default label. -/
theorem rerun_accounts (ran : rerun agents artifact input e rows w = (.ok outcome, after)) :
    artifact.isIntact = true ∧
      agents.execute ⟨artifact.manifest.attempt, artifact.manifest.language, artifact.source, none⟩
        input w.agents w.disk = (.ok outcome.run, after.agents, after.disk) ∧
      outcome.run.outputPath = some outcome.output ∧
      ∃ f c, Table.read after.disk outcome.output = .ok f ∧ Accounted e rows outcome f c := by
  obtain ⟨intact, executed, passed, report, named, violations⟩ := rerun_eq_ok ran
  obtain ⟨f, c, counted⟩ := Validation.counted_of_passed passed
  rw [← report] at counted
  obtain ⟨path, path_named, read⟩ := counted.table
  cases named.symm.trans path_named
  refine ⟨intact, executed, named, f, c, read, {
    column := counted.column
    assigned := counted.assigned
    violations := by rw [violations, counted.distribution, Tally.others_ofLabels]
    balance := ?_
    rowCount := counted.rowCount
    rows := counted.rows
    allowed := fun label mem => ?_ }⟩
  · rw [violations, counted.distribution, (Tally.sorted_ofLabels _).others_add_get,
      Tally.total_ofLabels, counted.assigned]
  · rw [counted.distribution, Tally.mem_labels_ofLabels] at mem
    exact counted.allowed label mem

/-- Agents whose program leaves a table with three rows. -/
def counting : Agents Unit where
  language := .python
  write _ _ := (.error .emptyProgram, ())
  execute _ _ _ _ := (.ok Validation.countedRun, (), Validation.countedDisk)
  stamp _ := ⟨⟨0, 0⟩, "1"⟩

/-- An artifact with the digest of its text. -/
def countedArtifact : Artifact where
  manifest := {
    fingerprint := ⟨Sha256.hexOfText "pass", Sha256.isHex_hex _⟩
    language := .python
    attempt := 1
    sourceDigest := Sha256.hexOfText "pass"
    promotedAt := ⟨0, 0⟩
    ruleCount := 2
    rowCount := 3
    distribution := [("drop", 1), ("keep", 2)] }
  source := "pass"

/-- The outcome of running it: of three rows one is a violation. -/
def countedOutcome : RunOutcome where
  run := Validation.countedRun
  report := Validation.countedReport
  output := ⟨"out.csv"⟩
  violations := 1

theorem rerun_counted :
    rerun counting countedArtifact ⟨"in.csv"⟩ Validation.countedExpectations 3
      ⟨(), Validation.countedDisk⟩ = (.ok countedOutcome, ⟨(), Validation.countedDisk⟩) := by
  have intact : countedArtifact.isIntact = true := beq_self_eq_true _
  simp only [rerun, intact, counting, conclude, Validation.check_counted]
  rfl

theorem rerun_accounts_counted :
    rerun counting countedArtifact ⟨"in.csv"⟩ Validation.countedExpectations 3
        ⟨(), Validation.countedDisk⟩ = (.ok countedOutcome, ⟨(), Validation.countedDisk⟩) ∧
      ∃ f c, Table.read Validation.countedDisk ⟨"out.csv"⟩ = .ok f ∧
        Accounted Validation.countedExpectations 3 countedOutcome f c := by
  obtain ⟨-, -, -, accounted⟩ := rerun_accounts rerun_counted
  exact ⟨rerun_counted, accounted⟩

end Compile

end LabelForge
