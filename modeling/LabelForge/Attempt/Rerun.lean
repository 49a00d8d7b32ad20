import LabelForge.Attempt.Compile

/-!
# LabelForge.Attempt.Rerun

**Running a verified program on other data.** Nothing is written anew: the stored program is run
once, and its output has to pass the checks.

Design points:

* A program whose text is not the one that was verified is not run at all.
* A row *violates* the rules if its label is not the default.
-/

namespace LabelForge

/-- The result of running a verified program. -/
structure RunOutcome where
  run : Execution
  report : Report
  /-- The labelled output. -/
  output : FilePath
  /-- How many rows have a label other than the default. -/
  violations : Nat
  deriving DecidableEq, Repr

/-- How many rows of a tally have a label other than the given one. -/
def Tally.others (t : Tally) (label : String) : Nat :=
  Tally.total (t.filter fun p => p.1 != label)

namespace Compile

variable {σ : Type}

/-- What becomes of the run of a verified program. -/
def conclude (fingerprint : Fingerprint) (e : Expectations) (rows : Nat) (disk : Disk)
    (run : Execution) : Except CompileError RunOutcome :=
  if !run.succeeded then .error (.runtimeFailed fingerprint run.diagnostics)
  else
    let report := Validation.check disk run e rows
    if !report.passed then .error (.runtimeFailed fingerprint report.render)
    else match run.outputPath with
      | none => .error (.runtimeFailed fingerprint "no output artifact was produced")
      | some output => .ok ⟨run, report, output, report.distribution.others e.defaultLabel⟩

/-- Runs a verified program on an input. -/
def rerun (agents : Agents σ) (artifact : Artifact) (input : FilePath) (e : Expectations)
    (rows : Nat) : Step σ RunOutcome := fun w =>
  let fingerprint := artifact.fingerprint
  if !artifact.isIntact then
    (.error (.runtimeFailed fingerprint "program text does not match the manifest digest"), w)
  else
    let program : Candidate := ⟨artifact.manifest.attempt, artifact.manifest.language,
      artifact.source, none⟩
    match agents.execute program input w.agents w.disk with
    | (.error e, state, disk) => (.error (.sandbox e), ⟨state, disk⟩)
    | (.ok run, state, disk) => (conclude fingerprint e rows disk run, ⟨state, disk⟩)

end Compile

end LabelForge
