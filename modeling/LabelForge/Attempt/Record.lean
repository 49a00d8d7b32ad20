import LabelForge.Program
import LabelForge.Report
import LabelForge.Synthesis.Request

/-!
# LabelForge.Attempt.Record

**What happened in an attempt.** Every attempt leaves one record: with a program or without, with
an execution or without, with a report or without.

Design points:

* The outcome decides which parts there are, so a record cannot have a report without an
  execution.
* The outcome also tells what the next program has to repair.
-/

namespace LabelForge

/-- How an attempt ended. -/
inductive AttemptOutcome where
  /-- No program was written. -/
  | generationFailed (error : GenerationError)
  /-- The run of the program failed. -/
  | executionFailed (program : Candidate) (run : Execution)
  /-- The output did not pass. -/
  | validationFailed (program : Candidate) (run : Execution) (report : Report)
  /-- The output passed. -/
  | passed (program : Candidate) (run : Execution) (report : Report)
  deriving DecidableEq, Repr

/-- The record of an attempt. -/
structure AttemptRecord where
  attempt : Nat
  outcome : AttemptOutcome
  deriving DecidableEq, Repr

namespace AttemptOutcome

/-- The program, if one was written. -/
def program? : AttemptOutcome → Option Candidate
  | .generationFailed _ => none
  | .executionFailed program _ => some program
  | .validationFailed program _ _ => some program
  | .passed program _ _ => some program

/-- The run, if there was one. -/
def run? : AttemptOutcome → Option Execution
  | .generationFailed _ => none
  | .executionFailed _ run => some run
  | .validationFailed _ run _ => some run
  | .passed _ run _ => some run

/-- The report, if there is one. -/
def report? : AttemptOutcome → Option Report
  | .validationFailed _ _ report => some report
  | .passed _ _ report => some report
  | _ => none

/-- What the next program is to repair, if a program failed. -/
def lesson? : AttemptOutcome → Option PriorAttempt
  | .executionFailed program run => some ⟨program.source, run.diagnostics⟩
  | .validationFailed program _ report => some ⟨program.source, report.render⟩
  | _ => none

/-- The outcome in one line. -/
def summary : AttemptOutcome → String
  | .generationFailed error => "generation failed: " ++ error.message
  | .executionFailed _ run =>
    if run.timedOut then "execution timed out"
    else match run.exitCode with
      | some 0 => "execution finished without the completion marker"
      | some code => "execution exited with code " ++ Number.intText code
      | none => "execution was terminated"
  | .validationFailed _ _ report => "validation failed: " ++ ", ".intercalate report.codes
  | .passed .. => "passed validation"

end AttemptOutcome

end LabelForge
