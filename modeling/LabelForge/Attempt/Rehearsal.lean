import LabelForge.Attempt.Agents
import LabelForge.Plan.Labelling
import LabelForge.Settings
import LabelForge.Synthesis.PlanWriter
import LabelForge.Table

/-!
# LabelForge.Attempt.Rehearsal

**Agents that follow cues.** A rehearsal plays a compilation with a writer and a runner whose
every answer is laid down beforehand, and keeps count of what they were asked.

Design points:

* The n-th answer follows the n-th cue; when the cues are used up, the last one repeats, and with
  no cue at all the agents behave well.
* The runner that behaves well applies the program as a label plan itself. Other cues spoil the
  output, or end the run in another way.
-/

namespace LabelForge

/-- What the writer of a rehearsal answers. -/
inductive WriterCue where
  /-- The label plan of the rules. -/
  | plan
  /-- A given program. -/
  | source (text : String)
  /-- A fault. -/
  | fault (error : GenerationError)
  deriving DecidableEq, Repr

/-- What the runner of a rehearsal does. -/
inductive RunnerCue where
  /-- Applies the program as a plan. -/
  | apply
  /-- Applies it and loses the last row. -/
  | dropRow
  /-- Applies it and loses the first column. -/
  | dropColumn
  /-- Takes too long. -/
  | timeout
  /-- Cannot run programs. -/
  | broken
  /-- Ends well without an output. -/
  | noPath
  /-- Ends well and names an output that it has not written. -/
  | noFile
  /-- Ends well with a given output. -/
  | output (text : String)
  /-- Ends in a given way without an output. -/
  | exit (code : Option Int) (stdout stderr : String) (marker : Bool)
  deriving DecidableEq, Repr

namespace WriterCue

open Json

/-- The cue of a document: the word for a plan, a text, or a fault. -/
def ofJson (j : Json) : Asked WriterCue := do
  if j == .ofText "plan" then return .plan
  if let some written ← j.optional "source" asText then return .source written
  let message ← j.defaulted "message" asText ""
  match ← j.required "error" asText with
  | "unavailable" => return .fault (.unavailable message)
  | "malformed" => return .fault (.malformedResponse message)
  | "prompt" => return .fault (.prompt message)
  | "empty" => return .fault .emptyProgram
  | "http" => return .fault (.httpStatus (← j.defaulted "status" (asNat 16) 500) message)
  | _ => throw "error"

end WriterCue

namespace RunnerCue

open Json

/-- The words for cues without further fields. -/
def words : List (String × RunnerCue) := [
  ("apply", .apply), ("drop_row", .dropRow), ("drop_column", .dropColumn), ("timeout", .timeout),
  ("broken", .broken), ("no_path", .noPath), ("no_file", .noFile)]

/-- The cue of a document: a word, an output, or an end. -/
def ofJson (j : Json) : Asked RunnerCue := do
  if let .text _ := j then return ← decodeAs "exec" (asWord words) j
  if let some written ← j.optional "output" asText then return .output written
  return .exit (← j.required "exit" (asOption Execution.exitCodeDecoder))
    (← j.defaulted "stdout" asText "") (← j.defaulted "stderr" asText "")
    (← j.defaulted "marker" asBool false)

end RunnerCue

/-- The cues of a rehearsal, and what has happened so far. -/
structure Rehearsal where
  writer : List WriterCue
  runner : List RunnerCue
  settings : Settings
  /-- The directory of the outputs. -/
  outputs : FilePath
  /-- What somebody else does to the disk during the first run. -/
  meanwhile : Disk → Disk := id
  /-- What the writer was asked: the attempts, and what was to be repaired. -/
  calls : List (Nat × Option PriorAttempt) := []
  /-- How many programs were run. -/
  runs : Nat := 0

namespace Rehearsal

/-- The cue at a position; the last one repeats. -/
def cue (cues : List α) (i : Nat) (default : α) : α :=
  cues.getD (min i (cues.length - 1)) default

/-- A run that ended well. -/
def goodRun (output : Option FilePath) : Execution where
  exitCode := some 0
  stdout := "PROCESS_COMPLETE\n"
  stderr := ""
  wallTime := .ofMillis 5
  timedOut := false
  markerSeen := true
  outputPath := output

/-- A run that ended with a fault. -/
def faultyRun (message : String) : Execution :=
  { goodRun none with
    exitCode := some 1, stdout := "", stderr := "error: " ++ message ++ "\n", markerSeen := false }

/-- What a runner says about a text that is no plan. -/
def planFault : PlanError → String
  | .notPlan _ => "PlanParse"
  | e => e.message

/-- What a runner says about a plan that does not fit the table. -/
def labellingFault : LabellingError → String
  | .incomparable _ => "Evaluate"
  | e => e.message

/-- Applies a program to a table and changes the result, all in memory. -/
def label (program : Candidate) (d : Disk) (input : FilePath) : Except String Frame := do
  let plan ← (Plan.parse program.source).mapError planFault
  let frame ← (Table.read d input).mapError TableError.message
  (plan.apply frame).mapError labellingFault

/-- Applies a program to a table and writes what a change makes of the result. -/
def applyProgram (program : Candidate) (input output : FilePath) (change : Frame → Frame)
    (d : Disk) : Execution × Disk :=
  match label program d input with
  | .error message => (faultyRun message, d)
  | .ok frame =>
    match Table.write (change frame) d output with
    | (.ok (), d) => (goodRun (some output), d)
    | (.error e, d) => (faultyRun e.message, d)

/-- A run in a given way. -/
def perform (settings : Settings) (program : Candidate) (input output : FilePath) (d : Disk) :
    RunnerCue → Except SandboxError Execution × Disk
  | .apply => good (applyProgram program input output id d)
  | .dropRow => good (applyProgram program input output (fun f => f.take (f.rows - 1)) d)
  | .dropColumn => good (applyProgram program input output Frame.tail d)
  | .timeout => (.ok { goodRun none with
      exitCode := none, timedOut := true, markerSeen := false, stdout := "", stderr := "partial",
      wallTime := settings.limits.timeout }, d)
  | .broken => (.error .emptyCommand, d)
  | .noPath => (.ok (goodRun none), d)
  | .noFile => (.ok (goodRun (some output)), d)
  | .output text =>
    (.ok (goodRun (some output)), (d.write output (Text.bytesOf text)).toOption.getD d)
  | .exit exitCode stdout stderr markerSeen =>
    (.ok { goodRun none with exitCode, stdout, stderr, markerSeen }, d)
where
  good : Execution × Disk → Except SandboxError Execution × Disk := fun (run, d) => (.ok run, d)

/-- The runner. -/
def execute (program : Candidate) (input : FilePath) (r : Rehearsal) (d : Disk) :
    Except SandboxError Execution × Rehearsal × Disk :=
  let n := r.runs + 1
  let d := if n == 1 then r.meanwhile d else d
  let (result, d) := perform r.settings program input (r.outputs.child s!"out-{n}.csv") d
    (cue r.runner r.runs .apply)
  (result, { r with runs := n }, d)

/-- The writer. -/
def write (language : Language) (request : SynthesisRequest) (r : Rehearsal) :
    Except GenerationError Candidate × Rehearsal :=
  let answer := match cue r.writer r.calls.length .plan with
    | .plan => .ok request.writePlan
    | .source text => .ok ⟨request.attempt, language, text, none⟩
    | .fault e => .error e
  (answer, { r with calls := r.calls ++ [(request.attempt, request.prior)] })

/-- The agents of a rehearsal. -/
def agents (language : Language) (stamp : Stamp) : Agents Rehearsal where
  language := language
  write := write language
  execute := execute
  stamp := fun _ => stamp

end Rehearsal

end LabelForge
