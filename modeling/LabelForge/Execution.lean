import LabelForge.Duration
import LabelForge.FilePath
import LabelForge.Text.Blank

/-!
# LabelForge.Execution

**What a run of a program left behind.** An execution records how the process ended, what it
printed, whether it printed the completion marker, and where its output is.

Design points:

* A run succeeded if it ended by itself with code zero within its time and printed the marker;
  nothing is said about its output yet.
* The diagnostics of a failed run are what the next attempt gets to see: the standard error, or
  the standard output where there is none.
-/

namespace LabelForge

/-- The record of one run of a program. -/
structure Execution where
  /-- The exit code; none if the process was killed. -/
  exitCode : Option Int
  stdout : String
  stderr : String
  wallTime : Duration
  timedOut : Bool
  /-- Whether the completion marker stood on a line of the standard output. -/
  markerSeen : Bool
  /-- The output of a run that succeeded. -/
  outputPath : Option FilePath
  deriving DecidableEq, Repr

namespace Execution

open Json

/-- Whether the run ended by itself, with code zero, and printed the marker. -/
def succeeded (e : Execution) : Bool :=
  e.exitCode == some 0 && !e.timedOut && e.markerSeen

/-- How the process ended, for a run that did not succeed in time. -/
def ending (e : Execution) : String :=
  match e.exitCode with
  | none => "Process was terminated by a signal."
  | some 0 => "Process exited with code 0 but did not print the completion marker."
  | some code => s!"Process exited with code {Number.intText code}."

/-- What the process printed, the standard error before the standard output. -/
def printed (e : Execution) : String :=
  let stderr := Text.trim e.stderr
  let stdout := Text.trim e.stdout
  if !stderr.isEmpty then "\nstderr:\n" ++ stderr
  else if !stdout.isEmpty then "\nNo stderr. stdout:\n" ++ stdout
  else "\nNo stderr and no stdout were produced."

/-- What is wrong with a run that failed, for whoever writes the next program. -/
def diagnostics (e : Execution) : String :=
  if e.timedOut then
    "TimeoutError: program execution exceeded " ++ e.wallTime.secondsText 1 ++
      " seconds and was terminated."
  else e.ending ++ e.printed

/-- Decodes a path. -/
def pathDecoder : Decoder FilePath := fun j => (asText j).map FilePath.mk

/-- A signed integer of 32 bits. -/
def exitCodeDecoder : Decoder Int := asInt (-(2 ^ 31)) (2 ^ 31 - 1)

/-- Decodes an execution. -/
def decoder : Decoder Execution := fun j => do
  let found ← gather [.optional "exit_code" (asOption exitCodeDecoder), .required "stdout" asText,
    .required "stderr" asText, .required "wall_time" Duration.decoder,
    .required "timed_out" asBool, .required "completion_marker_seen" asBool,
    .optional "produced_artifact_path" (asOption pathDecoder)] j
  return {
    exitCode := ← found.getD "exit_code" (asOption exitCodeDecoder) none
    stdout := ← found.get "stdout" asText
    stderr := ← found.get "stderr" asText
    wallTime := ← found.get "wall_time" Duration.decoder
    timedOut := ← found.get "timed_out" asBool
    markerSeen := ← found.get "completion_marker_seen" asBool
    outputPath := ← found.getD "produced_artifact_path" (asOption pathDecoder) none }

/-- The document of an execution. -/
def toJson (e : Execution) : Json :=
  .ofMembers [
    ("exit_code", .ofOption .ofInt e.exitCode),
    ("stdout", .ofText e.stdout),
    ("stderr", .ofText e.stderr),
    ("wall_time", e.wallTime.toJson),
    ("timed_out", .bool e.timedOut),
    ("completion_marker_seen", .bool e.markerSeen),
    ("produced_artifact_path", .ofOption (fun p => .ofText p.text) e.outputPath)]

end Execution

end LabelForge
