import LabelForge.Duration
import LabelForge.FileTree
import LabelForge.FilePath

/-!
# LabelForge.Sandbox.Runtime

**How a program becomes a process.** A runtime is a command line with placeholders and the name
of the file that the program is written to; limits say how long a run may take, how much of its
output is kept, and which line tells that it is complete.

Design points:

* A placeholder is replaced wherever it stands in a word of the command line, one kind of
  placeholder after the other. A path that holds the text of a later placeholder is therefore
  changed once more.
* The environment of a process is empty but for a list of names that are passed on.
-/

namespace LabelForge

/-- A command line and what belongs to it. -/
structure Runtime where
  /-- The words of the command line. -/
  command : List String
  /-- The name of the program's file. -/
  programFile : String
  /-- The names of the environment that the process gets to see. -/
  passthrough : List String
  deriving DecidableEq, Repr

namespace Runtime

open Json

/-- The names that are passed on unless a runtime says otherwise. -/
def defaultPassthrough : List String := ["PATH", "LANG", "LC_ALL", "TZ", "SYSTEMROOT"]

/-- The placeholder of a word. -/
def placeholder (name : String) : String :=
  "\x7b" ++ name ++ "\x7d"

/-- The words for the program, the input and the output. -/
def operands : List String :=
  ["program", "input", "output"].map placeholder

/-- The runtime of Python scripts. -/
def python : Runtime :=
  ⟨"python3" :: operands, "candidate.py", defaultPassthrough⟩

/-- The runtime of label plans, which the given executable applies. -/
def plan (executable : String) : Runtime :=
  ⟨executable :: "apply" :: operands, "candidate.plan.json", defaultPassthrough⟩

/-- Replaces every occurrence of a text that is not empty, from left to right. -/
def replaceChars (pattern by_ : List Char) : Nat → List Char → List Char
  | 0, cs => cs
  | _ + 1, [] => []
  | fuel + 1, c :: cs =>
    if pattern.isPrefixOf (c :: cs) then
      by_ ++ replaceChars pattern by_ fuel ((c :: cs).drop pattern.length)
    else c :: replaceChars pattern by_ fuel cs

/-- Replaces every occurrence of a placeholder. -/
def fill (name : String) (value : FilePath) (word : String) : String :=
  let cs := word.toList
  .ofList (replaceChars (placeholder name).toList value.text.toList cs.length cs)

/-- The paths of a run. -/
structure Paths where
  program : FilePath
  input : FilePath
  output : FilePath
  workdir : FilePath
  deriving DecidableEq, Repr

/-- The command line of a run. -/
def render (r : Runtime) (paths : Paths) : List String :=
  r.command.map fun word =>
    fill "workdir" paths.workdir (fill "output" paths.output (fill "input" paths.input
      (fill "program" paths.program word)))

/-- The fields of a runtime. -/
def fields : List Field := [
  .required "command" (asList asText), .required "program_file" asText,
  .defaulted "env_passthrough" (asList asText)]

/-- The runtime of some fields. -/
def ofFound (found : Found) : Except Fault Runtime := do
  return {
    command := ← found.get "command" (asList asText)
    programFile := ← found.get "program_file" asText
    passthrough := ← found.getD "env_passthrough" (asList asText) defaultPassthrough }

/-- Decodes a runtime. -/
def decoder : Decoder Runtime := fun j => do ofFound (← gather fields j)

/-- The document of a runtime. -/
def toJson (r : Runtime) : Json := .ofMembers [
  ("command", .ofItems (r.command.map .ofText)), ("program_file", .ofText r.programFile),
  ("env_passthrough", .ofItems (r.passthrough.map .ofText))]

end Runtime

/-- What a run may take. -/
structure Limits where
  timeout : Duration := .ofSeconds 30
  /-- The line that a complete run prints. -/
  marker : String := "PROCESS_COMPLETE"
  /-- How many bytes of each stream are kept. -/
  outputBytes : Nat := 256 * 1024
  deriving DecidableEq, Repr

/-- The document of limits. -/
def Limits.toJson (l : Limits) : Json := .ofMembers [
  ("completion_marker", .ofText l.marker), ("output_limit_bytes", .ofNat l.outputBytes),
  ("timeout_ms", .ofNat (l.timeout.totalNanos / 1000000))]

/-- Why a program could not be run at all. -/
inductive SandboxError where
  /-- The command line has no words. -/
  | emptyCommand
  /-- A directory could not be made. -/
  | workdir (path : FilePath) (cause : OsError)
  /-- The input could not be copied. -/
  | stageInput (path : FilePath) (cause : OsError)
  /-- The program could not be written. -/
  | writeProgram (path : FilePath) (cause : OsError)
  /-- The process could not be started. -/
  | spawn (program : String) (cause : OsError)
  deriving DecidableEq, Repr

/-- The message of a fault. -/
def SandboxError.message : SandboxError → String
  | .emptyCommand => "sandbox runtime command is empty"
  | .workdir path cause => s!"failed to prepare sandbox directory {path.text}: {cause.message}"
  | .stageInput path cause => s!"failed to stage input {path.text}: {cause.message}"
  | .writeProgram path cause => s!"failed to write program to {path.text}: {cause.message}"
  | .spawn program cause => s!"failed to start runtime '{program}': {cause.message}"

end LabelForge
