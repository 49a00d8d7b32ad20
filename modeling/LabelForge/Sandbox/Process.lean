import LabelForge.Execution
import LabelForge.Program
import LabelForge.Sandbox.Capture
import LabelForge.Sandbox.Host
import LabelForge.Sandbox.Runtime

/-!
# LabelForge.Sandbox.Process

**Running programs as processes.** Every run has a fresh directory with nothing in it but the
program and a copy of the input. The process starts there, with an environment that holds its
paths and the names that the runtime passes on.

Design points:

* The directories of a sandbox lie in one directory that no other sandbox uses. They are numbered
  in the order of the runs.
* The paths of a run are absolute, so they mean the same in the directory of the process.
* A run that succeeds names its output, whether or not the process has written it.
-/

namespace LabelForge

/-- The absolute path of a location. -/
def Location.path (l : Location) : FilePath :=
  ⟨if l.isEmpty then "/" else String.join (l.map fun name => "/" ++ name.shown)⟩

/-- Copies a file. -/
def Disk.copy (d : Disk) (source target : FilePath) : Except OsError Disk := do
  d.write target (← d.read source)

/-- A sandbox. -/
structure Sandbox where
  runtime : Runtime
  limits : Limits
  /-- The directory of the runs. -/
  root : FilePath
  /-- How many runs there were. -/
  runs : Nat := 0
  deriving DecidableEq, Repr

namespace Sandbox

/-- A sandbox in a directory that is there. -/
def inside (runtime : Runtime) (limits : Limits) (root : FilePath) : Except SandboxError Sandbox :=
  if runtime.command.isEmpty then .error .emptyCommand else .ok { runtime, limits, root }

/-- A sandbox in a directory of its own below a given one. -/
def below (runtime : Runtime) (limits : Limits) (parent : FilePath) (name : String) (d : Disk) :
    Except SandboxError Sandbox × Disk :=
  match d.makeDirs parent with
  | (.error e, d) => (.error (.workdir parent e), d)
  | (.ok (), d) =>
    match d.makeDir (parent.child name) with
    | .error e => (.error (.workdir parent e), d)
    | .ok d => (inside runtime limits (parent.child name), d)

/-- The name of the directory of a run. -/
def runName (run attempt : Nat) : String :=
  let digits := toString run
  "run-" ++ "".pushn '0' (3 - digits.length) ++ digits ++ "-attempt-" ++ toString attempt

/-- The name of the copy of the input. -/
def inputFile : String := "input.csv"

/-- The name of the output. -/
def outputFile : String := "output.csv"

/-- Makes the directory of the next run. -/
def freshDirectory (s : Sandbox) (attempt : Nat) (d : Disk) :
    Except SandboxError (Location × Disk) :=
  let path := s.root.child (runName (s.runs + 1) attempt)
  match d.makeDir path with
  | .error e => .error (.workdir path e)
  | .ok d =>
    match d.locate path with
    | .error e => .error (.workdir path e)
    | .ok l => .ok (l, d)

/-- Copies the input and writes the program. -/
def stage (program : Candidate) (input : FilePath) (paths : Runtime.Paths) (d : Disk) :
    Except SandboxError Disk :=
  match d.copy input paths.input with
  | .error e => .error (.stageInput input e)
  | .ok d =>
    match d.write paths.program (Text.bytesOf program.source) with
    | .error e => .error (.writeProgram paths.program e)
    | .ok d => .ok d

/-- The paths of a run in a directory. -/
def pathsIn (s : Sandbox) (directory : Location) : Runtime.Paths :=
  let workdir := directory.path
  { program := workdir.child s.runtime.programFile
    input := workdir.child inputFile
    output := workdir.child outputFile
    workdir }

/-- The environment of a process. Of two values for a name the later one counts. -/
def environment (s : Sandbox) (inherited : List (String × String)) (paths : Runtime.Paths) :
    List (String × String) :=
  [("HOME", paths.workdir.text), ("RULESMITH_INPUT", paths.input.text),
    ("RULESMITH_OUTPUT", paths.output.text)] ++
  s.runtime.passthrough.filterMap fun name => (inherited.lookup name).map fun value => (name, value)

/-- The record of a process that has ended. -/
def record (s : Sandbox) (paths : Runtime.Paths) (p : Finished) : Execution :=
  let stdout := Capture.ofPieces s.limits.outputBytes [p.stdout]
  let run : Execution := {
    exitCode := p.ending.code?
    stdout
    stderr := Capture.ofPieces s.limits.outputBytes [p.stderr]
    wallTime := p.wallTime
    timedOut := p.ending == .timedOut
    markerSeen := hasMarkerLine s.limits.marker stdout
    outputPath := none }
  { run with outputPath := if run.succeeded then some paths.output else none }

/-- Starts the process of a run. -/
def start (host : Host) (inherited : List (String × String)) (s : Sandbox) (directory : Location)
    (d : Disk) : Except SandboxError Execution × Disk :=
  let paths := s.pathsIn directory
  match s.runtime.render paths with
  | [] => (.error .emptyCommand, d)
  | executable :: arguments =>
    let launch : Launch := {
      executable, arguments, directory, environment := s.environment inherited paths }
    match host launch s.limits.timeout d with
    | (.error e, d) => (.error (.spawn executable e), d)
    | (.ok p, d) => (.ok (s.record paths p), d)

/-- Runs a program on an input. -/
def execute (host : Host) (inherited : List (String × String)) (program : Candidate)
    (input : FilePath) (s : Sandbox) (d : Disk) : Except SandboxError Execution × Sandbox × Disk :=
  let next := { s with runs := s.runs + 1 }
  match s.freshDirectory program.attempt d with
  | .error e => (.error e, next, d)
  | .ok (directory, d) =>
    match stage program input (s.pathsIn directory) d with
    | .error e => (.error e, next, d)
    | .ok d =>
      let (r, d) := s.start host inherited directory d
      (r, next, d)

end Sandbox

end LabelForge
