import LabelForge.Sandbox.Host
import LabelForge.Shell.Interpreter

/-!
# LabelForge.Shell.Start

**A shell as a process.** The arguments of a shell say which script it runs. The process ends
with the script, with a signal, or at its deadline.

Design points:

* Whoever waits for a process looks for its end at regular times, so the deadline is the first of
  these times at which the limit is reached.
* The streams are read until they are closed, but only for some time after the end. Where a
  process in the background holds a stream for longer, all that was printed to it is lost.
-/

namespace LabelForge.Shell

open Text (Bytes)

/-- How many milliseconds pass between two looks at a process. -/
def pollInterval : Nat := 20

/-- How many milliseconds a stream is waited for after the end. -/
def grace : Nat := 2000

/-- The first look at a process at which a limit is reached. -/
def deadlineOf (limit : Duration) : Nat :=
  let millis := (limit.totalNanos + 999999) / 1000000
  (millis + pollInterval - 1) / pollInterval * pollInterval

/-- What the arguments of a shell ask for. -/
structure Request where
  options : List Char := []
  /-- The script, or the path of its file; none for the input. -/
  script : Option (Sum String String)
  name : String
  parameters : List String
  deriving DecidableEq, Repr

/-- Reads the arguments of a shell. -/
def readArguments (name : String) (options : List Char) : List String → Request
  | [] => { options, script := none, name, parameters := [] }
  | argument :: rest =>
    match argument.toList with
    | '-' :: c :: cs =>
      if (c :: cs).contains 'c' then
        let letters := options ++ (c :: cs).filter (· != 'c')
        match rest with
        | text :: rest =>
          ⟨letters, some (.inl text), rest.headD name, rest.drop 1⟩
        | [] => { options := letters, script := none, name, parameters := [] }
      else readArguments name (options ++ c :: cs) rest
    | _ => ⟨options, some (.inr argument), argument, rest⟩

/-- Lets a tool that only waits take the place of the shell, if it is the last command. -/
def replaceLast (script : List Command) : List Command :=
  match script.getLast? with
  | some (.simple line assignments (([.text "sleep" false]) :: words) rs) =>
    script.dropLast ++
      [.simple line assignments ([.text "exec" false] :: [.text "sleep" false] :: words) rs]
  | _ => script

/-- Runs the script that a shell is asked for. -/
def runRequest (r : Request) : Action Unit := do
  let again := Runner.run Runner.depth
  match r.script with
  | some (.inl text) =>
    match parseScript text with
    | (script, none) => Runner.runAll again (replaceLast script)
    | _ => Runner.runText again text
  | some (.inr path) =>
    match (← get).disk.read ⟨path⟩ with
    | .ok b => Runner.runText again (Text.lenientText b)
    | .error e =>
      let reason := Runner.openReason "No such file" e
      Action.complain s!"{r.name}: 0: cannot open {path}: {reason}"
      throw (.exit 2)
  | none => return

/-- The ending of a process that stopped. -/
def endingOf (status : Nat) : Stop → Ending
  | .exit status => .exited status
  | .leave status => .exited status
  | .killed _ => .killed
  | .timedOut => .timedOut
  | _ => .exited status

/-- Runs an action as the process of a launch. -/
def process (launch : Launch) (name : String) (parameters : List String) (options : List Char)
    (action : Action Unit) (limit : Duration) (d : Disk) : Finished × Disk :=
  let vars := launch.environment.foldl (fun vs (name, value) =>
    Action.setIn name { value, exported := true } vs) []
  let directory := String.join (launch.directory.map fun n => "/" ++ n.shown)
  let start : State := {
    disk := { d with cwd := launch.directory }, name, parameters, options
    vars := Action.setIn "PWD" { value := directory, exported := true } vars
    deadline := deadlineOf limit }
  let (result, s) := (action.run).run start
  let stop := match result with
    | .ok () => .exit s.status
    | .error stop => stop
  let outLost := s.heldOut > s.clock + grace
  let waited := if outLost then s.clock + grace else max s.clock s.heldOut
  let errLost := s.heldErr > waited + grace
  let stream (index : Nat) (lost : Bool) : Bytes :=
    if lost then [] else Action.joined (s.buffers[index]?.getD [])
  (⟨endingOf s.status stop, stream 0 outLost, stream 1 errLost, .ofMillis s.clock⟩,
    { s.disk with cwd := d.cwd })

/-- Starts a shell. -/
def start (launch : Launch) (limit : Duration) (d : Disk) : Finished × Disk :=
  let r := readArguments launch.executable [] launch.arguments
  let action := Runner.toTheEnd (Runner.run Runner.depth) (runRequest r)
  process launch r.name r.parameters r.options action limit d

/-- Starts a tool. -/
def startTool (t : Tool) (launch : Launch) (limit : Duration) (d : Disk) : Finished × Disk :=
  let action : Action Unit := do
    modify fun s => { s with replaced := true }
    throw (.exit (← t launch.arguments))
  process launch launch.executable [] [] action limit d

end LabelForge.Shell
