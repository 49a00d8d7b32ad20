import LabelForge.Disk
import LabelForge.Shell.Pattern
import LabelForge.Shell.Syntax

/-!
# LabelForge.Shell.State

**What a shell knows.** A shell has variables, functions and parameters, works in a directory,
and prints to sinks. Its clock is the time since its start; only waiting takes time.

Design points:

* A sink is a buffer or a file. The first two buffers are the streams of the process; the others
  hold what is printed to another command.
* Printed pieces carry the time at which they are printed, because a command that nobody waits
  for prints later than those behind it.
* A process in the background goes on when its shell has ended, and keeps the streams open. The
  state has the time until which either stream is held.
-/

namespace LabelForge.Shell

open Text (Bytes)

/-- Where a command prints to. -/
inductive Sink where
  | buffer (index : Nat)
  | file (location : Location)
  | closed
  deriving DecidableEq, Repr

/-- The value of a variable. -/
structure Variable where
  value : String
  /-- Whether commands get to see it. -/
  exported : Bool := false
  /-- Whether it keeps its value for good. -/
  readOnly : Bool := false
  deriving DecidableEq, Repr

/-- A piece of a stream with the time at which it was printed. -/
structure Printed where
  time : Nat
  bytes : Bytes
  deriving DecidableEq, Repr

/-- A shell while it runs. Times are milliseconds. -/
structure State where
  disk : Disk
  /-- The name in messages. -/
  name : String
  parameters : List String
  vars : List (String × Variable) := []
  functions : List (String × Command) := []
  /-- What the local variables of the current function were before; none outside of functions. -/
  locals : Option (List (String × Option Variable)) := none
  /-- How many loops of the current function are under way. -/
  loops : Nat := 0
  /-- What is left of the input. -/
  input : Bytes := []
  stdout : Sink := .buffer 0
  stderr : Sink := .buffer 1
  /-- The streams with greater numbers that are open for output. -/
  others : List (Nat × Sink) := []
  /-- What was printed to every buffer, the last piece first. -/
  buffers : Array (List Printed) := #[[], []]
  /-- The outcome of the last command. -/
  status : Nat := 0
  /-- The letters of the options that are on. -/
  options : List Char := []
  /-- Whether the outcome of the current command is asked for, so a failure is no surprise. -/
  tested : Bool := false
  /-- Scripts that run when a signal arrives, or at the end. -/
  traps : List (String × String) := []
  /-- The line of the current command. -/
  line : Nat := 1
  clock : Nat := 0
  /-- The time at which the shell is killed. -/
  deadline : Nat
  /-- Whether the current command takes the place of the shell. -/
  replaced : Bool := false
  /-- The time at which the last process in the background ends. -/
  jobsEnd : Nat := 0
  /-- The status of the last process in the background; none if there was no such process. -/
  jobStatus : Option Nat := none
  /-- The times until which the streams are held. -/
  heldOut : Nat := 0
  heldErr : Nat := 0

/-- Why a shell does not go on with the next command. -/
inductive Stop where
  /-- It ends with a status. -/
  | exit (status : Nat)
  /-- A signal ends it. -/
  | killed (signal : String)
  /-- It is killed at its deadline. -/
  | timedOut
  /-- Loops end. -/
  | leaveLoop (levels : Nat)
  /-- A loop goes on with its next turn. -/
  | nextTurn (levels : Nat)
  /-- A function ends with a status. -/
  | leave (status : Nat)
  deriving DecidableEq, Repr

/-- A step of a shell. -/
abbrev Action := ExceptT Stop (StateM State)

/-- A program that a shell can start; it returns a status. -/
abbrev Tool := List String → Action Nat

namespace Action

/-! ### Printing -/

/-- Prints to a sink. -/
def print (sink : Sink) (bytes : Bytes) : Action Unit := do
  match sink with
  | .closed => return
  | .buffer i =>
    modify fun s => { s with buffers := s.buffers.modify i (⟨s.clock, bytes⟩ :: ·) }
  | .file l =>
    let disk := (← get).disk
    let old := (disk.files.read l).toOption.getD []
    if let .ok files := disk.files.write l (old ++ bytes) then
      modify fun s => { s with disk := { s.disk with files } }

/-- Prints bytes to the output. -/
def out (bytes : Bytes) : Action Unit := do
  print (← get).stdout bytes

/-- Prints a line to the output. -/
def sayLine (line : String) : Action Unit :=
  out (Text.bytesOf (line ++ "\n"))

/-- Prints a message to the error output. -/
def complain (message : String) : Action Unit := do
  print (← get).stderr (Text.bytesOf (message ++ "\n"))

/-- Prints the message of a tool, which fails with status 1. -/
def fail (message : String) : Action Nat := do
  complain message
  return 1

/-- Prints a message of the shell itself. -/
def grumble (message : String) : Action Unit := do
  let s ← get
  complain s!"{s.name}: {s.line}: {message}"

/-- The bytes that a buffer holds, in the order of time. -/
def joined (pieces : List Printed) : Bytes :=
  (pieces.reverse.mergeSort fun a b => a.time ≤ b.time).flatMap Printed.bytes

/-- Runs an action; what it prints goes to a buffer of its own, which is returned. -/
def captured (action : Action Unit) : Action Bytes := do
  let s ← get
  let index := s.buffers.size
  set { s with buffers := s.buffers.push [], stdout := .buffer index }
  let close : Action Bytes := do
    let pieces := (← get).buffers.back?.getD []
    modify fun t => { t with buffers := t.buffers.pop, stdout := s.stdout }
    return joined pieces
  try action
  catch stop =>
    discard close
    throw stop
  close

/-! ### Variables -/

/-- The value of a variable. -/
def valueOf? (name : String) : Action (Option String) := do
  return ((← get).vars.lookup name).map Variable.value

/-- Sets the value of a name in a list. -/
def setIn (name : String) (a : α) : List (String × α) → List (String × α)
  | [] => [(name, a)]
  | (other, b) :: rest =>
    if other == name then (name, a) :: rest else (other, b) :: setIn name a rest

/-- Whether a variable keeps its value for good. -/
def isReadOnly (name : String) : Action Bool := do
  return ((← get).vars.lookup name).any Variable.readOnly

/-- Ends the shell if a variable keeps its value for good; `speaker` is the command that would
change it, with a colon, or empty. -/
def refuseReadOnly (speaker name : String) : Action Unit := do
  if ← isReadOnly name then
    grumble s!"{speaker}{name}: is read only"
    throw (.exit 2)

/-- Changes a variable, which has the empty value before if it had none. -/
def changeVariable (name : String) (f : Variable → Variable) : Action Unit :=
  modify fun s =>
    let old := (s.vars.lookup name).getD { value := "" }
    { s with vars := setIn name (f old) s.vars }

/-- Sets a variable. -/
def assign (name value : String) : Action Unit := do
  refuseReadOnly "" name
  let exports := (← get).options.contains 'a'
  changeVariable name fun v => { v with value, exported := v.exported || exports }

/-- Shows a variable to commands. -/
def export_ (name : String) : Action Unit :=
  changeVariable name fun v => { v with exported := true }

/-- Keeps the value of a variable for good. -/
def freeze (name : String) : Action Unit :=
  changeVariable name fun v => { v with readOnly := true }

/-- Removes a variable. -/
def unset (name : String) : Action Unit :=
  modify fun s => { s with vars := s.vars.filter fun (other, _) => other != name }

/-- Sets a variable back to what it was. -/
def putBack (name : String) (old : Option Variable) : Action Unit :=
  modify fun s => { s with vars := match old with
    | some v => setIn name v s.vars
    | none => s.vars.filter fun (other, _) => other != name }

/-- The number of the process, as scripts see it. -/
def processNumber : String := "4711"

/-- The number of a process in the background, as scripts see it. -/
def jobNumber : String := "4712"

/-- The value of a parameter. -/
def parameter? (name : String) : Action (Option String) := do
  let s ← get
  match name with
  | "?" => return some (toString s.status)
  | "#" => return some (toString s.parameters.length)
  | "$" => return some processNumber
  | "!" => return s.jobStatus.map fun _ => jobNumber
  | "-" => return some (.ofList s.options)
  | "0" => return some s.name
  | "@" => return if s.parameters.isEmpty then none else some (" ".intercalate s.parameters)
  | "*" => return if s.parameters.isEmpty then none else some (" ".intercalate s.parameters)
  | name =>
    match name.toNat? with
    | some n => return s.parameters[n - 1]?
    | none => valueOf? name

/-! ### Time -/

/-- The time at which the streams are no longer held by a process that ends at the given time, if
it prints to them. -/
def hold (until_ : Nat) : Action Unit :=
  modify fun s =>
    let later (index old : Nat) : Nat :=
      if s.stdout == .buffer index || s.stderr == .buffer index then max old until_ else old
    { s with heldOut := later 0 s.heldOut, heldErr := later 1 s.heldErr }

/-- Kills the shell at its deadline. -/
def expire : Action α := do
  modify fun s => { s with clock := max s.clock s.deadline }
  throw .timedOut

/-- Waits for a process that takes some time. If the shell is killed meanwhile, the process goes
on. -/
def wait (millis : Nat) : Action Unit := do
  let s ← get
  let finish := s.clock + millis
  if finish < s.deadline then set { s with clock := finish }
  else
    unless s.replaced do hold finish
    expire

/-! ### Files -/

/-- The location of a path. -/
def locate (path : String) : Action (Except OsError Location) := do
  return (← get).disk.locate ⟨path⟩

/-- Does something to the disk, if it is possible. -/
def onDisk (f : Disk → Except OsError Disk) : Action (Except OsError Unit) := do
  match f (← get).disk with
  | .ok disk =>
    modify fun s => { s with disk }
    return .ok ()
  | .error e => return .error e

/-- How much is read from a device that never ends. Whoever reads from it stops long before. -/
def endless : Nat := 2 ^ 20

/-- The bytes of a file; a dash stands for the input. -/
def readFile (path : String) : Action (Except OsError Bytes) := do
  if path == "/dev/zero" then return .ok (.replicate endless 0)
  if path == "-" || path == "/dev/stdin" then
    let s ← get
    set { s with input := [] }
    return .ok s.input
  else return (← get).disk.read ⟨path⟩

end Action

end LabelForge.Shell
