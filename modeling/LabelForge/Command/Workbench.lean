import LabelForge.Attempt.Rerun
import LabelForge.Command.Failure
import LabelForge.Sandbox.Process
import LabelForge.Synthesis.PlanWriter

/-!
# LabelForge.Command.Workbench

**Where commands work.** A command finds files, an environment, a host for its processes, perhaps
a network, and a time. From these and its settings it builds the sandbox and the agents of a
compilation.

Design points:

* The state of the agents is the sandbox and the number of programs that were asked for, so the
  answers of hosts and endpoints may differ from one call to the next.
* A sandbox is kept only if a directory was named for it. Otherwise it lies in a private directory
  that is removed with everything in it when the command ends, well or not.
-/

namespace LabelForge

/-- What a command finds around it, besides the files. -/
structure Surroundings where
  host : Host
  exchange : Exchange := .offline
  /-- The environment. -/
  environment : List (String × String) := []
  /-- The path of the program itself, with which label plans are applied. -/
  executable : String
  /-- The stamp of a promotion. -/
  stamp : Stamp
  /-- The name of a new directory for a sandbox that is kept. -/
  sessionName : String
  /-- The private directory of the command. -/
  privateRoot : FilePath

/-- The state of the agents of a command. -/
structure Workbench where
  sandbox : Sandbox
  /-- How many programs were asked for. -/
  calls : Nat := 0
  deriving DecidableEq, Repr

/-- A part of a command: it may fail, and it may change files. -/
abbrev CommandM := ExceptT CommandError (StateM Disk)

namespace CommandM

/-- A part that succeeds or fails without a look at the files. -/
def ofExcept (failure : ε → CommandError) (r : Except ε α) : CommandM α :=
  match r with
  | .ok a => pure a
  | .error e => throw (failure e)

/-- A part that looks at the files. -/
def reading (failure : ε → CommandError) (f : Disk → Except ε α) : CommandM α := do
  ofExcept failure (f (← get))

/-- A part that may change files, even if it fails. -/
def changing (failure : ε → CommandError) (f : Disk → Except ε α × Disk) : CommandM α := do
  let (r, d) := f (← get)
  set d
  ofExcept failure r

/-- Makes the directory of a file, unless that is the one in which the command works. -/
def makeParent (path : FilePath) : CommandM Unit :=
  match path.parent? with
  | none => return
  | some parent =>
    if parent.text.isEmpty then return
    else changing (.directory parent) fun d => d.makeDirs parent

/-- Writes a file with a result. -/
def writeResult (path : FilePath) (content : String) : CommandM Unit := do
  makeParent path
  let d ← reading (.unwritten path) fun d => d.write path (Text.bytesOf content)
  set d

/-- Copies a file to where a result is wanted. -/
def copyResult (source target : FilePath) : CommandM Unit := do
  makeParent target
  let d ← reading (.uncopied source target) fun d => d.copy source target
  set d

/-- A part with another one behind it that takes place in any case. -/
def thenAlways (action : CommandM α) (last : Disk → Disk) : CommandM α :=
  ExceptT.mk fun d =>
    let (r, d) := action d
    (r, last d)

end CommandM

namespace Surroundings

variable (s : Surroundings)

/-- The runtime of a language. -/
def runtimeOf (language : Language) (marker : String) : Runtime :=
  match language with
  | .python => .python
  | .labelPlan =>
    let plan := Runtime.plan s.executable
    { plan with command := plan.command ++ ["--marker", marker] }

/-- The runtime of some settings. -/
def runtime (r : Resolved) : Runtime :=
  r.runtime.getD (s.runtimeOf r.writer.language r.settings.limits.marker)

/-- Removes the private directory. -/
def tidy (d : Disk) : Disk :=
  match d.locate s.privateRoot with
  | .ok l => { d with files := d.files.remove l }
  | .error _ => d

/-- Builds a sandbox. -/
def build (r : Resolved) (workdir : Option FilePath) (d : Disk) :
    Except SandboxError Sandbox × Disk :=
  match workdir with
  | some parent => Sandbox.below (s.runtime r) r.settings.limits parent s.sessionName d
  | none =>
    match d.makeDirs s.privateRoot with
    | (.error e, d) => (.error (.workdir s.privateRoot e), d)
    | (.ok (), d) => (Sandbox.inside (s.runtime r) r.settings.limits s.privateRoot, d)

/-- Does something with a sandbox. -/
def withSandbox (r : Resolved) (workdir : Option FilePath) (action : Sandbox → CommandM α) :
    CommandM α :=
  let work : CommandM α := do
    action (← CommandM.changing .sandbox fun d => s.build r workdir d)
  match workdir with
  | some _ => work
  | none => work.thenAlways s.tidy

/-- The runner of a command. -/
def execute (program : Candidate) (input : FilePath) (w : Workbench) (d : Disk) :
    Except SandboxError Execution × Workbench × Disk :=
  let (r, sandbox, d) := w.sandbox.execute s.host s.environment program input d
  (r, { w with sandbox }, d)

/-- The agents of a command with a writer. -/
def agentsWith (language : Language)
    (write : Nat → SynthesisRequest → Except GenerationError Candidate) : Agents Workbench where
  language := language
  write := fun request w => (write w.calls request, { w with calls := w.calls + 1 })
  execute := s.execute
  stamp := fun _ => s.stamp

/-- The agents of some settings. A chat model needs a key. -/
def agents (r : Resolved) : Except CommandError (Agents Workbench) :=
  match r.writer with
  | .plan => .ok (s.agentsWith .labelPlan fun _ request => .ok request.writePlan)
  | .chat =>
    match r.chat.key? s.environment with
    | none => .error (.missingKey r.chat.keyVariable)
    | some key => .ok (s.agentsWith .python (r.chat.write s.exchange key))

/-- The agents that only run programs. -/
def runners (language : Language) : Agents Workbench :=
  s.agentsWith language fun _ _ => .error (.unavailable "programs are not written")

end Surroundings

end LabelForge
