import LabelForge.Shell.Builtin

/-!
# LabelForge.Shell.Interpreter

**Running commands.** One function runs a command of any kind. It gets the function that runs
the commands inside, and the recursion is tied at the end, by a bound on the number of commands
that are under way or follow each other in a loop.

Design points:

* A shell that reaches the bound is taken for one that never ends, so it is killed at its deadline.
* A shell of its own shares files, streams and time with the shell that starts it, and nothing
  else.
-/

namespace LabelForge.Shell

open Text (Bytes)

/-- Runs a command. -/
abbrev Runner := Command → Action Unit

namespace Runner

open Builtin (setStatus)

/-- Runs commands in order. -/
def runAll (again : Runner) : List Command → Action Unit
  | [] => return
  | c :: cs => do
    again c
    runAll again cs

/-- Runs an action whose outcome is asked for. -/
def asTest (action : Action Unit) : Action Unit := do
  let before := (← get).tested
  modify fun s => { s with tested := true }
  action
  modify fun s => { s with tested := before }

/-- Ends the shell after a failure, if an option says so. -/
def afterCommand : Action Unit := do
  let s ← get
  if s.options.contains 'e' && !s.tested && s.status != 0 then throw (.exit s.status)

/-- The state of a shell when one that it has started ends: it keeps what is its own, and gets what
both share. -/
def rejoin (own ended : State) (status : Nat) : State :=
  { own with
    status
    disk := { ended.disk with cwd := own.disk.cwd }
    input := ended.input
    buffers := ended.buffers
    clock := ended.clock
    jobsEnd := ended.jobsEnd
    heldOut := ended.heldOut
    heldErr := ended.heldErr }

/-- Runs a script that is given as its text. -/
def runText (again : Runner) (text : String) : Action Unit := do
  let (script, fault) := parseScript text
  runAll again script
  if let some (fault, line) := fault then
    modify fun s => { s with line }
    Action.grumble fault.message
    throw (.exit 2)

/-- Ends the shell with a status, after the script that is to run at the end. -/
def atExit (again : Runner) (status : Nat) : Action Unit := do
  if let some script := (← get).traps.lookup "EXIT" then
    modify fun s => { s with traps := s.traps.filter fun (name, _) => name != "EXIT" }
    Builtin.setStatus status
    runText again script
  throw (.exit (status % 256))

/-- Runs an action up to the end of the shell, whatever brings it about. -/
def toTheEnd (again : Runner) (action : Action Unit) : Action Unit := do
  try
    action
    throw (.exit (← get).status)
  catch stop =>
    match stop with
    | .exit status => atExit again status
    | .leave status => atExit again status
    | .leaveLoop _ => atExit again 0
    | .nextTurn _ => atExit again 0
    | stop => throw stop

/-- Runs an action in a shell of its own, which ignores the signals that its parent ignores. -/
def inSubshell (again : Runner) (action : Action Unit) : Action Unit := do
  let s ← get
  set { s with traps := s.traps.filter fun (_, script) => script.isEmpty }
  try toTheEnd again action
  catch stop =>
    match stop with
    | .exit status => modify fun t => rejoin s t status
    | stop => throw stop

/-- Runs an action as a process of its own, which a signal can end. -/
def asProcess (again : Runner) (action : Action Unit) : Action Unit := do
  let s ← get
  try inSubshell again action
  catch stop =>
    match stop with
    | .killed signal =>
      let (status, text) := Builtin.afterSignal signal
      modify fun t => rejoin s t status
      unless text.isEmpty do Action.complain text
    | stop => throw stop

/-- Runs a script in a shell of its own and returns what it prints. -/
def output (again : Runner) : ScriptOutput := fun script => do
  return Text.lenientText (← Action.captured (inSubshell again (runAll again script)))

/-- Runs an action that may leave streams changed, and sets the streams back. -/
def keepingStreams (action : Action Unit) : Action Unit := do
  let s ← get
  let restore : Action Unit := modify fun t => { t with
    stdout := s.stdout, stderr := s.stderr, others := s.others, input := s.input }
  try action
  catch stop =>
    restore
    throw stop
  restore

/-- Sets a stream. -/
def setSink (stream : Nat) (sink : Sink) : Action Unit :=
  modify fun s => match stream with
    | 0 => s
    | 1 => { s with stdout := sink }
    | 2 => { s with stderr := sink }
    | n => { s with others := (n, sink) :: s.others.filter fun (other, _) => other != n }

/-- The sink of a stream; none if the stream is not open. -/
def sinkOf? (stream : String) : Action (Option Sink) := do
  let s ← get
  return match stream.toNat? with
    | some 0 => some .closed
    | some 1 => some s.stdout
    | some 2 => some s.stderr
    | some n => s.others.lookup n
    | none => some .closed

/-- Why a file cannot be opened, as a shell says it. -/
def openReason (missing : String) : OsError → String
  | .notFound => missing
  | .notDirectory => missing
  | e => e.reason

/-- Tells that a file cannot be opened. -/
def cannot (verb path reason : String) : Action Bool := do
  Action.grumble s!"cannot {verb} {path}: {reason}"
  return false

/-- Redirects a stream. The result is false, after a message, if that is not possible. -/
def redirect (again : Runner) : Redirection → Action Bool
  | .mk stream kind target => do
    let path ← expandText (output again) target
    let opened (change : Disk → Except OsError Disk) : Action Bool := do
      if path == "/dev/stdout" || path == "/dev/stderr" then
        let copied ← sinkOf? (if path == "/dev/stdout" then "1" else "2")
        setSink stream (copied.getD .closed)
        return true
      let made ← Action.onDisk fun d => do
        let _ ← d.target ⟨path⟩
        change d
      match made, ← Action.locate path with
      | .ok (), .ok l =>
        setSink stream (.file l)
        return true
      | .error e, _ => cannot "create" path (openReason "Directory nonexistent" e)
      | _, .error e => cannot "create" path (openReason "Directory nonexistent" e)
    match kind with
    | .output => opened fun d => d.write ⟨path⟩ []
    | .append => opened fun d =>
      match d.read ⟨path⟩ with
      | .ok _ => .ok d
      | .error _ => d.write ⟨path⟩ []
    | .input =>
      match ← Action.readFile path with
      | .ok b =>
        modify fun s => { s with input := b }
        return true
      | .error e =>
        if e == .isDirectory then return true
        cannot "open" path (openReason "No such file" e)
    | .here =>
      modify fun s => { s with input := Text.bytesOf path }
      return true
    | .duplicate =>
      if stream == 0 then
        if path == "-" then modify fun s => { s with input := [] }
        return true
      match ← sinkOf? path with
      | some sink =>
        setSink stream sink
        return true
      | none =>
        Action.grumble s!"{path}: Bad file descriptor"
        return false

/-- Redirects streams in order, up to the first one for which that is not possible. -/
def redirectAll (again : Runner) : List Redirection → Action Bool
  | [] => return true
  | r :: rs => do if ← redirect again r then redirectAll again rs else return false

/-- Runs an action with redirected streams. -/
def redirected (again : Runner) (rs : List Redirection) (action : Action Unit) : Action Unit :=
  if rs.isEmpty then action
  else keepingStreams do if ← redirectAll again rs then action else setStatus 2

/-- Whether a word has the output of a script in it. -/
def hasOutput (w : Word) : Bool :=
  w.any fun piece => match piece with
    | .output .. => true
    | _ => false

/-- Assigns values to variables. -/
def assignAll (again : Runner) : List (String × Word) → Action Unit
  | [] => return
  | (name, word) :: rest => do
    Action.assign name (← expandText (output again) word)
    assignAll again rest

/-- Calls a function. -/
def callFunction (again : Runner) (body : Command) (arguments : List String) : Action Unit := do
  let before ← get
  let restore : Action Unit := do
    for (name, old) in (← get).locals.getD [] do Action.putBack name old
    modify fun s => { s with
      parameters := before.parameters, locals := before.locals, loops := before.loops }
  modify fun s => { s with parameters := arguments, locals := some [], loops := 0 }
  try again body
  catch stop =>
    restore
    match stop with
    | .leave status => setStatus status
    | stop => throw stop
  restore

/-- Runs another shell. -/
def callShell (again : Runner) (arguments : List String) : Action Unit := do
  let exported := (← get).vars.filter fun (_, v) => v.exported
  let started (name : String) (parameters : List String) (text : String) : Action Unit :=
    asProcess again do
      modify fun s => { s with
        name, parameters, vars := exported, functions := [], options := [], traps := []
        line := 1, status := 0, loops := 0, locals := none }
      runText again text
  match arguments with
  | "-c" :: text :: rest => started (rest.headD "sh") (rest.drop 1) text
  | "-e" :: "-c" :: text :: rest => started (rest.headD "sh") (rest.drop 1) ("set -e;" ++ text)
  | "-ec" :: text :: rest => started (rest.headD "sh") (rest.drop 1) ("set -e;" ++ text)
  | "-e" :: rest =>
    match rest with
    | path :: parameters =>
      match ← Action.readFile path with
      | .ok b => started path parameters ("set -e;" ++ Text.lenientText b)
      | .error _ => missing path
    | [] => setStatus 0
  | path :: parameters =>
    match ← Action.readFile path with
    | .ok b => started path parameters (Text.lenientText b)
    | .error _ => missing path
  | [] =>
    let b := (← Action.readFile "-").toOption.getD []
    started "sh" [] (Text.lenientText b)
where
  /-- The script is not there. -/
  missing (path : String) : Action Unit := do
    Action.complain s!"sh: 0: cannot open {path}: No such file"
    setStatus 2

/-- Whether a path leads somewhere. -/
def isThere (path : String) : Action Bool := do
  let d := (← get).disk
  return ((d.locate ⟨path⟩).toOption.bind d.files.at?).isSome

/-- Runs a program that is not part of the shell; `speaker` stands before its name in messages. -/
def callProgram (again : Runner) (speaker name : String) (arguments : List String) :
    Action Unit := do
  match tool? name with
  | some t => setStatus (← t arguments)
  | none =>
    if isShell name then callShell again arguments
    else if name.toList.contains '/' && (← isThere name) then
      Action.grumble s!"{speaker}{name}: Permission denied"
      setStatus 126
    else
      let reason := match (← get).disk.locate ⟨name⟩ with
        | .error .tooLong => OsError.tooLong.reason
        | _ => "not found"
      Action.grumble s!"{speaker}{name}: {reason}"
      setStatus 127

/-- Runs a command that is no function. -/
def callPlain (again : Runner) : Nat → List String → Action Unit
  | 0, _ => Action.expire
  | _ + 1, [] => setStatus 0
  | n + 1, name :: arguments =>
    match Builtin.builtin? (runText again) (callPlain again n) name arguments with
    | some action => do setStatus (← action)
    | none => callProgram again "" name arguments

/-- Runs a command with its arguments. -/
def call (again : Runner) (texts : List String) : Action Unit := do
  match texts with
  | [] => setStatus 0
  | "exec" :: rest =>
    unless rest.isEmpty do
      modify fun s => { s with replaced := true }
      callProgram again "exec: " (rest.headD "") (rest.drop 1)
      throw (.exit (← get).status)
    setStatus 0
  | name :: arguments =>
    match (← get).functions.lookup name with
    | some body => callFunction again body arguments
    | none => callPlain again (texts.length + 1) texts

/-- Runs a simple command. -/
def simple (again : Runner) (line : Nat) (assignments : List (String × Word)) (words : List Word)
    (rs : List Redirection) : Action Unit := do
  modify fun s => { s with line }
  let texts ← expandWords (output again) words
  if (← get).options.contains 'x' && !texts.isEmpty then
    Action.complain ("+ " ++ " ".intercalate texts)
  match texts with
  | [] =>
    redirected again rs do
      let computed := assignments.any fun (_, w) => hasOutput w
      assignAll again assignments
      unless computed do setStatus 0
  | ["exec"] =>
    assignAll again assignments
    if ← redirectAll again rs then setStatus 0 else throw (.exit 2)
  | texts =>
    redirected again rs do
      let vars := (← get).vars
      assignAll again assignments
      unless assignments.isEmpty do
        for (name, _) in assignments do Action.export_ name
      call again texts
      unless assignments.isEmpty do
        for (name, _) in assignments do Action.putBack name (vars.lookup name)
  afterCommand

/-- Runs commands of which each reads what the one before prints. -/
def pipe (again : Runner) : List Command → Action Unit
  | [] => return
  | [c] => inSubshell again (again c)
  | c :: cs => do
    let bytes ← Action.captured (inSubshell again (again c))
    let before := (← get).input
    modify fun s => { s with input := bytes }
    pipe again cs
    modify fun s => { s with input := before }

/-- Runs the body of a loop once. The result tells whether the loop goes on. -/
def turn (body : Action Unit) : Action Bool := do
  let before := (← get).loops
  let restore : Action Unit := modify fun s => { s with loops := before }
  modify fun s => { s with loops := before + 1 }
  try
    body
    restore
    return true
  catch stop =>
    restore
    match stop with
    | .leaveLoop n => if n ≤ 1 then return false else throw (.leaveLoop (n - 1))
    | .nextTurn n => if n ≤ 1 then return true else throw (.nextTurn (n - 1))
    | stop => throw stop

/-- Runs a body for each of some texts. -/
def eachTurn (again : Runner) (name : String) (body : List Command) : List String → Action Unit
  | [] => return
  | text :: rest => do
    Action.assign name text
    if ← turn (runAll again body) then eachTurn again name body rest

/-- Runs the first body whose test succeeds. -/
def firstBranch (again : Runner) (otherwise : List Command) :
    List (List Command × List Command) → Action Unit
  | [] => do
    setStatus 0
    runAll again otherwise
  | (test, body) :: rest => do
    asTest (runAll again test)
    if (← get).status == 0 then runAll again body else firstBranch again otherwise rest

/-- Whether one of some patterns fits a text. -/
def anyFits (again : Runner) (text : String) : List Word → Action Bool
  | [] => return false
  | w :: ws => do
    let glob ← expandGlob (output again) w
    if glob.fits text.toList then return true else anyFits again text ws

/-- Runs the first body that has a pattern that fits a text. -/
def firstArm (again : Runner) (text : String) : List (List Word × List Command) → Action Unit
  | [] => setStatus 0
  | (patterns, body) :: rest => do
    if ← anyFits again text patterns then
      setStatus 0
      runAll again body
    else firstArm again text rest

/-- A command without the redirections around it, and these. -/
def unwrapped : Command → Command × List Redirection
  | .simple line assignments words rs => (.simple line assignments words [], rs)
  | .group body rs => (.group body [], rs)
  | .subshell body rs => (.subshell body [], rs)
  | .choice branches otherwise rs => (.choice branches otherwise [], rs)
  | .loop wanted test body rs => (.loop wanted test body [], rs)
  | .each name words body rs => (.each name words body [], rs)
  | .select word arms rs => (.select word arms [], rs)
  | c => (c, [])

/-- Runs a command that nobody waits for. The process of the command holds the streams that it has
after its own redirections. -/
def inBackground (again : Runner) (c : Command) : Action Unit := do
  let s ← get
  let (c, rs) := unwrapped c
  let hold : Action Unit := do
    let t ← get
    if s.clock < t.clock then Action.hold t.clock
  let job : Action Unit := do
    if ← redirectAll again rs then
      try again c
      catch stop =>
        hold
        throw stop
      hold
    else throw (.exit 2)
  set { s with input := [], deadline := s.deadline + 1000000000000 }
  try asProcess again job
  catch _ => pure ()
  modify fun t => { rejoin s t 0 with
    clock := s.clock, input := s.input
    jobsEnd := max t.jobsEnd t.clock, jobStatus := some t.status }

/-- Runs a command; `again` runs the commands inside. -/
def step (again : Runner) : Command → Action Unit
  | .simple line assignments words rs => simple again line assignments words rs
  | .pipeline negated stages => do
    match negated, stages with
    | false, stages => pipe again stages
    | true, [c] => asTest (again c)
    | true, stages => asTest (pipe again stages)
    if negated then modify fun s => { s with status := if s.status == 0 then 1 else 0 }
    else afterCommand
  | .both first second => do
    asTest (again first)
    if (← get).status == 0 then again second
  | .either first second => do
    asTest (again first)
    if (← get).status != 0 then again second
  | .group body rs => redirected again rs (runAll again body)
  | .subshell body rs => do
    redirected again rs (inSubshell again (runAll again body))
    afterCommand
  | .choice branches otherwise rs => redirected again rs (firstBranch again otherwise branches)
  | .loop wanted test body [] => do
    let goesOn ← turn do
      asTest (runAll again test)
      if ((← get).status == 0) == wanted then runAll again body
      else
        setStatus 0
        throw (.leaveLoop 1)
    if goesOn then again (.loop wanted test body [])
  | .loop wanted test body rs => redirected again rs (again (.loop wanted test body []))
  | .each name words body rs => redirected again rs do
    let texts ← match words with
      | some ws => expandWords (output again) ws
      | none => pure (← get).parameters
    setStatus 0
    eachTurn again name body texts
  | .select word arms rs => redirected again rs do
    firstArm again (← expandText (output again) word) arms
  | .define name body => do
    modify fun s => { s with functions := Action.setIn name body s.functions }
    setStatus 0
  | .background c => inBackground again c

/-- Runs a command with a bound on the depth of what it runs. -/
def run : Nat → Runner
  | 0 => fun _ => Action.expire
  | n + 1 => fun c => step (run n) c

/-- The bound on the depth. -/
def depth : Nat := 50000

end Runner

end LabelForge.Shell
