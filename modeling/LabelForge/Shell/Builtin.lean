import LabelForge.Shell.Expansion
import LabelForge.Shell.Parser
import LabelForge.Shell.Tool.Files
import LabelForge.Shell.Tool.Lines
import LabelForge.Shell.Tool.Process
import LabelForge.Shell.Tool.Question

/-!
# LabelForge.Shell.Builtin

**Commands that change the shell itself,** and the table of all tools. A command whose work is
to run other commands gets them run by a function that is passed to it.
-/

namespace LabelForge.Shell

open Text (Bytes)

/-- The tools that a shell starts by their names. -/
def tools : List (String × Tool) := [
  ("cat", Tool.cat), ("cp", Tool.cp), ("mv", Tool.mv), ("rm", Tool.rm), ("mkdir", Tool.mkdir),
  ("rmdir", Tool.rmdir), ("touch", Tool.touch), ("ls", Tool.ls), ("tee", Tool.tee),
  ("basename", Tool.basename), ("dirname", Tool.dirname), ("head", Tool.head),
  ("tail", Tool.tail), ("wc", Tool.wc), ("sort", Tool.sort), ("uniq", Tool.uniq),
  ("cut", Tool.cut), ("tr", Tool.tr), ("grep", Tool.grep), ("sed", Tool.sed),
  ("sleep", Tool.sleep), ("seq", Tool.seq), ("env", Tool.env), ("printenv", Tool.env),
  ("tac", Tool.tac), ("yes", Tool.yes), ("ln", Tool.ln), ("chmod", Tool.chmod),
  ("sync", fun _ => pure 0)]

/-- The tools that are part of the shell. -/
def ownTools : List (String × Tool) := [
  ("echo", Tool.echo), ("printf", Tool.printf), ("pwd", Tool.pwd), ("test", Tool.test),
  ("[", Tool.bracket), (":", fun _ => pure 0), ("true", fun _ => pure 0),
  ("false", fun _ => pure 1), ("umask", fun _ => pure 0), ("ulimit", fun _ => pure 0),
  ("hash", fun _ => pure 0)]

/-- The directories in which tools are. -/
def toolDirectories : List String := ["/bin/", "/usr/bin/"]

/-- The name of a tool that is given by its path. -/
def toolName (path : String) : String :=
  match toolDirectories.find? fun d => d.toList.isPrefixOf path.toList with
  | some d => .ofList (path.toList.drop d.length)
  | none => path

/-- Finds a tool by its name or its path. -/
def tool? (path : String) : Option Tool :=
  let name := toolName path
  (tools.lookup name).or (ownTools.lookup name)

/-- Whether a name or a path is that of a shell. -/
def isShell (path : String) : Bool :=
  ["sh", "dash", "bash"].contains (toolName path)

namespace Builtin

/-- Sets the outcome of the current command. -/
def setStatus (status : Nat) : Action Unit := modify fun s => { s with status }

/-- The number that an argument stands for. -/
def numberArgument (arguments : List String) (default : Nat) : Nat :=
  (arguments.head?.bind String.toNat?).getD default

/-- The status that an argument of a command asks for, or that of the last command. -/
def statusArgument (name : String) (arguments : List String) : Action Nat := do
  match arguments with
  | [] => return (← get).status
  | text :: _ =>
    match text.toNat? with
    | some n => return n
    | none =>
      Action.grumble s!"{name}: Illegal number: {text}"
      throw (.exit 2)

/-- Ends the shell. -/
def exit (arguments : List String) : Action Nat := do
  throw (.exit ((← statusArgument "exit" arguments) % 256))

/-- Ends a function. -/
def leave (arguments : List String) : Action Nat := do
  throw (.leave (← statusArgument "return" arguments))

/-- Drops parameters. -/
def shift (arguments : List String) : Action Nat := do
  let n := numberArgument arguments 1
  let s ← get
  if s.parameters.length < n then
    Action.grumble "shift: can\x27t shift that many"
    throw (.exit 2)
  set { s with parameters := s.parameters.drop n }
  return 0

/-- Changes the directory. -/
def cd (arguments : List String) : Action Nat := do
  let home := (← Action.valueOf? "HOME").getD "/"
  let old := (← Action.valueOf? "OLDPWD").getD "/"
  let target := match arguments.filter (· != "-P") with
    | [] => home
    | "-" :: _ => old
    | path :: _ => path
  let s ← get
  let here := (Action.valueOf? "PWD")
  match s.disk.locate ⟨target⟩ with
  | .ok l =>
    if s.disk.files.isDirAt l then
      Action.assign "OLDPWD" ((← here).getD "")
      modify fun t => { t with disk := { t.disk with cwd := l } }
      Action.assign "PWD" (if l.isEmpty then "/" else String.join (l.map fun n => "/" ++ n.shown))
      return 0
    else cannot target
  | .error _ => cannot target
where
  /-- The target is no directory. -/
  cannot (target : String) : Action Nat := do
    Action.grumble ("cd: can\x27t cd to " ++ target)
    return 2

/-- The name and the value of an argument such as `name=value`. -/
def binding (argument : String) : String × Option String :=
  let cs := argument.toList
  let name := cs.takeWhile (· != '=')
  (.ofList name,
    if name.length < cs.length then some (.ofList (cs.drop (name.length + 1))) else none)

/-- Sets variables, if there are values for them, and does something else to each of them; `name`
is the command. -/
def bindAll (name : String) (after : String → Action Unit) (arguments : List String) :
    Action Nat := do
  for argument in arguments do
    let (bound, value) := binding argument
    if let some v := value then
      Action.refuseReadOnly (name ++ ": ") bound
      Action.assign bound v
    after bound
  return 0

/-- Sets variables that get their old values back at the end of the function. -/
def bindLocal (arguments : List String) : Action Nat := do
  let some before := (← get).locals
    | Action.grumble "local: not in a function"
      throw (.exit 2)
  let vars := (← get).vars
  let old := arguments.map fun argument =>
    let (name, _) := binding argument
    (name, vars.lookup name)
  modify fun s => { s with locals := some (old ++ before) }
  bindAll "local" (fun _ => pure ()) arguments

/-- How many loops a command leaves: as many as its argument says, but no more than there are. -/
def loopCount (name : String) (arguments : List String) : Action Nat := do
  match arguments with
  | [] => return min 1 (← get).loops
  | text :: _ =>
    let n := text.toNat?.getD 0
    if n == 0 then
      Action.grumble s!"{name}: Illegal number: {text}"
      throw (.exit 2)
    return min n (← get).loops

/-- Ends loops; without a loop nothing happens. -/
def leaveLoop (name : String) (stop : Nat → Stop) (arguments : List String) : Action Nat := do
  let n ← loopCount name arguments
  if n == 0 then return 0 else throw (stop n)

/-- The letters of the options. -/
def optionLetters : List Char :=
  ['e', 'f', 'I', 'i', 'm', 'n', 's', 'x', 'v', 'V', 'E', 'C', 'a', 'b', 'u']

/-- The names of the options, with their letters. -/
def optionNames : List (String × Char) := [
  ("errexit", 'e'), ("noglob", 'f'), ("noexec", 'n'), ("xtrace", 'x'), ("verbose", 'v'),
  ("noclobber", 'C'), ("allexport", 'a'), ("notify", 'b'), ("nounset", 'u')]

/-- Turns an option on or off. -/
def setOption (on : Bool) (c : Char) : Action Unit :=
  modify fun s =>
    let others := s.options.filter (· != c)
    { s with options := if on then others ++ [c] else others }

/-- Turns the options of letters on or off. -/
def setOptions (on : Bool) (letters : List Char) : Action Unit := do
  for c in letters do
    unless optionLetters.contains c do
      Action.grumble s!"set: Illegal option -{c}"
      throw (.exit 2)
    setOption on c

/-- Turns the option with a name on or off. -/
def setNamed (on : Bool) (name : String) : Action Unit := do
  match optionNames.lookup name with
  | some c => setOption on c
  | none =>
    let sign := if on then "-" else "+"
    Action.grumble s!"set: Illegal option {sign}o {name}"
    throw (.exit 2)

/-- Sets options and parameters. A group of letters that ends in an `o` is followed by a name. -/
def set_ : List String → Action Unit
  | [] => return
  | "--" :: rest => modify fun s => { s with parameters := rest }
  | argument :: rest =>
    match argument.toList with
    | sign :: letters =>
      let on := sign == '-'
      if (!on && sign != '+') || letters.isEmpty then
        modify fun s => { s with parameters := argument :: rest }
      else if letters.getLast? == some 'o' then
        match rest with
        | name :: rest => do
          setOptions on letters.dropLast
          setNamed on name
          set_ rest
        | [] => setOptions on letters.dropLast
      else do
        setOptions on letters
        set_ rest
    | [] => modify fun s => { s with parameters := argument :: rest }

/-- Removes variables and functions. -/
def unset (arguments : List String) : Action Nat := do
  for name in arguments do
    if name == "-f" || name == "-v" then continue
    Action.refuseReadOnly "unset: " name
    Action.unset name
    modify fun s => { s with functions := s.functions.filter fun (other, _) => other != name }
  return 0

/-- Removes the backslashes from a line. -/
def unescaped : List Char → List Char
  | '\\' :: c :: cs => c :: unescaped cs
  | c :: cs => c :: unescaped cs
  | [] => []

/-- Reads a line into variables. The status tells whether the line was complete. -/
def read (arguments : List String) : Action Nat := do
  let a := Tool.split ['p'] arguments
  let s ← get
  let bytes := s.input.takeWhile (· != 10)
  let complete := bytes.length < s.input.length
  set { s with input := s.input.drop (bytes.length + 1) }
  let line := Text.lenient bytes
  let line := if a.has 'r' then line else unescaped line
  let names := if a.operands.isEmpty then ["REPLY"] else a.operands
  let parts := splitLine (← separators) names.length line
  for (name, i) in names.zipIdx do
    if ← Action.isReadOnly name then
      Action.grumble s!"read: {name}: is read only"
      return 2
    Action.assign name (.ofList (parts[i]?.getD []))
  return if complete then 0 else 1

/-- The signals: their numbers, their names, and what is said of a process that one of them has
ended. -/
def signals : List (String × String × String) := [
  ("0", "EXIT", ""), ("1", "HUP", "Hangup"), ("2", "INT", ""), ("3", "QUIT", "Quit"),
  ("4", "ILL", "Illegal instruction"), ("6", "ABRT", "Aborted"),
  ("8", "FPE", "Floating point exception"), ("9", "KILL", "Killed"),
  ("10", "USR1", "User defined signal 1"), ("11", "SEGV", "Segmentation fault"),
  ("12", "USR2", "User defined signal 2"), ("13", "PIPE", ""), ("14", "ALRM", "Alarm clock"),
  ("15", "TERM", "Terminated"), ("17", "CHLD", ""), ("18", "CONT", "")]

/-- The name of a signal. -/
def signalName (s : String) : String :=
  let cs := s.toList
  let plain := if ['S', 'I', 'G'].isPrefixOf cs then String.ofList (cs.drop 3) else s
  match signals.lookup plain with
  | some (name, _) => name
  | none => plain

/-- What the parent of a process that a signal has ended makes of it: the status, and what is
said. -/
def afterSignal (name : String) : Nat × String :=
  match signals.find? fun (_, other, _) => other == name with
  | some (number, _, text) => (128 + number.toNat?.getD 0, text)
  | none => (128, "")

/-- Sets what happens when signals arrive. -/
def trap (arguments : List String) : Action Nat := do
  match arguments.filter (· != "--") with
  | script :: signals =>
    for signal in signals do
      let name := signalName signal
      modify fun s =>
        let others := s.traps.filter fun (n, _) => n != name
        { s with traps := if script == "-" then others else others ++ [(name, script)] }
    return 0
  | [] => return 0

/-- How `kill` is used. -/
def killUsage : String :=
  "kill: Usage: kill [-s sigspec | -signum | -sigspec] [pid | job]... or\nkill -l [exitstatus]"

/-- Sends a signal to the shell; `run` runs a script. -/
def kill (run : String → Action Unit) (arguments : List String) : Action Nat := do
  let refuse (message : String) (status : Nat) : Action Nat := do
    Action.grumble message
    return status
  if let ["-l", status] := arguments then
    let n := status.toNat?.getD 0
    Action.sayLine (signalName (toString (if 128 < n then n - 128 else n)))
    return 0
  let (signal, targets) := match arguments with
    | "-s" :: signal :: rest => (signal, rest)
    | "--" :: rest => ("TERM", rest)
    | argument :: rest =>
      match argument.toList with
      | '-' :: signal => (String.ofList signal, rest)
      | _ => ("TERM", arguments)
    | [] => ("TERM", [])
  let name := signalName signal
  if !signals.any fun (_, other, _) => other == name then
    return ← refuse s!"kill: Illegal option -{signal.take 1}" 2
  if targets.isEmpty then return ← refuse killUsage 2
  let own (target : String) : Bool := target == Action.processNumber || target == "0"
  if targets.any own then
    if name == "EXIT" || name == "CHLD" || name == "CONT" then return 0
    let trapped := (← get).traps.lookup name
    match if name == "KILL" then none else trapped with
    | some script =>
      run script
      return 0
    | none => throw (.killed name)
  else if targets.contains Action.jobNumber then
    -- A process in the background has done all that it does.
    return 0
  else
    for target in targets do
      match target.toList with
      | '%' :: _ => return ← refuse s!"kill: No such job: {target}" 2
      | _ =>
        if target.toInt?.isNone then
          return ← refuse s!"kill: Illegal number: {target}" 2
    refuse "kill: No such process\n" 1

/-- Waits for the commands in the background. -/
def wait (arguments : List String) : Action Nat := do
  let s ← get
  if s.clock < s.jobsEnd then
    if s.jobsEnd < s.deadline then set { s with clock := s.jobsEnd } else Action.expire
  return if arguments.isEmpty then 0 else s.jobStatus.getD 127

/-- The names of the commands that are part of the shell. -/
def names : List String := [
  ".", ":", "[", "break", "cd", "chdir", "command", "continue", "echo", "eval", "exec", "exit",
  "export", "false", "hash", "kill", "local", "printf", "pwd", "read", "readonly", "return", "set",
  "shift", "test", "trap", "true", "type", "ulimit", "umask", "unset", "wait"]

/-- What a name stands for. -/
inductive Meaning where
  | keyword
  | function
  | builtin
  /-- A program with its path. -/
  | program (path : String)
  deriving DecidableEq, Repr

/-- Tells what a name stands for. -/
def meaning? (name : String) : Action (Option Meaning) := do
  if Parser.reservedWords.contains name then return some .keyword
  else if ((← get).functions.lookup name).isSome then return some .function
  else if names.contains name then return some .builtin
  else if (tool? name).isSome || isShell name then
    return some (.program (if name == toolName name then "/usr/bin/" ++ name else name))
  else return none

/-- Runs a command that is part of the shell; none if there is no such command. `run` runs a
script, and `call` a command with its arguments. -/
def builtin? (run : String → Action Unit) (call : List String → Action Unit) (name : String)
    (arguments : List String) : Option (Action Nat) :=
  let statusAfter (action : Action Unit) : Action Nat := do
    action
    return (← get).status
  match name with
  | "exit" => some (exit arguments)
  | "return" => some (leave arguments)
  | "break" => some (leaveLoop "break" .leaveLoop arguments)
  | "continue" => some (leaveLoop "continue" .nextTurn arguments)
  | "shift" => some (shift arguments)
  | "cd" => some (cd arguments)
  | "chdir" => some (cd arguments)
  | "export" => some (bindAll "export" Action.export_ (arguments.filter (· != "-p")))
  | "readonly" => some (bindAll "readonly" Action.freeze (arguments.filter (· != "-p")))
  | "local" => some (bindLocal arguments)
  | "set" => some do
    set_ arguments
    return 0
  | "unset" => some (unset arguments)
  | "read" => some (read arguments)
  | "trap" => some (trap arguments)
  | "kill" => some (kill run arguments)
  | "wait" => some (wait arguments)
  | "eval" => some (statusAfter do
    setStatus 0
    run (" ".intercalate arguments))
  | "." => some (statusAfter do
    let path := arguments.headD ""
    if !path.toList.contains '/' then
      Action.grumble s!".: {path}: not found"
      throw (.exit 2)
    match ← Action.readFile path with
    | .ok b =>
      setStatus 0
      run (Text.lenientText b)
    | .error _ =>
      Action.grumble s!".: cannot open {path}: No such file"
      throw (.exit 2))
  | "command" =>
    match arguments with
    | "-v" :: rest => some do
      match ← meaning? (rest.headD "") with
      | some (.program path) => Action.sayLine path
      | some _ => Action.sayLine (rest.headD "")
      | none => return 127
      return 0
    | rest => some (statusAfter (call (rest.filter (· != "-p"))))
  | "type" => some do
    let name := arguments.headD ""
    match ← meaning? name with
    | some .keyword => Action.sayLine s!"{name} is a shell keyword"
    | some .function => Action.sayLine s!"{name} is a shell function"
    | some .builtin => Action.sayLine s!"{name} is a shell builtin"
    | some (.program path) => Action.sayLine s!"{name} is {path}"
    | none =>
      Action.sayLine s!"{name}: not found"
      return 127
    return 0
  | name => (ownTools.lookup name).map fun t => t arguments

end Builtin

end LabelForge.Shell
