import LabelForge.Shell.Tool.Basic

/-!
# LabelForge.Shell.Tool.Files

**Tools for files.** They make, copy, move, remove and list what is on the disk.
-/

namespace LabelForge.Shell.Tool

open Text (Bytes)

/-- The path of a file of the given name in a directory, or the path itself. -/
def targetIn (target source : String) : Action String := do
  if (← get).disk.isDir ⟨target⟩ then
    return ((FilePath.mk target).child (((FilePath.mk source).fileName?).getD "")).text
  else return target

/-- Copies one file or directory. -/
def copyOne (recursive : Bool) (source target : String) : Action (Except String Unit) := do
  let disk := (← get).disk
  match disk.locate ⟨source⟩ with
  | .error e => return .error s!"cp: cannot stat {quoted source}: {e.reason}"
  | .ok l =>
    match disk.files.at? l with
    | none => return .error s!"cp: cannot stat {quoted source}: {OsError.notFound.reason}"
    | some (.directory entries) =>
      unless recursive do
        return .error s!"cp: -r not specified; omitting directory {quoted source}"
      match disk.locate ⟨target⟩ with
      | .error e => return .error s!"cp: cannot create directory {quoted target}: {e.reason}"
      | .ok there =>
        let copied := fun (d : Disk) => { d with files := d.files.put there (.directory entries) }
        modify fun s => { s with disk := copied s.disk }
        return .ok ()
    | some _ =>
      if (disk.locate ⟨target⟩).toOption == some l then
        return .error s!"cp: {quoted source} and {quoted target} are the same file"
      match disk.files.read l with
      | .error e => return .error s!"cp: cannot open {quoted source} for reading: {e.reason}"
      | .ok content =>
        match ← Action.onDisk fun d => d.write ⟨target⟩ content with
        | .ok () => return .ok ()
        | .error e => return .error s!"cp: cannot create regular file {quoted target}: {e.reason}"

/-- Moves one file or directory. -/
def moveOne (source target : String) : Action (Except String Unit) := do
  let disk := (← get).disk
  let moved : Except OsError Disk := do
    let l ← disk.locate ⟨source⟩
    let there ← disk.locate ⟨target⟩
    if (disk.files.at? l).isNone then throw .notFound
    return { disk with files := ← disk.files.rename l there }
  match disk.locate ⟨source⟩, moved with
  | .ok l, .ok d =>
    if (disk.files.at? l).isNone then
      return .error s!"mv: cannot stat {quoted source}: {OsError.notFound.reason}"
    set { ← get with disk := d }
    return .ok ()
  | .ok l, .error e =>
    if (disk.files.at? l).isNone then
      return .error s!"mv: cannot stat {quoted source}: {OsError.notFound.reason}"
    return .error s!"mv: cannot move {quoted source} to {quoted target}: {e.reason}"
  | .error e, _ => return .error s!"mv: cannot stat {quoted source}: {e.reason}"

/-- A tool with sources and a target behind them. -/
def towards (tool : String) (operands : List String)
    (one : String → String → Action (Except String Unit)) : Action Nat := do
  match operands.reverse with
  | [] =>
    Action.complain s!"{tool}: missing file operand"
    Action.fail (hint tool)
  | [only] =>
    Action.complain s!"{tool}: missing destination file operand after {quoted only}"
    Action.fail (hint tool)
  | target :: sources =>
    forEach sources.reverse fun source => do one source (← targetIn target source)

/-- Copies files. -/
def cp : Tool := fun arguments =>
  let a := split [] arguments
  towards "cp" a.operands (copyOne (a.has 'r' || a.has 'R' || a.has 'a'))

/-- Moves files. -/
def mv : Tool := fun arguments => towards "mv" (split [] arguments).operands moveOne

/-- Removes files. -/
def rm : Tool := fun arguments =>
  let a := split [] arguments
  let recursive := a.has 'r' || a.has 'R'
  let each := if a.has 'f' then forEach a.operands else atLeastOne "rm" "operand" a.operands
  each fun path => do
    let disk := (← get).disk
    let found : Except OsError Location := do
      let l ← disk.locate ⟨path⟩
      match disk.files.at? l with
      | none => throw .notFound
      | some (.directory _) => if recursive then pure l else throw .isDirectory
      | some _ => pure l
    match found with
    | .ok l =>
      set { ← get with disk := { disk with files := disk.files.remove l } }
      return .ok ()
    | .error e =>
      if a.has 'f' && e == .notFound then return .ok ()
      return .error s!"rm: cannot remove {quoted path}: {e.reason}"

/-- Makes directories. -/
def mkdir : Tool := fun arguments =>
  let a := split ['m'] arguments
  atLeastOne "mkdir" "operand" a.operands fun path => do
    let made ← if a.has 'p' then do
        let (r, disk) := (← get).disk.makeDirs ⟨path⟩
        modify fun s => { s with disk }
        pure r
      else Action.onDisk fun d => d.makeDir ⟨path⟩
    return made.mapError fun e => s!"mkdir: cannot create directory {quoted path}: {e.reason}"

/-- Removes empty directories. -/
def rmdir : Tool := fun arguments =>
  atLeastOne "rmdir" "operand" (split [] arguments).operands fun path => do
    let removed ← Action.onDisk fun d => do
      let l ← d.locate ⟨path⟩
      match d.files.at? l with
      | none => throw .notFound
      | some (.directory .none) => return { d with files := d.files.remove l }
      | some (.directory _) => throw .notEmpty
      | some _ => throw .notDirectory
    return removed.mapError fun e => s!"rmdir: failed to remove {quoted path}: {e.reason}"

/-- Makes files that are not there. -/
def touch : Tool := fun arguments =>
  let a := split ['d', 't', 'r'] arguments
  atLeastOne "touch" "file operand" a.operands fun path => do
    let touched ← Action.onDisk fun d => do
      let l ← d.locate ⟨path⟩
      if (d.files.at? l).isSome || a.has 'c' then return d else d.write ⟨path⟩ []
    return touched.mapError fun e => s!"touch: cannot touch {quoted path}: {e.reason}"

/-- Changes who may use files, which makes no difference to who may do everything. -/
def chmod : Tool := fun arguments =>
  let operands := arguments.filter fun s => s.toList.head? != some '-' || s.length == 1
  forEach (operands.drop 1) fun path => do
    let d := (← get).disk
    match d.locate ⟨path⟩ with
    | .ok l =>
      if (d.files.at? l).isSome then return .ok ()
      else return .error s!"chmod: cannot access {quoted path}: {OsError.notFound.reason}"
    | .error e => return .error s!"chmod: cannot access {quoted path}: {e.reason}"

/-- Makes a link to a file, which is a copy of it. A symbolic link to nothing leaves nothing. -/
def linkOne (symbolic : Bool) (source target : String) : Action (Except String Unit) := do
  let d := (← get).disk
  let kind := if symbolic then "symbolic link" else "hard link"
  if ((d.locate ⟨target⟩).toOption.bind d.files.at?).isSome then
    return .error s!"ln: failed to create {kind} {quoted target}: File exists"
  match (d.locate ⟨source⟩).toOption.bind d.files.at?, d.locate ⟨target⟩ with
  | some node, .ok there =>
    modify fun s => { s with disk := { d with files := d.files.put there node } }
    return .ok ()
  | none, .ok _ =>
    if symbolic then return .ok ()
    else return .error s!"ln: failed to access {quoted source}: {OsError.notFound.reason}"
  | _, .error e => return .error s!"ln: failed to create {kind} {quoted target}: {e.reason}"

/-- Makes links. -/
def ln : Tool := fun arguments =>
  let a := split [] arguments
  towards "ln" a.operands (linkOne (a.has 's'))

/-- Lists directories. -/
def ls : Tool := fun arguments => do
  let a := split [] arguments
  let operands := if a.operands.isEmpty then ["."] else a.operands
  let disk := (← get).disk
  let kind (path : String) : Option FileTree := (disk.locate ⟨path⟩).toOption.bind disk.files.at?
  let mut fine := true
  let mut files := #[]
  let mut directories := #[]
  for path in operands do
    match kind path with
    | none =>
      fine := false
      let cause := match disk.locate ⟨path⟩ with
        | .ok _ => OsError.notFound
        | .error e => e
      Action.complain s!"ls: cannot access {quoted path}: {cause.reason}"
    | some (.directory entries) =>
      if a.has 'd' then files := files.push path
      else
        let names := entries.names.map FileName.shown
        let names := if a.has 'a' then "." :: ".." :: names else names
        let shown := names.filter fun name =>
          a.has 'a' || a.has 'A' || name.toList.head? != some '.'
        directories := directories.push (path, shown)
    | some _ => files := files.push path
  let sorted (names : List String) : List String := names.mergeSort fun x y => (compare x y).isLE
  for file in sorted files.toList do Action.sayLine file
  let headed := operands.length > 1
  let mut first := files.isEmpty
  for (path, names) in directories do
    unless first do Action.sayLine ""
    first := false
    if headed then Action.sayLine (path ++ ":")
    for name in sorted names do Action.sayLine name
  return if fine then 0 else 2

/-- Prints files one after the other, with the numbers of the lines if that is wanted. -/
def cat : Tool := fun arguments => do
  let a := split [] arguments
  let (found, fine) ← contents "cat" a.operands
  let all := found.flatMap id
  if a.has 'n' then
    let numbered := ((linesOf all).zipIdx 1).map fun (l, i) =>
      let number := toString i
      Text.bytesOf ("".pushn ' ' (6 - number.length) ++ number ++ "\t") ++ l
    let ended := all.isEmpty || all.getLast? == some 10
    Action.out (if ended then ofLines numbered else (ofLines numbered).dropLast)
  else Action.out all
  return statusOf fine

/-- Prints its input, and writes it to files as well. -/
def tee : Tool := fun arguments => do
  let a := split [] arguments
  let input := (← Action.readFile "-").toOption.getD []
  Action.out input
  forEach a.operands fun path => do
    let written ← Action.onDisk fun d =>
      d.write ⟨path⟩ ((if a.has 'a' then (d.read ⟨path⟩).toOption.getD [] else []) ++ input)
    return written.mapError fun e => s!"tee: {path}: {e.reason}"

/-- Prints the last name of a path. -/
def basename : Tool := fun arguments => do
  let name (path : String) : String :=
    ((FilePath.mk path).fileName?).getD (if path.isEmpty then "" else "/")
  match arguments with
  | [path] => Action.sayLine (name path)
  | path :: ending :: _ =>
    let cs := (name path).toList
    let cut := ending.toList.reverse.isPrefixOf cs.reverse && cs != ending.toList
    Action.sayLine (if cut then .ofList (cs.take (cs.length - ending.length)) else name path)
  | [] => return ← Action.fail "basename: missing operand"
  return 0

/-- Prints a path without its last name. -/
def dirname : Tool := fun arguments =>
  forEach arguments fun path => do
    let parent := ((FilePath.mk path).parent?).elim (if path.isEmpty then "." else "/") fun p =>
      if p.text.isEmpty then "." else p.text
    Action.sayLine parent
    return .ok ()

end LabelForge.Shell.Tool
