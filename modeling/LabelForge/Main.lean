import LabelForge.CommandLine.Answer

/-!
# LabelForge.Main

**The program.** The files that a command names are loaded into a tree, the command is answered
on that tree, and what has changed in the tree is written back.
-/

namespace LabelForge.Main

open Text (Bytes)

/-- How deep directories are loaded and written. -/
def depth : Nat := 64

/-- The paths of a command's files and directories. -/
def pathsOf : Command → List FilePath
  | .compile o expect emit => engine o ++ expect.toList ++ emit.toList
  | .run o => engine o
  | .apply plan input output _ => [plan, input, output]
  | .digest input => [input]
  | .artifacts store => [store]
where
  engine (o : EngineOptions) : List FilePath :=
    [o.rules, o.input, o.store] ++ o.config.toList ++ o.workdir.toList ++ o.output.toList

/-- The location of a path that need not exist. -/
def locationOf (cwd : Location) (p : FilePath) : Location :=
  p.steps.foldl (fun l s => match s with
    | .up => l.dropLast
    | .stay => l
    | .down name => l ++ [.text name]) (if p.isAbsolute then [] else cwd)

/-- Loads a file, or a directory to some depth. -/
def load : Nat → String → IO (Option FileTree)
  | 0, _ => return none
  | depth + 1, path => do
    try
      let real ← IO.FS.realPath path
      if ← real.isDir then
        let mut entries : FileTree.Entries := .none
        for entry in ← real.readDir do
          if let some node ← load depth (path ++ "/" ++ entry.fileName) then
            entries := .entry (.text entry.fileName) node entries
        return some (.directory entries)
      else return some (.file (← IO.FS.readBinFile path).toList)
    catch _ => return none

/-- Loads what is at a location to a number of levels, and the kind of everything on the way. -/
def mount (levels : Nat) (l : Location) (files : FileTree) : IO FileTree := do
  let mut files := files
  for n in List.range l.length do
    let outer := l.take (n + 1)
    let isLast := n + 1 == l.length
    if isLast || (files.at? outer).isNone then
      if let some node ← load (if isLast then levels else 1) (Location.path outer).text then
        files := files.put outer node
  return files

/-- Writes a node in the place of another one, where they differ. -/
def save : Nat → String → Option FileTree → FileTree → IO Unit
  | 0, _, _, _ => return
  | depth + 1, path, before, after => do
    if before == some after then return
    match after with
    | .file content => IO.FS.writeBinFile path ⟨content.toArray⟩
    | .device _ => return
    | .directory entries =>
      if !path.isEmpty then IO.FS.createDirAll path
      let old := before.elim [] fun node => match node with
        | .directory entries => entries.toList
        | _ => []
      for (name, node) in old do
        if (entries.find? name).isNone then
          let target := path ++ "/" ++ name.shown
          if node.isDir then IO.FS.removeDirAll target else IO.FS.removeFile target
      for (name, node) in entries.toList do
        save depth (path ++ "/" ++ name.shown) (old.lookup name) node

/-- The environment of the program. -/
def environment : IO (List (String × String)) := do
  try
    let bytes := (← IO.FS.readBinFile "/proc/self/environ").toList
    return (bytes.splitOn 0).filterMap fun entry =>
      match entry.splitOn 0x3D with
      | name :: value@(_ :: _) =>
        some (Text.lenientText name, Text.lenientText (List.intercalate [0x3D] value))
      | _ => none
  catch _ => return []

/-- The time, which is that of a file made just now. -/
def now : IO Moment := do
  let (_, path) ← IO.FS.createTempFile
  let time := (← path.metadata).modified
  IO.FS.removeFile path
  return ⟨time.sec, time.nsec.toNat⟩

end LabelForge.Main

open LabelForge in
/-- Answers a command line. -/
def main (words : List String) : IO UInt32 := do
  let cwd := Main.locationOf [] ⟨(← IO.currentDir).toString⟩
  let mark := toString (← IO.rand 0 (10 ^ 12))
  let paths := match Invocation.parse words with
    | .ok i => Main.pathsOf i.command ++ i.messages.file.toList
    | .error _ => []
  let mut files ← Main.mount 1 cwd (FileTree.empty.put ["tmp"] .empty)
  for p in paths do
    files ← Main.mount Main.depth (Main.locationOf cwd p) files
  let start : Surroundings := {
    host := CommandLine.noHost, environment := ← Main.environment
    executable := (← IO.appPath).toString, stamp := ⟨← Main.now, mark⟩
    sessionName := "session-" ++ mark, privateRoot := ⟨"/tmp/rulesmith-" ++ mark⟩ }
  let (printed, after) := CommandLine.answer { start with host := CommandLine.selfHost start }
    words ⟨files, cwd⟩
  Main.save Main.depth "" (some files) after.files
  IO.print printed.stdout
  IO.eprint printed.stderr
  return printed.exitCode.toUInt32
