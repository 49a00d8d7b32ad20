import LabelForge.FilePath
import LabelForge.FileTree

/-!
# LabelForge.Disk

**Files by path.** A disk is a file tree together with the directory from which relative paths
start. A path is walked step by step to the location it leads to.

Design points:

* One or two dots are steps from a directory that must be there, so `a/../b` and `a/.` need `a`.
* The last name of a path need not exist; the directory that holds it must.
* A slash at the end of a path asks for a directory, so no file is found or written there.
* Names and paths have a greatest length in bytes, and no NUL.
* Making a directory makes the directories on the way first. Those that were made stay, even if
  a later one cannot be made.
-/

namespace LabelForge

open Text (Bytes)

/-- A file tree and the directory in which a process works. -/
structure Disk where
  files : FileTree
  cwd : Location := []
  deriving DecidableEq, Repr, Inhabited

namespace Disk

/-- How many bytes a name may have. -/
def maxName : Nat := 255

/-- How many bytes a path may have. -/
def maxPath : Nat := 4095

/-- Follows one step from a location, which must be a directory. -/
def follow (files : FileTree) (l : Location) (s : FilePath.Step) : Except OsError Location :=
  match files.at? l with
  | none => .error .notFound
  | some (.directory _) =>
    match s with
    | .up => .ok l.dropLast
    | .stay => .ok l
    | .down name =>
      if maxName < name.utf8ByteSize then .error .tooLong else .ok (l ++ [.text name])
  | some _ => .error .notDirectory

/-- Follows some of the steps of a path. -/
def walkSteps (d : Disk) (p : FilePath) (steps : List FilePath.Step) : Except OsError Location :=
  if p.text.contains '\x00' then .error .nulInPath
  else if p.text.isEmpty then .error .notFound
  else if maxPath < p.text.utf8ByteSize then .error .tooLong
  else steps.foldlM (follow d.files) (if p.isAbsolute then [] else d.cwd)

/-- Follows the steps of a path. -/
def walk (d : Disk) (p : FilePath) : Except OsError Location :=
  d.walkSteps p p.steps

/-- The location that a path leads to. -/
def locate (d : Disk) (p : FilePath) : Except OsError Location := do
  let l ← d.walk p
  if p.endsInSlash && (d.files.at? l).isSome && !d.files.isDirAt l then throw .notDirectory
  return l

/-- Whether a path leads to a directory. -/
def isDir (d : Disk) (p : FilePath) : Bool :=
  match d.locate p with
  | .ok l => d.files.isDirAt l
  | .error _ => false

/-- Whether a path leads to a file. -/
def isFile (d : Disk) (p : FilePath) : Bool :=
  match d.locate p with
  | .ok l => d.files.isFileAt l
  | .error _ => false

/-- The bytes of the file that a path leads to. -/
def read (d : Disk) (p : FilePath) : Except OsError Bytes := do
  d.files.read (← d.locate p)

/-- The text of the file that a path leads to. -/
def readText (d : Disk) (p : FilePath) : Except OsError String := do
  d.files.readText (← d.locate p)

/-- The location of a file to write. A slash at the end is refused before the last name is looked
at. -/
def target (d : Disk) (p : FilePath) : Except OsError Location := do
  if p.endsInSlash then
    let l ← d.walkSteps p p.steps.dropLast
    let _ ← follow d.files l .stay
    throw .isDirectory
  let l ← d.walk p
  if d.files.isDirAt l then throw .isDirectory
  return l

/-- Writes the file that a path leads to. -/
def write (d : Disk) (p : FilePath) (content : Bytes) : Except OsError Disk := do
  return { d with files := ← d.files.write (← d.target p) content }

/-- Makes the directory that a path leads to. -/
def makeDir (d : Disk) (p : FilePath) : Except OsError Disk := do
  return { d with files := ← d.files.makeDir (← d.walk p) }

/-- Makes a directory after those on the way have been made; one that is there is fine. -/
def makeLast (d : Disk) (p : FilePath) : Except OsError Unit × Disk :=
  match d.makeDir p with
  | .ok d => (.ok (), d)
  | .error e => (if d.isDir p then .ok () else .error e, d)

/-- Makes the directory that a path leads to, and at most `depth` directories on the way. -/
def makeDirsTo (p : FilePath) : Nat → Disk → Except OsError Unit × Disk
  | 0, d => (.error .notFound, d)
  | depth + 1, d =>
    if p.text.isEmpty then (.ok (), d)
    else match d.makeDir p with
      | .error .notFound =>
        match p.parent? with
        | none => (.error .notFound, d)
        | some parent =>
          match makeDirsTo parent depth d with
          | (.error e, d) => (.error e, d)
          | (.ok (), d) => d.makeLast p
      | _ => d.makeLast p

/-- Makes the directory that a path leads to, and the directories on the way. Returns the disk
even on a failure, as directories may have been made by then. -/
def makeDirs (d : Disk) (p : FilePath) : Except OsError Unit × Disk :=
  makeDirsTo p (p.steps.length + 2) d

/-- Makes the directories on the way to a file and writes it. -/
def writeWithParents (d : Disk) (p : FilePath) (content : Bytes) : Except OsError Disk :=
  match p.parent? with
  | none => d.write p content
  | some parent =>
    match d.makeDirs parent with
    | (.error e, _) => .error e
    | (.ok (), d) => d.write p content

end Disk

end LabelForge
