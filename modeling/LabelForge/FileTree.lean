import LabelForge.Text.Utf8

/-!
# LabelForge.FileTree

**A file system as a tree.** A node is a file with its bytes, a device, or a directory with
named entries. A *location* is the list of names that leads from the root to a node; every
operation is a recursion along it.

Design points:

* Operations fail with the cause that the operating system would give, and then change nothing.
* Renaming is one step. A directory may be renamed onto an empty directory only.
-/

namespace LabelForge

open Text (Bytes)

/-- A name in a directory. -/
inductive FileName where
  /-- A name that is text. -/
  | text (name : String)
  /-- A name whose bytes are no text. -/
  | raw (bytes : Bytes)
  deriving DecidableEq, Repr

instance : Coe String FileName := ⟨.text⟩

/-- The name as it is shown. -/
def FileName.shown : FileName → String
  | .text name => name
  | .raw bytes => Text.lenientText bytes

/-- The name of some bytes. -/
def FileName.ofBytes (bytes : Bytes) : FileName :=
  match Text.textOf? bytes with
  | some name => .text name
  | none => .raw bytes

/-- The names from the root to a node. -/
abbrev Location := List FileName

/-- The names that the bytes of a path consist of. -/
def Location.ofBytes (path : Bytes) : Location :=
  ((path.splitOn 0x2F).filter fun name => !name.isEmpty).map FileName.ofBytes

/-- Why an operation on files failed. -/
inductive OsError where
  | notFound
  | ioFailure
  | tooLong
  | notExecutable
  | noPermission
  | exists
  | notDirectory
  | isDirectory
  | invalidArgument
  | noSpace
  | notEmpty
  /-- The bytes of a file are no text. -/
  | notText
  /-- A path has the character NUL in it. -/
  | nulInPath
  /-- What a process is given has the character NUL in it. -/
  | nulInArgument
  deriving DecidableEq, Repr

/-- What went wrong, in words. -/
def OsError.reason : OsError → String
  | .notFound => "No such file or directory"
  | .ioFailure => "Input/output error"
  | .tooLong => "File name too long"
  | .notExecutable => "Exec format error"
  | .noPermission => "Permission denied"
  | .exists => "File exists"
  | .notDirectory => "Not a directory"
  | .isDirectory => "Is a directory"
  | .invalidArgument => "Invalid argument"
  | .noSpace => "No space left on device"
  | .notEmpty => "Directory not empty"
  | .notText => "stream did not contain valid UTF-8"
  | .nulInPath => "file name contained an unexpected NUL byte"
  | .nulInArgument => "nul byte found in provided data"

/-- The number of a failure; none if it is not the operating system that fails. -/
def OsError.number? : OsError → Option Nat
  | .notFound => some 2
  | .ioFailure => some 5
  | .tooLong => some 36
  | .notExecutable => some 8
  | .noPermission => some 13
  | .exists => some 17
  | .notDirectory => some 20
  | .isDirectory => some 21
  | .invalidArgument => some 22
  | .noSpace => some 28
  | .notEmpty => some 39
  | .notText | .nulInPath | .nulInArgument => none

/-- The message of a failure: the reason, and its number in brackets. -/
def OsError.message (e : OsError) : String :=
  match e.number? with
  | some n => s!"{e.reason} (os error {n})"
  | none => e.reason

/-- A device. -/
inductive Device where
  /-- Takes everything and holds nothing. -/
  | null
  /-- Takes nothing. -/
  | full
  deriving DecidableEq, Repr

mutual

/-- A file, a device or a directory. -/
inductive FileTree where
  | file (content : Bytes)
  | device (kind : Device)
  | directory (entries : FileTree.Entries)

/-- The entries of a directory. -/
inductive FileTree.Entries where
  | none
  | entry (name : FileName) (node : FileTree) (rest : FileTree.Entries)

end

namespace FileTree

deriving instance DecidableEq for FileTree, Entries
deriving instance Repr for FileTree, Entries

/-- A directory without entries. -/
def empty : FileTree := .directory .none

instance : Inhabited FileTree := ⟨empty⟩

/-! ### Entries -/

namespace Entries

/-- The entry of a name. -/
def find? (name : FileName) : Entries → Option FileTree
  | .none => Option.none
  | .entry other node rest => if other = name then some node else rest.find? name

/-- Sets the entry of a name. -/
def set (name : FileName) (node : FileTree) : Entries → Entries
  | .none => .entry name node .none
  | .entry other old rest =>
    if other = name then .entry name node rest else .entry other old (rest.set name node)

/-- Removes the entry of a name. -/
def erase (name : FileName) : Entries → Entries
  | .none => .none
  | .entry other node rest =>
    if other = name then rest.erase name else .entry other node (rest.erase name)

/-- The names of the entries. -/
def names : Entries → List FileName
  | .none => []
  | .entry name _ rest => name :: rest.names

/-- The entries as pairs. -/
def toList : Entries → List (FileName × FileTree)
  | .none => []
  | .entry name node rest => (name, node) :: rest.toList

@[simp] theorem find?_none (name : FileName) : Entries.none.find? name = Option.none := rfl

theorem find?_set_self (name : FileName) (node : FileTree) (es : Entries) :
    (es.set name node).find? name = some node := by
  induction es using Entries.rec (motive_1 := fun _ => True) with
  | none => simp [set, find?]
  | entry other old rest _ ih =>
    by_cases h : other = name
    · simp [set, find?, h]
    · simp [set, find?, h, ih]
  | _ => trivial

theorem find?_set_ne {name other : FileName} (h : other ≠ name) (node : FileTree) (es : Entries) :
    (es.set name node).find? other = es.find? other := by
  induction es using Entries.rec (motive_1 := fun _ => True) with
  | none => simp [set, find?, Ne.symm h]
  | entry third old rest _ ih =>
    by_cases h' : third = name
    · subst h'
      simp [set, find?, Ne.symm h]
    · simp [set, find?, h', ih]
  | _ => trivial

theorem find?_erase_ne {name other : FileName} (h : other ≠ name) (es : Entries) :
    (es.erase name).find? other = es.find? other := by
  induction es using Entries.rec (motive_1 := fun _ => True) with
  | none => rfl
  | entry third old rest _ ih =>
    by_cases h' : third = name
    · subst h'
      simp [erase, find?, Ne.symm h, ih]
    · simp [erase, find?, h', ih]
  | _ => trivial

theorem find?_erase_self (name : FileName) (es : Entries) :
    (es.erase name).find? name = Option.none := by
  induction es using Entries.rec (motive_1 := fun _ => True) with
  | none => rfl
  | entry other old rest _ ih =>
    by_cases h : other = name
    · simp [erase, h, ih]
    · simp [erase, find?, h, ih]
  | _ => trivial

end Entries

/-! ### Nodes -/

/-- Whether a node is a directory. -/
def isDir : FileTree → Bool
  | .directory _ => true
  | _ => false

/-- The entry of a name below a node. -/
def child? (name : FileName) : FileTree → Option FileTree
  | .directory entries => entries.find? name
  | _ => none

/-- The node at a location. -/
def at? : FileTree → Location → Option FileTree
  | t, [] => some t
  | t, name :: rest =>
    match t.child? name with
    | some node => node.at? rest
    | none => none

/-- Puts a node at a location, in the place of whatever is there. The directory that holds the
location must exist; otherwise nothing changes. -/
def put : FileTree → Location → FileTree → FileTree
  | _, [], node => node
  | .directory entries, name :: [], node => .directory (entries.set name node)
  | .directory entries, name :: next :: rest, node =>
    match entries.find? name with
    | some child => .directory (entries.set name (child.put (next :: rest) node))
    | none => .directory entries
  | t, _, _ => t

/-- Removes the node at a location, if there is one. -/
def remove : FileTree → Location → FileTree
  | .directory entries, name :: [] => .directory (entries.erase name)
  | .directory entries, name :: next :: rest =>
    match entries.find? name with
    | some child => .directory (entries.set name (child.remove (next :: rest)))
    | none => .directory entries
  | t, _ => t

/-- Whether there is a directory at a location. -/
def isDirAt (t : FileTree) (l : Location) : Bool :=
  match t.at? l with
  | some node => node.isDir
  | none => false

/-- Whether there is a file at a location. -/
def isFileAt (t : FileTree) (l : Location) : Bool :=
  match t.at? l with
  | some (.file _) => true
  | _ => false

/-- What stands in the way of making an entry at a location: its directory must exist. -/
def parentFault (t : FileTree) (l : Location) : Option OsError :=
  match t.at? l.dropLast with
  | some (.directory _) => none
  | some _ => some .notDirectory
  | none => some .notFound

/-! ### Operations -/

/-- The bytes of the file at a location. -/
def read (t : FileTree) (l : Location) : Except OsError Bytes :=
  match t.at? l with
  | some (.file content) => .ok content
  | some (.device .null) => .ok []
  | some (.device .full) => .ok []
  | some (.directory _) => .error .isDirectory
  | none => .error ((t.parentFault l).getD .notFound)

/-- The text of the file at a location. -/
def readText (t : FileTree) (l : Location) : Except OsError String := do
  match Text.textOf? (← t.read l) with
  | some s => return s
  | none => throw .notText

/-- Writes a file, in the place of the file that is there. -/
def write (t : FileTree) (l : Location) (content : Bytes) : Except OsError FileTree :=
  match t.at? l with
  | some (.directory _) => .error .isDirectory
  | some (.device .null) => .ok t
  | some (.device .full) => if content.isEmpty then .ok t else .error .noSpace
  | some (.file _) => .ok (t.put l (.file content))
  | none =>
    match t.parentFault l with
    | some e => .error e
    | none => .ok (t.put l (.file content))

/-- Makes a directory. -/
def makeDir (t : FileTree) (l : Location) : Except OsError FileTree :=
  match t.at? l with
  | some _ => .error .exists
  | none =>
    match t.parentFault l with
    | some e => .error e
    | none => .ok (t.put l empty)

/-- Makes a directory after the directories on the way; the names come last first. -/
def makeDirsBack : Location → FileTree → Except OsError FileTree
  | [], t => if t.isDir then .ok t else .error .exists
  | name :: parents, t =>
    let l := (name :: parents).reverse
    match t.makeDir l with
    | .ok t => .ok t
    | .error .notFound => do (← makeDirsBack parents t).makeDir l
    | .error e => if t.isDirAt l then .ok t else .error e

/-- Makes a directory and the directories on the way; one that is there is fine. -/
def makeDirs (t : FileTree) (l : Location) : Except OsError FileTree :=
  makeDirsBack l.reverse t

/-- Renames a node. What is at the target gives way if it is a file, or an empty directory for a
directory. -/
def rename (t : FileTree) (source target : Location) : Except OsError FileTree :=
  match t.at? source with
  | none => .error .notFound
  | some node =>
    match t.parentFault target with
    | some e => .error e
    | none =>
      match t.at? target with
      | none => .ok ((t.remove source).put target node)
      | some (.directory .none) =>
        if node.isDir then .ok ((t.remove source).put target node) else .error .isDirectory
      | some (.directory _) => .error (if node.isDir then .notEmpty else .isDirectory)
      | some _ =>
        if node.isDir then .error .notDirectory else .ok ((t.remove source).put target node)

/-- Removes a directory with everything below it. -/
def removeDir (t : FileTree) (l : Location) : Except OsError FileTree :=
  match t.at? l with
  | none => .error .notFound
  | some (.directory _) => .ok (t.remove l)
  | some _ => .error .notDirectory

/-- The paths of the nodes below some entries, with a slash behind a directory. -/
def Entries.paths (start : String) : Entries → List String
  | .none => []
  | .entry name node rest =>
    let path := start ++ name.shown
    (match node with
      | .directory entries => (path ++ "/") :: entries.paths (path ++ "/")
      | _ => [path]) ++ rest.paths start

/-- The paths of the nodes below a directory in the order of their texts, with a slash behind a
directory. -/
def pathsBelow (t : FileTree) (l : Location) : List String :=
  match t.at? l with
  | some (.directory entries) => (entries.paths "").mergeSort fun a b => (compare a b).isLE
  | _ => []

/-- The names in a directory. They are read in the order of their texts. -/
def list (t : FileTree) (l : Location) : Except OsError (List FileName) :=
  match t.at? l with
  | none => .error .notFound
  | some (.directory entries) =>
    .ok (entries.names.mergeSort fun a b => (compare a.shown b.shown).isLE)
  | some _ => .error .notDirectory

end FileTree

end LabelForge
