import LabelForge.Artifact
import LabelForge.Disk
import LabelForge.FileScript

/-!
# LabelForge.Store

**The store of verified programs.** Below its root the store has one directory per fingerprint,
with the program and its manifest. An entry is written to a hidden directory beside it and then
renamed into place, so nobody ever sees half an entry.

Design points:

* Every operation is a `FileScript`, a tree of single file operations; what it does alone, next
  to other processes, or up to a crash are three ways of running the same script.
* An entry is kept once it is there. It is replaced only on request, by renaming it out of the
  way first.
* The hidden directories carry a tag that no other process and no other moment has.
-/

namespace LabelForge

/-- What the store was doing. -/
inductive StoreStep where
  | create
  | read
  | write
  | retire
  | rename
  | list
  deriving DecidableEq, Repr

/-- The word for a step in messages. -/
def StoreStep.label : StoreStep → String
  | .create => "create"
  | .read => "read"
  | .write => "write"
  | .retire => "retire"
  | .rename => "rename"
  | .list => "list"

/-- Why an entry is damaged. -/
inductive Damage where
  /-- Its manifest is no manifest document. -/
  | badManifest (fault : Json.Fault)
  /-- Its manifest belongs to another fingerprint. -/
  | foreignManifest (named : Fingerprint)
  /-- Its program is not the one that was verified. -/
  | alteredProgram
  deriving DecidableEq, Repr

/-- The message of a damage. -/
def Damage.message : Damage → String
  | .badManifest fault => fault.message
  | .foreignManifest named => s!"manifest names fingerprint {named.text}"
  | .alteredProgram => "program does not match its manifest digest"

/-- Why a store operation failed. -/
inductive StoreError where
  /-- The file system refused. -/
  | io (step : StoreStep) (path : FilePath) (cause : OsError)
  /-- A manifest cannot be read. -/
  | manifest (path : FilePath) (fault : Json.Fault)
  /-- An entry is damaged. -/
  | corrupt (path : FilePath) (damage : Damage)
  deriving DecidableEq, Repr

/-- The message of a fault. -/
def StoreError.message : StoreError → String
  | .io step path cause => s!"store {step.label} failed for {path.text}: {cause.message}"
  | .manifest path fault => s!"invalid manifest {path.text}: {fault.message}"
  | .corrupt path damage => s!"store entry {path.text} is corrupt: {damage.message}"

/-- The result of a promotion. -/
inductive Promotion where
  /-- There was no entry; there is one now. -/
  | created
  /-- The entry was replaced, as requested. -/
  | replaced
  /-- There was an entry, and it was kept. -/
  | alreadyPresent (artifact : Artifact)
  deriving DecidableEq, Repr

/-- A store: the path of its root as it was given, and where that is. -/
structure Store where
  root : FilePath
  location : Location
  deriving DecidableEq, Repr

/-- A script that may end in a fault of the store. -/
abbrev StoreScript (α : Type) := ExceptT StoreError FileScript α

namespace Store

/-- The file name of a manifest. -/
def manifestFile : String := "manifest.json"

/-- Makes the root of a store. -/
def open_ (d : Disk) (root : FilePath) : Except StoreError Store × Disk :=
  match d.makeDirs root with
  | (.error e, d) => (.error (.io .create root e), d)
  | (.ok (), d) =>
    match d.locate root with
    | .ok location => (.ok ⟨root, location⟩, d)
    | .error e => (.error (.io .create root e), d)

/-- The directory of an entry, as it is shown. -/
def entryPath (s : Store) (f : Fingerprint) : FilePath :=
  s.root.child f.text

/-- The location of an entry of the root. -/
def place (s : Store) (name : String) : Location :=
  s.location ++ [.text name]

/-! ### Single operations -/

/-- Asks whether there is a directory. -/
def isDir (l : Location) : StoreScript Bool :=
  ExceptT.lift (.ask (.isDir l))

/-- Reads a file. -/
def readText (l : Location) (shown : FilePath) : StoreScript String :=
  ExceptT.mk do
    match ← FileScript.ask (.readText l) with
    | .ok text => return .ok text
    | .error e => return .error (.io .read shown e)

/-! ### Reading -/

/-- Reads the manifest of the entry of a name, which must be the fingerprint in it. -/
def readManifest (s : Store) (name : String) : StoreScript Manifest := do
  let path := (s.root.child name).child manifestFile
  let text ← readText (s.place name ++ [.text manifestFile]) path
  match Manifest.parse text with
  | .error fault => throw (.manifest path fault)
  | .ok manifest =>
    if manifest.fingerprint.text == name then return manifest
    else throw (.corrupt path (.foreignManifest manifest.fingerprint))

/-- Reads the manifest and the program of an entry. -/
def readEntry (s : Store) (name : String) : StoreScript Artifact := do
  let manifest ← s.readManifest name
  let file := manifest.language.fileName
  let source ← readText (s.place name ++ [.text file]) ((s.root.child name).child file)
  return ⟨manifest, source⟩

/-- A manifest that cannot be read means that the entry is damaged. -/
def asDamage : StoreError → StoreError
  | .manifest path fault => .corrupt path (.badManifest fault)
  | e => e

/-- The artifact of a fingerprint, if there is an entry. -/
def lookup (s : Store) (f : Fingerprint) : StoreScript (Option Artifact) := do
  if ← isDir (s.place f.text) then
    let artifact ← tryCatch (s.readEntry f.text) fun e => throw (asDamage e)
    if artifact.isIntact then return some artifact
    else
      let file := artifact.manifest.language.fileName
      throw (.corrupt ((s.entryPath f).child file) .alteredProgram)
  else return none

/-- The manifest of an entry of the root, if it is one that can be read. -/
def listed (s : Store) : FileName → FileScript (Option Manifest)
  | .raw _ => return none
  | .text name => do
    if (Fingerprint.parse? name).isSome then
      if ← FileScript.ask (.isDir (s.place name)) then
        match ← (s.readManifest name).run with
        | .ok manifest => return some manifest
        | .error _ => return none
      else return none
    else return none

/-- The manifests of the entries of some names. -/
def listedAll (s : Store) : List FileName → FileScript (List Manifest)
  | [] => return []
  | name :: rest => do
    let first ← s.listed name
    let others ← s.listedAll rest
    return first.toList ++ others

/-- Whether a manifest may be listed before another one: it is at least as new. -/
def newestFirst (a b : Manifest) : Bool :=
  (Moment.cmp b.promotedAt a.promotedAt).isLE

/-- The manifests of all entries, the newest first; those of one moment stay in the order in which
the directory was read. Entries that cannot be read are left out. -/
def list (s : Store) : StoreScript (List Manifest) :=
  ExceptT.mk do
    match ← FileScript.ask (.list s.location) with
    | .error e => return .error (.io .list s.root e)
    | .ok names => return .ok ((← s.listedAll names).mergeSort newestFirst)

/-! ### Writing -/

/-- The name of a hidden directory beside the entries. -/
def sibling (f : Fingerprint) (kind tag : String) : String :=
  s!".{kind}-{f.short}-{tag}"

/-- Runs a change that may fail. -/
def change (op : FileScript (Except OsError Unit)) (step : StoreStep) (shown : FilePath) :
    StoreScript Unit :=
  ExceptT.mk do
    match ← op with
    | .ok () => return .ok ()
    | .error e => return .error (.io step shown e)

/-- Removes a directory; nothing depends on whether that works. -/
def discard (l : Location) : StoreScript Unit :=
  ExceptT.mk do
    let _ ← FileScript.ask (.removeDir l)
    return .ok ()

/-- Writes the program and the manifest of an artifact into a directory of the root. -/
def writeEntry (s : Store) (name : String) (a : Artifact) : StoreScript Unit := do
  let file := a.manifest.language.fileName
  let path := s.root.child name
  change (.ask (.writeText (s.place name ++ [.text file]) a.source)) .write (path.child file)
  change (.ask (.writeText (s.place name ++ [.text manifestFile]) a.manifest.print)) .write
    (path.child manifestFile)

/-- The result of a promotion that found an entry. -/
def keep (s : Store) (f : Fingerprint) : StoreScript Promotion := do
  return .alreadyPresent (← s.readEntry f.text)

/-- Renames the entry of a fingerprint out of the way and removes it; tells whether there was
one. -/
def retire (s : Store) (f : Fingerprint) (tag : String) : StoreScript Bool := do
  if ← isDir (s.place f.text) then
    let retired := s.place (sibling f "retired" tag)
    change (.ask (.rename (s.place f.text) retired)) .retire (s.entryPath f)
    discard retired
    return true
  else return false

/-- Writes an artifact into a directory of the root; if that fails, the directory is removed. -/
def stage (s : Store) (name : String) (a : Artifact) : StoreScript Unit := do
  change (.ask (.makeDirs (s.place name))) .create (s.root.child name)
  tryCatch (s.writeEntry name a) fun e => do
    discard (s.place name)
    throw e

/-- Renames a directory of the root into the place of an entry. If that fails, the directory is
removed, and an entry that somebody else has put there is kept. -/
def install (s : Store) (f : Fingerprint) (name : String) (replaced : Bool) :
    StoreScript Promotion := do
  match ← ExceptT.lift (FileScript.ask (.rename (s.place name) (s.place f.text))) with
  | .ok () => return if replaced then .replaced else .created
  | .error e =>
    discard (s.place name)
    if ← isDir (s.place f.text) then s.keep f
    else throw (.io .rename (s.entryPath f) e)

/-- Stores an artifact under its fingerprint. An entry that is there is kept and returned, unless
it is to be replaced. -/
def promote (s : Store) (a : Artifact) (replace : Bool) (tag : String) :
    StoreScript Promotion := do
  let f := a.fingerprint
  if (← isDir (s.place f.text)) && !replace then s.keep f
  else
    let name := sibling f "staging" tag
    s.stage name a
    s.install f name (← s.retire f tag)

/-- Runs a script of the store on a disk. -/
def runOn (d : Disk) (script : StoreScript α) : Except StoreError α × Disk :=
  let (result, files) := FileScript.run (ExceptT.run script) d.files
  (result, { d with files })

end Store

end LabelForge
