import LabelForge.Proofs.FileTree
import LabelForge.Store

/-!
# LabelForge.Proofs.Store.Script

**Running a script of the store.** A script that runs alone is a function on file trees. Its
parts run one after the other until one of them fails; a part that is caught goes on with the
handler, on the files that the failure left.
-/

namespace LabelForge.Store

variable {α β : Type}

/-- Runs a script alone. -/
def exec (script : StoreScript α) (files : FileTree) : Except StoreError α × FileTree :=
  FileScript.run (ExceptT.run script) files

theorem runOn_eq (d : Disk) (script : StoreScript α) :
    runOn d script = ((exec script d.files).1, { d with files := (exec script d.files).2 }) := rfl

@[simp] theorem exec_pure (a : α) (files : FileTree) :
    exec (pure a) files = (.ok a, files) := rfl

@[simp] theorem exec_throw (e : StoreError) (files : FileTree) :
    exec (throw e : StoreScript α) files = (.error e, files) := rfl

/-- The second part runs if the first one succeeds. -/
theorem exec_bind (x : StoreScript α) (f : α → StoreScript β) (files : FileTree) :
    exec (x >>= f) files =
      match exec x files with
      | (.ok a, files) => exec (f a) files
      | (.error e, files) => (.error e, files) := by
  show ((ExceptT.run x).bind (ExceptT.bindCont f)).run files = _
  rw [FileScript.run_bind, exec]
  rcases FileScript.run (ExceptT.run x) files with ⟨_ | _, _⟩ <;> rfl

/-- The result of a script is changed if it succeeds. -/
theorem exec_map (f : α → β) (x : StoreScript α) (files : FileTree) :
    exec (f <$> x) files = ((exec x files).1.map f, (exec x files).2) := by
  refine (FileScript.run_bind (ExceptT.run x) _ files).trans ?_
  rw [exec]
  rcases FileScript.run (ExceptT.run x) files with ⟨_ | _, _⟩ <;> rfl

/-- The handler runs if the script fails. -/
theorem exec_tryCatch (x : StoreScript α) (handle : StoreError → StoreScript α)
    (files : FileTree) :
    exec (tryCatch x handle) files =
      match exec x files with
      | (.ok a, files) => (.ok a, files)
      | (.error e, files) => exec (handle e) files := by
  refine (FileScript.run_bind (ExceptT.run x) _ files).trans ?_
  rw [exec]
  rcases FileScript.run (ExceptT.run x) files with ⟨_ | _, _⟩ <;> rfl

/-! ### Single operations -/

@[simp] theorem exec_isDir (l : Location) (files : FileTree) :
    exec (isDir l) files = (.ok (files.isDirAt l), files) := rfl

/-- The answer to renaming is looked at by whoever asked for it. -/
theorem exec_askRename (source target : Location) (files : FileTree) :
    exec (ExceptT.lift (FileScript.ask (.rename source target)) : StoreScript (Except OsError Unit))
        files =
      (.ok (FileOp.changed files (files.rename source target)).1,
        (FileOp.changed files (files.rename source target)).2) := rfl

/-- A file is read, or the operating system tells why it is not. -/
theorem exec_readText (l : Location) (shown : FilePath) (files : FileTree) :
    exec (readText l shown) files =
      ((files.readText l).mapError (.io .read shown), files) := by
  refine (FileScript.run_bind (FileScript.ask (.readText l)) _ files).trans ?_
  have answer : (FileScript.ask (.readText l)).run files = (files.readText l, files) := rfl
  rw [answer]
  cases files.readText l <;> rfl

/-- A file that is there is read. -/
theorem exec_readText_found {l : Location} {files : FileTree} {text : String}
    (found : files.readText l = .ok text) (shown : FilePath) :
    exec (readText l shown) files = (.ok text, files) := by
  rw [exec_readText, found]
  rfl

/-- A file that cannot be read is a failure of the operating system. -/
theorem exec_readText_unread {l : Location} {files : FileTree} {cause : OsError}
    (unread : files.readText l = .error cause) (shown : FilePath) :
    exec (readText l shown) files = (.error (.io .read shown cause), files) := by
  rw [exec_readText, unread]
  rfl

/-- What a change that was tried leaves behind. -/
def tried (step : StoreStep) (shown : FilePath) (files : FileTree) :
    Except OsError FileTree → Except StoreError Unit × FileTree
  | .ok files => (.ok (), files)
  | .error e => (.error (.io step shown e), files)

theorem exec_change {ask : FileScript (Except OsError Unit)} {files : FileTree}
    {r : Except OsError FileTree} (run : ask.run files = FileOp.changed files r)
    (step : StoreStep) (shown : FilePath) :
    exec (change ask step shown) files = tried step shown files r := by
  refine (FileScript.run_bind ask _ files).trans ?_
  rw [run]
  cases r <;> rfl

theorem exec_makeDirs (l : Location) (step : StoreStep) (shown : FilePath) (files : FileTree) :
    exec (change (.ask (.makeDirs l)) step shown) files =
      tried step shown files (files.makeDirs l) :=
  exec_change rfl step shown

theorem exec_writeText (l : Location) (content : String) (step : StoreStep) (shown : FilePath)
    (files : FileTree) :
    exec (change (.ask (.writeText l content)) step shown) files =
      tried step shown files (files.write l (Text.bytesOf content)) :=
  exec_change rfl step shown

theorem exec_rename (source target : Location) (step : StoreStep) (shown : FilePath)
    (files : FileTree) :
    exec (change (.ask (.rename source target)) step shown) files =
      tried step shown files (files.rename source target) :=
  exec_change rfl step shown

/-- Removing a directory never fails. -/
theorem exec_discard (l : Location) (files : FileTree) :
    exec (discard l) files = (.ok (), (FileOp.changed files (files.removeDir l)).2) := rfl

/-! ### Scripts that only read -/

/-- Whether a script leaves the files as they are. -/
def ReadsOnly (script : StoreScript α) : Prop := ∀ files, (exec script files).2 = files

theorem ReadsOnly.bind {x : StoreScript α} {f : α → StoreScript β} (hx : ReadsOnly x)
    (hf : ∀ a, ReadsOnly (f a)) : ReadsOnly (x >>= f) := by
  intro files
  have same := hx files
  rw [exec_bind]
  rcases ran : exec x files with ⟨e | a, after⟩ <;> rw [ran] at same
  · exact same
  · obtain rfl : after = files := same
    exact hf a after

theorem ReadsOnly.tryCatch {x : StoreScript α} {handle : StoreError → StoreScript α}
    (hx : ReadsOnly x) (hh : ∀ e, ReadsOnly (handle e)) : ReadsOnly (tryCatch x handle) := by
  intro files
  have same := hx files
  rw [exec_tryCatch]
  rcases ran : exec x files with ⟨e | a, after⟩ <;> rw [ran] at same
  · obtain rfl : after = files := same
    exact hh e after
  · exact same

/-- Whether a script leaves the files as they are and its result depends on nothing but what is at a
location. -/
structure SeesOnly (l : Location) (script : StoreScript α) : Prop where
  unchanged : ReadsOnly script
  alike : ∀ {files files'}, files.at? l = files'.at? l →
    (exec script files).1 = (exec script files').1

variable {l : Location}

theorem SeesOnly.pure (a : α) : SeesOnly l (Pure.pure a : StoreScript α) :=
  ⟨fun _ => rfl, fun _ => rfl⟩

theorem SeesOnly.throw (e : StoreError) : SeesOnly l (MonadExcept.throw e : StoreScript α) :=
  ⟨fun _ => rfl, fun _ => rfl⟩

/-- A script that sees a location only runs alike where that is the same. -/
theorem SeesOnly.ran {x : StoreScript α} (hx : SeesOnly l x) {files files' : FileTree}
    (same : files.at? l = files'.at? l) :
    ∃ result, exec x files = (result, files) ∧ exec x files' = (result, files') :=
  ⟨_, Prod.ext rfl (hx.unchanged files), Prod.ext (hx.alike same).symm (hx.unchanged files')⟩

theorem SeesOnly.bind {x : StoreScript α} {f : α → StoreScript β} (hx : SeesOnly l x)
    (hf : ∀ a, SeesOnly l (f a)) : SeesOnly l (x >>= f) where
  unchanged := hx.unchanged.bind fun a => (hf a).unchanged
  alike {files files'} same := by
    obtain ⟨result, ran, ran'⟩ := hx.ran same
    rw [exec_bind, exec_bind, ran, ran']
    cases result with
    | error e => rfl
    | ok a => exact (hf a).alike same

theorem SeesOnly.tryCatch {x : StoreScript α} {handle : StoreError → StoreScript α}
    (hx : SeesOnly l x) (hh : ∀ e, SeesOnly l (handle e)) :
    SeesOnly l (MonadExcept.tryCatch x handle) where
  unchanged := hx.unchanged.tryCatch fun e => (hh e).unchanged
  alike {files files'} same := by
    obtain ⟨result, ran, ran'⟩ := hx.ran same
    rw [exec_tryCatch, exec_tryCatch, ran, ran']
    cases result with
    | error e => exact (hh e).alike same
    | ok a => rfl

theorem seesOnly_isDir (l : Location) : SeesOnly l (isDir l) where
  unchanged _ := rfl
  alike same := by simp only [exec_isDir, FileTree.isDirAt, same]

/-- A file of a directory is read from what is at the directory. -/
theorem seesOnly_readText (l : Location) (file : FileName) (shown : FilePath) :
    SeesOnly l (readText (l ++ [file]) shown) where
  unchanged files := by rw [exec_readText]
  alike same := by simp only [exec_readText, FileTree.readText, FileTree.read_congr same]

theorem seesOnly_readManifest (s : Store) (name : String) :
    SeesOnly (s.place name) (s.readManifest name) := by
  refine (seesOnly_readText _ _ _).bind fun text => ?_
  cases Manifest.parse text with
  | error fault => exact .throw _
  | ok manifest =>
      simp only
      split
      · exact .pure _
      · exact .throw _

theorem seesOnly_readEntry (s : Store) (name : String) :
    SeesOnly (s.place name) (s.readEntry name) :=
  (seesOnly_readManifest s name).bind fun _ => (seesOnly_readText _ _ _).bind fun _ => .pure _

/-- Looking up an artifact changes nothing and looks at its entry only. -/
theorem seesOnly_lookup (s : Store) (f : Fingerprint) : SeesOnly (s.place f.text) (s.lookup f) := by
  refine (seesOnly_isDir _).bind fun present => ?_
  cases present with
  | false => exact .pure _
  | true =>
      refine ((seesOnly_readEntry s f.text).tryCatch fun _ => .throw _).bind fun artifact => ?_
      cases artifact.isIntact
      · exact .throw _
      · exact .pure _

end LabelForge.Store
