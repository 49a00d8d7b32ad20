import LabelForge.Proofs.Store.Entry

/-!
# LabelForge.Proofs.Store.Condition

**The condition of an entry.** Whatever is in the directory of a fingerprint, it is in one of three
conditions. It is whole: then it holds an artifact of that fingerprint. It is damaged: then its
manifest is no manifest or that of another fingerprint, or its program is not the one that was
verified. Or one of its two files cannot be read at all: it is missing, is a directory, or is not in
UTF-8. A lookup tells the three apart and changes nothing.
-/

namespace LabelForge

open FileTree (Entries)

namespace Store

variable {s : Store} {files : FileTree} {es fs : Entries} {name file : String} {f : Fingerprint}
  {a : Artifact} {damage : Damage} {cause : OsError}

/-! ### The files of an entry -/

/-- The text of a file in a directory with the given entries. -/
def fileText (fs : Entries) (file : String) : Except OsError String :=
  match fs.find? (.text file) with
  | some node => node.readText []
  | none => .error .notFound

/-- A file of an entry is read from the directory of the entry. -/
theorem Contains.readText_entry (h : s.Contains files es)
    (found : es.find? (.text name) = some (.directory fs)) (file : String) :
    files.readText (s.place name ++ [.text file]) = fileText fs file := by
  rw [fileText]
  cases there : fs.find? (.text file) with
  | none => exact h.readText_noFile found there
  | some node =>
      have here : files.at? (s.place name ++ [.text file]) = some node := by
        rw [place, FileTree.at?_file h found, FileTree.child?, there]
      simp only [FileTree.readText, FileTree.read, here, FileTree.at?]
      rcases node with _ | (_ | _) | _ <;> rfl

/-- Why a file of a directory cannot be read. -/
inductive Unread (fs : Entries) (file : String) : OsError → Prop where
  | missing (free : fs.find? (.text file) = none) : Unread fs file .notFound
  | directory {below : Entries} (taken : fs.find? (.text file) = some (.directory below)) :
    Unread fs file .isDirectory
  | notText {content : Text.Bytes} (found : fs.find? (.text file) = some (.file content))
      (invalid : Text.textOf? content = none) : Unread fs file .notText

theorem fileText_eq_error : fileText fs file = .error cause ↔ Unread fs file cause := by
  constructor
  · intro h
    rw [fileText] at h
    cases there : fs.find? (.text file) with
    | none =>
        rw [there] at h
        cases h
        exact .missing there
    | some node =>
        rw [there] at h
        cases node with
        | file content =>
            cases text : Text.textOf? content <;>
              simp only [FileTree.readText, FileTree.read, FileTree.at?, bind, Except.bind,
                text] at h <;> cases h
            exact .notText there text
        | device kind => cases kind <;> cases h
        | directory below =>
            cases h
            exact .directory there
  · rintro (free | taken | ⟨found, invalid⟩)
    · rw [fileText, free]
    · rw [fileText, taken]
      rfl
    · simp only [fileText, found, FileTree.readText, FileTree.read, FileTree.at?, bind,
        Except.bind, invalid]
      rfl

/-! ### Whole, damaged and unreadable -/

/-- An entry that holds an intact artifact of its fingerprint. -/
structure Whole (f : Fingerprint) (fs : Entries) (a : Artifact) : Prop where
  manifest : ∃ text, fileText fs manifestFile = .ok text ∧ Manifest.parse text = .ok a.manifest
  program : fileText fs a.manifest.language.fileName = .ok a.source
  own : a.fingerprint = f
  intact : a.isIntact = true

/-- An entry whose files can be read, but do not make up an artifact of its fingerprint; in which
file that shows. -/
inductive Damaged (f : Fingerprint) (fs : Entries) : String → Damage → Prop where
  /-- The manifest is cut off, or is something else. -/
  | manifest {text : String} {fault : Json.Fault} (read : fileText fs manifestFile = .ok text)
      (invalid : Manifest.parse text = .error fault) :
    Damaged f fs manifestFile (.badManifest fault)
  | foreign {text : String} {m : Manifest} (read : fileText fs manifestFile = .ok text)
      (parsed : Manifest.parse text = .ok m) (other : m.fingerprint ≠ f) :
    Damaged f fs manifestFile (.foreignManifest m.fingerprint)
  | program {text source : String} {m : Manifest} (read : fileText fs manifestFile = .ok text)
      (parsed : Manifest.parse text = .ok m) (own : m.fingerprint = f)
      (found : fileText fs m.language.fileName = .ok source)
      (altered : (Artifact.mk m source).isIntact = false) :
    Damaged f fs m.language.fileName .alteredProgram

/-- An entry without a manifest that can be read, or without the program of its language; which file
it is. -/
inductive Unreadable (f : Fingerprint) (fs : Entries) : String → OsError → Prop where
  | manifest {cause : OsError} (unread : Unread fs manifestFile cause) :
    Unreadable f fs manifestFile cause
  | program {text : String} {m : Manifest} {cause : OsError}
      (read : fileText fs manifestFile = .ok text) (parsed : Manifest.parse text = .ok m)
      (own : m.fingerprint = f) (unread : Unread fs m.language.fileName cause) :
    Unreadable f fs m.language.fileName cause

/-- Every directory is in one of the three conditions. -/
theorem condition_cases (f : Fingerprint) (fs : Entries) :
    (∃ a, Whole f fs a) ∨ (∃ file damage, Damaged f fs file damage) ∨
      ∃ file cause, Unreadable f fs file cause := by
  -- the manifest comes first, as it tells which file is the program
  cases read : fileText fs manifestFile with
  | error cause => exact .inr (.inr ⟨_, cause, .manifest (fileText_eq_error.mp read)⟩)
  | ok text =>
      cases parsed : Manifest.parse text with
      | error fault => exact .inr (.inl ⟨_, _, .manifest read parsed⟩)
      | ok m =>
          by_cases own : m.fingerprint = f
          · cases found : fileText fs m.language.fileName with
            | error cause =>
                exact .inr (.inr ⟨_, cause, .program read parsed own (fileText_eq_error.mp found)⟩)
            | ok source =>
                cases intact : (Artifact.mk m source).isIntact with
                | false => exact .inr (.inl ⟨_, _, .program read parsed own found intact⟩)
                | true => exact .inl ⟨⟨m, source⟩, ⟨text, read, parsed⟩, found, own, intact⟩
          · exact .inr (.inl ⟨_, _, .foreign read parsed own⟩)

/-! ### What a lookup answers -/

section Lookup

variable (h : s.Contains files es) (found : es.find? (.text f.text) = some (.directory fs))
include h found

theorem exec_readFile {text : String} (read : fileText fs file = .ok text) (shown : FilePath) :
    exec (readText (s.place f.text ++ [.text file]) shown) files = (.ok text, files) :=
  exec_readText_found ((h.readText_entry found file).trans read) shown

theorem exec_readFile_unread (unread : Unread fs file cause) (shown : FilePath) :
    exec (readText (s.place f.text ++ [.text file]) shown) files =
      (.error (.io .read shown cause), files) :=
  exec_readText_unread ((h.readText_entry found file).trans (fileText_eq_error.mpr unread)) shown

/-- The manifest of an entry is that of its fingerprint. -/
theorem exec_readManifest_own {text : String} {m : Manifest}
    (read : fileText fs manifestFile = .ok text) (parsed : Manifest.parse text = .ok m)
    (own : m.fingerprint = f) : exec (s.readManifest f.text) files = (.ok m, files) := by
  have same : (m.fingerprint.text == f.text) = true := beq_iff_eq.mpr (congrArg _ own)
  simp only [readManifest, exec_bind, exec_readFile h found read, parsed, same, if_true, exec_pure]

/-- In a directory a lookup reads the entry and checks its program. -/
theorem exec_lookup_entry :
    exec (s.lookup f) files =
      exec (do
        let artifact ← tryCatch (s.readEntry f.text) fun e => throw (asDamage e)
        if artifact.isIntact then return some artifact
        else
          let file := artifact.manifest.language.fileName
          throw (.corrupt ((s.entryPath f).child file) .alteredProgram)) files := by
  have present : files.isDirAt (s.place f.text) = true := (h.isDirAt_iff _).mpr ⟨fs, found⟩
  rw [lookup, exec_bind, exec_isDir, present]
  rfl

/-- The artifact of an entry that is whole is found. -/
theorem exec_lookup_whole (whole : Whole f fs a) :
    exec (s.lookup f) files = (.ok (some a), files) := by
  obtain ⟨text, read, parsed⟩ := whole.manifest
  simp only [exec_lookup_entry h found, exec_bind, exec_tryCatch, readEntry,
    exec_readManifest_own h found read parsed whole.own, exec_readFile h found whole.program,
    exec_pure, whole.intact, if_true]

/-- A damaged entry is reported as damaged. -/
theorem exec_lookup_damaged (damaged : Damaged f fs file damage) :
    exec (s.lookup f) files = (.error (.corrupt ((s.entryPath f).child file) damage), files) := by
  rw [exec_lookup_entry h found]
  cases damaged with
  | manifest read invalid =>
      simp only [exec_bind, exec_tryCatch, readEntry, readManifest, exec_readFile h found read,
        invalid, exec_throw, asDamage]
      rfl
  | foreign read parsed other =>
      -- fingerprints are compared by their texts
      have other : (_ == f.text) = false :=
        beq_eq_false_iff_ne.mpr fun same => other (Fingerprint.ext same)
      simp only [exec_bind, exec_tryCatch, readEntry, readManifest, exec_readFile h found read,
        parsed, other, Bool.false_eq_true, if_false, exec_throw, asDamage]
      rfl
  | program read parsed own program altered =>
      simp only [exec_bind, exec_tryCatch, readEntry,
        exec_readManifest_own h found read parsed own, exec_readFile h found program,
        exec_pure, altered, Bool.false_eq_true, if_false, exec_throw]

/-- A file that cannot be read is a failure of the file system, whatever the reason. -/
theorem exec_lookup_unreadable (unreadable : Unreadable f fs file cause) :
    exec (s.lookup f) files = (.error (.io .read ((s.entryPath f).child file) cause), files) := by
  rw [exec_lookup_entry h found]
  cases unreadable with
  | manifest unread =>
      simp only [exec_bind, exec_tryCatch, readEntry, readManifest,
        exec_readFile_unread h found unread, exec_throw, asDamage]
      rfl
  | program read parsed own unread =>
      simp only [exec_bind, exec_tryCatch, readEntry,
        exec_readManifest_own h found read parsed own, exec_readFile_unread h found unread,
        exec_throw, asDamage]
      rfl

end Lookup

end Store

end LabelForge
