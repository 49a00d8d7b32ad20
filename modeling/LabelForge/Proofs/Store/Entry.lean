import LabelForge.Proofs.Artifact
import LabelForge.Proofs.FileTree
import LabelForge.Proofs.Store.Script

/-!
# LabelForge.Proofs.Store.Entry

**Reading the entries of the root.** The root of a store is a directory with entries. Where its
entry for a fingerprint holds an artifact, program and manifest, reading the entry gives exactly
that artifact.
-/

namespace LabelForge

open FileTree (Entries)

namespace Store

variable {s : Store} {files : FileTree} {es es' : Entries} {a : Artifact}

theorem place_injective {name other : String} (h : s.place name = s.place other) : name = other :=
  FileName.text.inj (List.singleton_inj.1 (List.append_cancel_left h))

/-- The root of the store is a directory with the given entries. -/
def Contains (s : Store) (files : FileTree) (es : Entries) : Prop :=
  files.at? s.location = some (.directory es)

/-- Gives the root other entries. -/
def fill (s : Store) (files : FileTree) (es : Entries) : FileTree :=
  files.put s.location (.directory es)

theorem Contains.fill (h : s.Contains files es) (es' : Entries) :
    s.Contains (s.fill files es') es' :=
  FileTree.at?_put h _

theorem Contains.fill_fill (h : s.Contains files es) (a b : Entries) :
    s.fill (s.fill files a) b = s.fill files b :=
  FileTree.put_put h _ _

theorem Contains.fill_self (h : s.Contains files es) : s.fill files es = files :=
  FileTree.put_same h

/-- An entry that holds an artifact: a directory with its program and its manifest. -/
def Holds (es : Entries) (a : Artifact) : Prop :=
  ∃ fs, es.find? (.text a.fingerprint.text) = some (.directory fs) ∧
    fs.find? (.text a.manifest.language.fileName) = some (.file (Text.bytesOf a.source)) ∧
    fs.find? (.text manifestFile) = some (.file (Text.bytesOf a.manifest.print))

theorem Contains.isDirAt (h : s.Contains files es) (name : String) :
    files.isDirAt (s.place name) = ((es.find? (.text name)).map FileTree.isDir).getD false := by
  rw [FileTree.isDirAt, place, FileTree.at?_entry h]
  cases es.find? (.text name) <;> rfl

/-- A directory of the root is one of its entries. -/
theorem Contains.isDirAt_iff (h : s.Contains files es) (name : String) :
    files.isDirAt (s.place name) = true ↔ ∃ fs, es.find? (.text name) = some (.directory fs) := by
  rw [h.isDirAt]
  rcases es.find? (.text name) with _ | _ | _ | fs <;> simp [FileTree.isDir]

/-- A file of an entry is read as the text that was written. -/
theorem Contains.readText (h : s.Contains files es) {name : String} {fs : Entries}
    (found : es.find? (.text name) = some (.directory fs)) {file text : String}
    (written : fs.find? (.text file) = some (.file (Text.bytesOf text))) :
    files.readText (s.place name ++ [.text file]) = .ok text := by
  have bytes : files.read (s.place name ++ [.text file]) = .ok (Text.bytesOf text) := by
    rw [FileTree.read, place, FileTree.at?_file h found, FileTree.child?, written]
  simp only [FileTree.readText, bytes, bind, Except.bind, Text.textOf?_bytesOf]
  rfl

/-- Nothing is read of an entry that is not there. -/
theorem Contains.readText_noEntry (h : s.Contains files es) {name : String}
    (free : es.find? (.text name) = none) (file : String) :
    files.readText (s.place name ++ [.text file]) = .error .notFound := by
  rw [FileTree.readText, place, FileTree.read_noDirectory h free]
  rfl

/-- A file that an entry does not have is not read. -/
theorem Contains.readText_noFile (h : s.Contains files es) {name : String} {fs : Entries}
    (found : es.find? (.text name) = some (.directory fs)) {file : String}
    (free : fs.find? (.text file) = none) :
    files.readText (s.place name ++ [.text file]) = .error .notFound := by
  rw [FileTree.readText, place, FileTree.read_noFile h found free]
  rfl

/-! ### Entries that hold an artifact -/

theorem exec_readManifest (h : s.Contains files es) (holds : Holds es a)
    (storable : a.manifest.Storable) :
    exec (s.readManifest a.fingerprint.text) files = (.ok a.manifest, files) := by
  obtain ⟨fs, found, -, manifest⟩ := holds
  have own : (a.manifest.fingerprint.text == a.fingerprint.text) = true := beq_self_eq_true _
  simp only [readManifest, exec_bind, exec_readText_found (h.readText found manifest),
    storable.parse_print, own, if_true, exec_pure]

theorem exec_readEntry (h : s.Contains files es) (holds : Holds es a)
    (storable : a.manifest.Storable) :
    exec (s.readEntry a.fingerprint.text) files = (.ok a, files) := by
  have manifest := exec_readManifest h holds storable
  obtain ⟨fs, found, program, -⟩ := holds
  simp only [readEntry, exec_bind, manifest, exec_readText_found (h.readText found program),
    exec_pure]

/-- Nothing is read from an entry without a manifest. -/
theorem exec_readEntry_bare (h : s.Contains files es) {name : String} {fs : Entries}
    (found : es.find? (.text name) = some (.directory fs))
    (bare : fs.find? (.text manifestFile) = none) :
    ∃ e, exec (s.readEntry name) files = (.error e, files) := by
  refine ⟨.io .read ((s.root.child name).child manifestFile) .notFound, ?_⟩
  simp only [readEntry, readManifest, exec_bind,
    exec_readText_unread (h.readText_noFile found bare)]

theorem Holds.isDirAt (h : s.Contains files es) (holds : Holds es a) :
    files.isDirAt (s.place a.fingerprint.text) = true := by
  obtain ⟨fs, found, -⟩ := holds
  rw [h.isDirAt, found]
  rfl

/-- An artifact that is there and intact is found. -/
theorem exec_lookup (h : s.Contains files es) (holds : Holds es a)
    (storable : a.manifest.Storable) (intact : a.isIntact = true) :
    exec (s.lookup a.fingerprint) files = (.ok (some a), files) := by
  simp only [lookup, exec_bind, exec_isDir, holds.isDirAt h, if_true, exec_tryCatch,
    exec_readEntry h holds storable, intact, exec_pure]

/-- Where there is a directory, an artifact is found or the lookup fails. -/
theorem exec_lookup_present {f : Fingerprint} (present : files.isDirAt (s.place f.text) = true) :
    (exec (s.lookup f) files).1 ≠ .ok none := by
  simp only [lookup, exec_bind, exec_isDir, present, if_true, exec_tryCatch]
  rcases exec (s.readEntry f.text) files with ⟨e | artifact, after⟩
  · exact nofun
  · simp only
    split <;> exact nofun

/-- An artifact that is found is what reading the entry gives. -/
theorem exec_lookup_some {f : Fingerprint}
    (found : (exec (s.lookup f) files).1 = .ok (some a)) :
    files.isDirAt (s.place f.text) = true ∧ (exec (s.readEntry f.text) files).1 = .ok a := by
  simp only [lookup, exec_bind, exec_isDir] at found
  cases present : files.isDirAt (s.place f.text) with
  | false =>
      rw [present] at found
      cases found
  | true =>
      rw [present, if_pos rfl, exec_bind, exec_tryCatch] at found
      refine ⟨rfl, ?_⟩
      rcases read : exec (s.readEntry f.text) files with ⟨e | artifact, after⟩ <;>
        rw [read] at found
      · cases found
      · simp only at found
        split at found <;> cases found
        rfl

/-- Nothing is found where there is no directory. -/
theorem exec_lookup_none (h : s.Contains files es) {f : Fingerprint}
    (free : es.find? (.text f.text) = none) :
    exec (s.lookup f) files = (.ok none, files) := by
  have absent : files.isDirAt (s.place f.text) = false := by
    rw [h.isDirAt, free]
    rfl
  simp only [lookup, exec_bind, exec_isDir, absent, Bool.false_eq_true, if_false, exec_pure]

/-- A store in a directory of its own. -/
def shelf : Store := ⟨⟨"/shelf"⟩, ["shelf"]⟩

end Store

end LabelForge
