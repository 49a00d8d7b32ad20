import LabelForge.Proofs.Store.Phase

/-!
# LabelForge.Proofs.Store.Search

**A lookup as a machine.** Where a lookup stands between two of its operations is one of four
phases: it asks for the directory, reads the manifest, reads the program, and has returned. Between
the two readings others may change the entry, so the program need not be that of the manifest; the
digest is compared at the end.

`Finds` says once what a turn makes of the entries of the root. A lookup changes nothing.
-/

namespace LabelForge.Store

open FileTree (Entries)

/-- Where a lookup stands. -/
inductive Search where
  /-- It is about to ask whether there is an entry. -/
  | looking
  | readingManifest
  | readingProgram (m : Manifest)
  | returned (result : Except StoreError (Option Artifact))

namespace Search

variable (s : Store) (f : Fingerprint)

/-- An artifact that is read is found if it is intact. -/
def accept (read : StoreScript Artifact) : StoreScript (Option Artifact) := do
  let artifact ← tryCatch read fun e => throw (asDamage e)
  if artifact.isIntact then return some artifact
  else
    let file := artifact.manifest.language.fileName
    throw (.corrupt ((s.entryPath f).child file) .alteredProgram)

/-- What is still to be done in a phase. -/
def script : Search → FileScript (Except StoreError (Option Artifact))
  | .looking => ExceptT.run (s.lookup f)
  | .readingManifest => ExceptT.run (accept s f (s.readEntry f.text))
  | .readingProgram m => ExceptT.run <| accept s f do
    let file := m.language.fileName
    let source ← readText (s.place f.text ++ [.text file]) ((s.root.child f.text).child file)
    return ⟨m, source⟩
  | .returned result => .done result

/-! ### The machine -/

/-- The result of a lookup that has read the manifest and the program. -/
def verdict (a : Artifact) : Except StoreError (Option Artifact) :=
  if a.isIntact then .ok (some a)
  else .error (.corrupt ((s.entryPath f).child a.manifest.language.fileName) .alteredProgram)

/-- An artifact that has been read is judged. -/
theorem accept_done (a : Artifact) :
    ExceptT.run (accept s f (ExceptT.mk (.done (.ok a)))) = .done (verdict s f a) := by
  show ExceptT.run (if a.isIntact then _ else _ : StoreScript (Option Artifact)) = _
  rw [verdict]
  split <;> rfl

/-- The phase after a manifest was read. -/
def readManifestOf (text : String) : Search :=
  let path := (s.root.child f.text).child manifestFile
  match Manifest.parse text with
  | .error fault => .returned (.error (.corrupt path (.badManifest fault)))
  | .ok m =>
    if m.fingerprint.text == f.text then .readingProgram m
    else .returned (.error (.corrupt path (.foreignManifest m.fingerprint)))

/-- The operation that comes next, and where each answer to it leads. -/
def move? : Search → Option ((op : FileOp) × (op.Reply → Search))
  | .looking => some ⟨.isDir (s.place f.text), fun there =>
    if there then .readingManifest else .returned (.ok none)⟩
  | .readingManifest => some ⟨.readText (s.place f.text ++ [.text manifestFile]), fun
    | .ok text => readManifestOf s f text
    | .error e => .returned (.error (.io .read ((s.root.child f.text).child manifestFile) e))⟩
  | .readingProgram m =>
    let file := m.language.fileName
    some ⟨.readText (s.place f.text ++ [.text file]), fun
      | .ok source => .returned (verdict s f ⟨m, source⟩)
      | .error e => .returned (.error (.io .read ((s.root.child f.text).child file) e))⟩
  | .returned _ => none

/-- The script does what the machine does. -/
theorem script_eq (p : Search) :
    match p.move? s f with
    | some ⟨op, next⟩ => p.script s f = .step op fun reply => (next reply).script s f
    | none => ∃ result, p = .returned result ∧ p.script s f = .done result := by
  cases p with
  | returned result => exact ⟨result, rfl, rfl⟩
  | looking =>
      refine congrArg (FileScript.step _) (funext fun reply => ?_)
      cases reply <;> rfl
  | readingManifest =>
      refine congrArg (FileScript.step _) (funext fun reply => ?_)
      cases reply with
      | error e => rfl
      | ok text =>
          show _ = script s f (readManifestOf s f text)
          rw [readManifestOf]
          -- the text is parsed in the middle of the script
          show FileScript.bind (FileScript.bind (FileScript.bind
            (ExceptT.bindCont _ (.ok text)) _) _) _ = _
          simp only [ExceptT.bindCont]
          cases Manifest.parse text with
          | error fault => rfl
          | ok m =>
              simp only
              split <;> rfl
  | readingProgram m =>
      refine congrArg (FileScript.step _) (funext fun reply => ?_)
      cases reply with
      | error e => rfl
      | ok source => exact accept_done s f ⟨m, source⟩

/-- The phase after a turn, on the files of that turn. -/
def turn (p : Search) (files : FileTree) : Search :=
  match p.move? s f with
  | some ⟨op, next⟩ => next (op.run files).1
  | none => p

/-- A turn of a lookup leaves the files as they are. -/
theorem turn_script (p : Search) (files : FileTree) :
    (p.script s f).turn files = ((p.turn s f files).script s f, files) := by
  have same := p.script_eq s f
  cases p with
  | returned result => rfl
  | _ =>
      -- all operations of a lookup only read
      rw [turn, same]
      rfl

/-! ### What a turn finds -/

/-- A turn in a phase, given the entries of the root. -/
inductive Finds (es : Entries) : Search → Search → Prop where
  | absent (vacant : Vacant f es) : Finds es .looking (.returned (.ok none))
  | present {a : Artifact} (stored : Stored f es a) : Finds es .looking .readingManifest
  | readManifest {a : Artifact} (stored : Stored f es a) :
    Finds es .readingManifest (.readingProgram a.manifest)
  | noManifest (vacant : Vacant f es) (e : StoreError) :
    Finds es .readingManifest (.returned (.error e))
  | readProgram {a : Artifact} (stored : Stored f es a) {m : Manifest}
      (same : m.language = a.manifest.language) :
    Finds es (.readingProgram m) (.returned (verdict s f ⟨m, a.source⟩))
  | noProgram {m : Manifest} (other : ∀ a, Stored f es a → m.language ≠ a.manifest.language)
      (e : StoreError) :
    Finds es (.readingProgram m) (.returned (.error e))
  | ended (result : Except StoreError (Option Artifact)) :
    Finds es (.returned result) (.returned result)

variable {s f} {files : FileTree} {es : Entries}

/-- A turn goes where the answer to its operation leads. -/
theorem finds_of {p : Search} {op : FileOp} {next : op.Reply → Search}
    (move : p.move? s f = some ⟨op, next⟩) {reply : op.Reply} (ran : (op.run files).1 = reply)
    (found : Finds s f es p (next reply)) : Finds s f es p (p.turn s f files) := by
  have turned : p.turn s f files = next reply := by simp only [turn, move, ran]
  exact turned ▸ found

/-- Where there is no entry or a whole one, every turn of a lookup is one of these. -/
theorem finds (h : s.Contains files es) (whole : Vacant f es ∨ ∃ a, Stored f es a) (p : Search) :
    Finds s f es p (p.turn s f files) := by
  cases p with
  | looking =>
      rcases whole with vacant | ⟨a, stored⟩
      · exact finds_of rfl (vacant.isDirAt h) (.absent vacant)
      · exact finds_of rfl (stored.isDirAt h) (.present stored)
  | readingManifest =>
      rcases whole with vacant | ⟨a, stored⟩
      · exact finds_of rfl (h.readText_noEntry vacant _) (.noManifest vacant _)
      · have read := h.readText stored.found (Entries.find?_set_self ..)
        have named : (a.manifest.fingerprint.text == f.text) = true := by
          rw [← stored.own]
          exact beq_self_eq_true _
        refine finds_of rfl read ?_
        simp only [readManifestOf, stored.storable.parse_print, named, if_true]
        exact .readManifest stored
  | readingProgram m =>
      rcases whole with vacant | ⟨a, stored⟩
      · exact finds_of rfl (h.readText_noEntry vacant _)
          (.noProgram (fun b stored => nomatch vacant.symm.trans stored.found) _)
      · by_cases language : m.language = a.manifest.language
        · have read := h.readText stored.found (language ▸ find?_program a .none)
          exact finds_of rfl read (.readProgram stored language)
        · have missing := h.readText_noFile stored.found (find?_otherProgram language)
          exact finds_of rfl missing
            (.noProgram (fun b stored' => stored.unique stored' ▸ language) _)
  | returned result => exact .ended result

end Search

end LabelForge.Store
