import LabelForge.Proofs.Race
import LabelForge.Proofs.Store.Promotion
import LabelForge.Proofs.Text.Utf8

/-!
# LabelForge.Proofs.Store.Phase

**A promotion as a machine.** Where a promotion that must not replace an entry stands between two of
its operations is one of fourteen phases. `Call.move?` says which operation comes next in a phase
and where each answer to it leads, and `script_eq` that this is what the script of the store does.

Beside the machine, `Moves` says once what a turn in a phase makes of the entries of the root, as
long as nobody else works under the hidden names of the call.
-/

namespace LabelForge.Store

open FileTree (Entries)

/-! ### Entries that are whole -/

variable {s : Store} {files : FileTree} {es : Entries} {f : Fingerprint} {a b : Artifact}

/-- The directory with the files of an artifact and nothing else. -/
abbrev full (a : Artifact) : FileTree := .directory (written a .none)

/-- There is no entry of a fingerprint. -/
def Vacant (f : Fingerprint) (es : Entries) : Prop :=
  es.find? (.text f.text) = none

/-- The entry of a fingerprint has the files of an artifact and nothing else. -/
structure Stored (f : Fingerprint) (es : Entries) (a : Artifact) : Prop where
  found : es.find? (.text f.text) = some (full a)
  own : a.fingerprint = f
  storable : a.manifest.Storable

theorem written_ne_none (a : Artifact) (fs : Entries) : written a fs ≠ .none := by
  intro empty
  have manifest : (written a fs).find? (.text manifestFile) = _ := Entries.find?_set_self ..
  rw [empty] at manifest
  cases manifest

theorem find?_program (a : Artifact) (fs : Entries) :
    (written a fs).find? (.text a.manifest.language.fileName) =
      some (.file (Text.bytesOf a.source)) := by
  have other : FileName.text a.manifest.language.fileName ≠ .text manifestFile :=
    fun same => fileName_ne_manifestFile _ (FileName.text.inj same)
  rw [written, Entries.find?_set_ne other, Entries.find?_set_self]

/-- The files of an artifact when its program has been written. -/
abbrev begun (a : Artifact) : Entries :=
  Entries.none.set (.text a.manifest.language.fileName) (.file (Text.bytesOf a.source))

/-- Nothing is in the way of the program. -/
theorem program_free (a : Artifact) (node : FileTree)
    (taken : Entries.none.find? (.text a.manifest.language.fileName) = some node) :
    ∃ old, node = .file old := by
  cases taken

/-- Nothing is in the way of the manifest once the program is written. -/
theorem manifest_free (a : Artifact) (node : FileTree)
    (taken : (begun a).find? (.text manifestFile) = some node) : ∃ old, node = .file old := by
  have other : FileName.text manifestFile ≠ .text a.manifest.language.fileName :=
    fun same => fileName_ne_manifestFile _ (FileName.text.inj same).symm
  rw [begun, Entries.find?_set_ne other] at taken
  cases taken

/-- A program in another language has another name. -/
theorem find?_otherProgram {l : Language} (other : l ≠ a.manifest.language) :
    (written a .none).find? (.text l.fileName) = none := by
  have name : FileName.text l.fileName ≠ .text a.manifest.language.fileName := by
    cases l <;> cases language : a.manifest.language <;> simp_all [Language.fileName]
  have manifest : FileName.text l.fileName ≠ .text manifestFile :=
    fun same => fileName_ne_manifestFile _ (FileName.text.inj same)
  rw [written, Entries.find?_set_ne manifest, Entries.find?_set_ne name, Entries.find?_none]

theorem Vacant.isDirAt (vacant : Vacant f es) (h : s.Contains files es) :
    files.isDirAt (s.place f.text) = false := by
  rw [h.isDirAt, vacant]
  rfl

theorem Stored.isDirAt (stored : Stored f es a) (h : s.Contains files es) :
    files.isDirAt (s.place f.text) = true := by
  rw [h.isDirAt, stored.found]
  rfl

/-- The files of an entry tell what artifact it holds. -/
theorem Stored.unique (ha : Stored f es a) (hb : Stored f es b) : a = b := by
  have same : written a .none = written b .none :=
    FileTree.directory.inj (Option.some.inj (ha.found.symm.trans hb.found))
  have manifests : a.manifest = b.manifest := by
    have texts := congrArg (Entries.find? (.text manifestFile)) same
    simp only [written, Entries.find?_set_self, Option.some.injEq, FileTree.file.injEq] at texts
    have parsed := ha.storable.parse_print
    rw [Text.bytesOf_injective texts, hb.storable.parse_print] at parsed
    exact (Except.ok.inj parsed).symm
  have sources : a.source = b.source := by
    have texts := congrArg (Entries.find? (.text a.manifest.language.fileName)) same
    rw [find?_program, manifests, find?_program] at texts
    simp only [Option.some.injEq, FileTree.file.injEq] at texts
    exact Text.bytesOf_injective texts
  cases a
  cases b
  cases manifests
  cases sources
  rfl

/-! ### Where a promotion stands -/

/-- Where a promotion stands. -/
inductive Phase where
  /-- It is about to ask whether there is an entry. -/
  | looking
  | making
  | writingProgram
  | writingManifest
  /-- Everything is written; it is about to ask again whether there is an entry. -/
  | testing
  /-- It is about to move the entry out of the way. -/
  | retiring
  | sweeping
  | installing (replaced : Bool)
  /-- The hidden directory could not become the entry. -/
  | dropping (cause : OsError)
  | retesting (cause : OsError)
  | readingManifest
  | readingProgram (m : Manifest)
  /-- A file could not be written. -/
  | undoing (e : StoreError)
  | returned (result : Except StoreError Promotion)

namespace Phase

/-- The phases of a call that has not met an entry. -/
def Early : Phase → Prop
  | .looking => True
  | .making => True
  | .writingProgram => True
  | .writingManifest => True
  | .testing => True
  | .installing replaced => replaced = false
  | _ => False

/-- The phases of a call that has not made the entry of an artifact, and moves none away. -/
def Late (a : Artifact) : Phase → Prop
  | .sweeping => False
  | .undoing _ => False
  | .installing replaced => replaced = false
  | .readingProgram m => m = a.manifest
  | .returned result => result = .ok (.alreadyPresent a)
  | _ => True

end Phase

/-- A call that stores an artifact and keeps an entry that is there. -/
structure Call where
  store : Store
  artifact : Artifact
  tag : String

namespace Call

variable (c : Call)

/-- The fingerprint of the entry. -/
abbrev key : Fingerprint := c.artifact.fingerprint

/-- The hidden name under which the entry is written. -/
abbrev draft : String := sibling c.key "staging" c.tag

/-- The hidden name under which an old entry is removed. -/
abbrev aside : String := sibling c.key "retired" c.tag

/-- A place below the root. -/
abbrev at_ (name : String) : Location := c.store.place name

/-- A path below the root, as it is shown. -/
abbrev shown (name : String) : FilePath := c.store.root.child name

/-- What is still to be done in a phase. -/
def script : Phase → FileScript (Except StoreError Promotion)
  | .looking => ExceptT.run (c.store.promote c.artifact false c.tag)
  | .making => ExceptT.run do
    c.store.stage c.draft c.artifact
    c.store.install c.key c.draft (← c.store.retire c.key c.tag)
  | .writingProgram => ExceptT.run do
    tryCatch (c.store.writeEntry c.draft c.artifact) fun e => do
      discard (c.at_ c.draft)
      throw e
    c.store.install c.key c.draft (← c.store.retire c.key c.tag)
  | .writingManifest => ExceptT.run do
    tryCatch (change (.ask (.writeText (c.at_ c.draft ++ [.text manifestFile])
        c.artifact.manifest.print)) .write ((c.shown c.draft).child manifestFile)) fun e => do
      discard (c.at_ c.draft)
      throw e
    c.store.install c.key c.draft (← c.store.retire c.key c.tag)
  | .testing => ExceptT.run do
    c.store.install c.key c.draft (← c.store.retire c.key c.tag)
  | .retiring => ExceptT.run <| c.store.install c.key c.draft =<< do
    change (.ask (.rename (c.at_ c.key.text) (c.at_ c.aside))) .retire (c.store.entryPath c.key)
    discard (c.at_ c.aside)
    return true
  | .sweeping => ExceptT.run <| c.store.install c.key c.draft =<< do
    discard (c.at_ c.aside)
    return true
  | .installing replaced => ExceptT.run (c.store.install c.key c.draft replaced)
  | .dropping cause => ExceptT.run do
    discard (c.at_ c.draft)
    if ← isDir (c.at_ c.key.text) then c.store.keep c.key
    else throw (.io .rename (c.store.entryPath c.key) cause)
  | .retesting cause => ExceptT.run do
    if ← isDir (c.at_ c.key.text) then c.store.keep c.key
    else throw (.io .rename (c.store.entryPath c.key) cause)
  | .readingManifest => ExceptT.run (c.store.keep c.key)
  | .readingProgram m => ExceptT.run do
    let file := m.language.fileName
    let found : Artifact ← (do
      let source ← readText (c.at_ c.key.text ++ [.text file]) ((c.shown c.key.text).child file)
      pure ⟨m, source⟩)
    return .alreadyPresent found
  | .undoing e => ExceptT.run do
    discard (c.at_ c.draft)
    throw e
  | .returned result => .done result

/-! ### The machine -/

/-- Ends with a fault of the file system. -/
def Phase.refused (step : StoreStep) (shown : FilePath) (cause : OsError) : Phase :=
  .returned (.error (.io step shown cause))

/-- The phase after a manifest was read. -/
def readManifestOf (text : String) : Phase :=
  let path := (c.shown c.key.text).child manifestFile
  match Manifest.parse text with
  | .error fault => .returned (.error (.manifest path fault))
  | .ok m =>
    if m.fingerprint.text == c.key.text then .readingProgram m
    else .returned (.error (.corrupt path (.foreignManifest m.fingerprint)))

/-- The operation that comes next, and where each answer to it leads. -/
def move? : Phase → Option ((op : FileOp) × (op.Reply → Phase))
  | .looking => some ⟨.isDir (c.at_ c.key.text), fun there =>
    if there then .readingManifest else .making⟩
  | .making => some ⟨.makeDirs (c.at_ c.draft), fun
    | .ok () => .writingProgram
    | .error e => Phase.refused .create (c.shown c.draft) e⟩
  | .writingProgram =>
    let file := c.artifact.manifest.language.fileName
    some ⟨.writeText (c.at_ c.draft ++ [.text file]) c.artifact.source, fun
      | .ok () => .writingManifest
      | .error e => .undoing (.io .write ((c.shown c.draft).child file) e)⟩
  | .writingManifest =>
    some ⟨.writeText (c.at_ c.draft ++ [.text manifestFile]) c.artifact.manifest.print, fun
      | .ok () => .testing
      | .error e => .undoing (.io .write ((c.shown c.draft).child manifestFile) e)⟩
  | .testing => some ⟨.isDir (c.at_ c.key.text), fun there =>
    if there then .retiring else .installing false⟩
  | .retiring => some ⟨.rename (c.at_ c.key.text) (c.at_ c.aside), fun
    | .ok () => .sweeping
    | .error e => Phase.refused .retire (c.store.entryPath c.key) e⟩
  | .sweeping => some ⟨.removeDir (c.at_ c.aside), fun _ => .installing true⟩
  | .installing replaced => some ⟨.rename (c.at_ c.draft) (c.at_ c.key.text), fun
    | .ok () => .returned (.ok (if replaced then .replaced else .created))
    | .error e => .dropping e⟩
  | .dropping cause => some ⟨.removeDir (c.at_ c.draft), fun _ => .retesting cause⟩
  | .retesting cause => some ⟨.isDir (c.at_ c.key.text), fun there =>
    if there then .readingManifest else Phase.refused .rename (c.store.entryPath c.key) cause⟩
  | .readingManifest => some ⟨.readText (c.at_ c.key.text ++ [.text manifestFile]), fun
    | .ok text => c.readManifestOf text
    | .error e => Phase.refused .read ((c.shown c.key.text).child manifestFile) e⟩
  | .readingProgram m =>
    let file := m.language.fileName
    some ⟨.readText (c.at_ c.key.text ++ [.text file]), fun
      | .ok source => .returned (.ok (.alreadyPresent ⟨m, source⟩))
      | .error e => Phase.refused .read ((c.shown c.key.text).child file) e⟩
  | .undoing e => some ⟨.removeDir (c.at_ c.draft), fun _ => .returned (.error e)⟩
  | .returned _ => none

/-- The script does what the machine does. -/
theorem script_eq (p : Phase) :
    match c.move? p with
    | some ⟨op, next⟩ => c.script p = .step op fun reply => c.script (next reply)
    | none => ∃ result, p = .returned result ∧ c.script p = .done result := by
  cases p with
  | returned result => exact ⟨result, rfl, rfl⟩
  | readingManifest =>
      refine congrArg (FileScript.step _) (funext fun reply => ?_)
      cases reply with
      | error e => rfl
      | ok text =>
          simp only [readManifestOf]
          show FileScript.bind (FileScript.bind (ExceptT.bindCont _ (.ok text)) _) _ = _
          simp only [ExceptT.bindCont]
          cases parsed : Manifest.parse text with
          | error fault => rfl
          | ok m =>
              simp only
              split <;> rfl
  | _ =>
      -- an answer is a truth value or tells whether something worked
      refine congrArg (FileScript.step _) (funext fun reply => ?_)
      cases reply <;> rfl

/-- The phase after a turn, and the files after it. -/
def turn (p : Phase) (files : FileTree) : Phase × FileTree :=
  match c.move? p with
  | some ⟨op, next⟩ => (next (op.run files).1, (op.run files).2)
  | none => (p, files)

theorem turn_script (p : Phase) (files : FileTree) :
    (c.script p).turn files = (c.script (c.turn p files).1, (c.turn p files).2) := by
  have same := c.script_eq p
  unfold turn
  split at same
  · rw [same]
    rfl
  · obtain ⟨result, rfl, same⟩ := same
    rfl

/-! ### What a turn does to the entries of the root -/

/-- What is under the hidden name for writing in a phase. -/
def drafted : Phase → Option FileTree
  | .writingProgram => some .empty
  | .writingManifest => some (.directory (Entries.none.set
      (.text c.artifact.manifest.language.fileName) (.file (Text.bytesOf c.artifact.source))))
  | .testing => some (full c.artifact)
  | .retiring => some (full c.artifact)
  | .sweeping => some (full c.artifact)
  | .installing _ => some (full c.artifact)
  | .dropping _ => some (full c.artifact)
  | _ => none

/-- What is under the hidden names of a call is what the call has put there. -/
structure Hidden (p : Phase) (es : Entries) : Prop where
  /-- A call that fails may leave behind what it has written. -/
  draft : (∀ e, p ≠ .returned (.error e)) → es.find? (.text c.draft) = c.drafted p
  /-- An old entry is there for the time of one phase. -/
  aside : match (motive := Phase → Prop) p with
    | .sweeping => ∃ fs, es.find? (.text c.aside) = some (.directory fs)
    | _ => es.find? (.text c.aside) = none
  /-- No file has been refused. -/
  wrote : ∀ e, p ≠ .undoing e

/-- A turn in a phase, and what it makes of the entries of the root. -/
inductive Moves : Phase → Entries → Phase → Entries → Prop where
  | absent {es : Entries} (vacant : Vacant c.key es) :
    Moves .looking es .making es
  | present {es : Entries} {b : Artifact} (stored : Stored c.key es b) :
    Moves .looking es .readingManifest es
  | made {es : Entries} : Moves .making es .writingProgram (es.set (.text c.draft) .empty)
  | wroteProgram {es : Entries} :
    Moves .writingProgram es .writingManifest (es.set (.text c.draft) (.directory (Entries.none.set
      (.text c.artifact.manifest.language.fileName) (.file (Text.bytesOf c.artifact.source)))))
  | wroteManifest {es : Entries} :
    Moves .writingManifest es .testing (es.set (.text c.draft) (full c.artifact))
  | stillAbsent {es : Entries} (vacant : Vacant c.key es) :
    Moves .testing es (.installing false) es
  | nowPresent {es : Entries} {b : Artifact} (stored : Stored c.key es b) :
    Moves .testing es .retiring es
  | retired {es : Entries} {b : Artifact} (stored : Stored c.key es b) :
    Moves .retiring es .sweeping ((es.erase (.text c.key.text)).set (.text c.aside) (full b))
  | unretired {es : Entries} (vacant : Vacant c.key es) (e : StoreError) :
    Moves .retiring es (.returned (.error e)) es
  | swept {es : Entries} : Moves .sweeping es (.installing true) (es.erase (.text c.aside))
  | installed {es : Entries} (vacant : Vacant c.key es) (replaced : Bool) :
    Moves (.installing replaced) es (.returned (.ok (if replaced then .replaced else .created)))
      ((es.erase (.text c.draft)).set (.text c.key.text) (full c.artifact))
  | refused {es : Entries} {b : Artifact} (stored : Stored c.key es b)
      (replaced : Bool) (e : OsError) :
    Moves (.installing replaced) es (.dropping e) es
  | dropped {es : Entries} (e : OsError) :
    Moves (.dropping e) es (.retesting e) (es.erase (.text c.draft))
  | kept {es : Entries} {b : Artifact} (stored : Stored c.key es b)
      (e : OsError) :
    Moves (.retesting e) es .readingManifest es
  | unkept {es : Entries} (vacant : Vacant c.key es) (e : OsError)
      (e' : StoreError) :
    Moves (.retesting e) es (.returned (.error e')) es
  | readManifest {es : Entries} {b : Artifact}
      (stored : Stored c.key es b) :
    Moves .readingManifest es (.readingProgram b.manifest) es
  | noManifest {es : Entries} (vacant : Vacant c.key es) (e : StoreError) :
    Moves .readingManifest es (.returned (.error e)) es
  | readProgram {es : Entries} {b : Artifact}
      (stored : Stored c.key es b) {m : Manifest}
      (same : m.language = b.manifest.language) :
    Moves (.readingProgram m) es (.returned (.ok (.alreadyPresent ⟨m, b.source⟩))) es
  | noProgram {es : Entries} {m : Manifest}
      (other : ∀ b, Stored c.key es b → m.language ≠ b.manifest.language) (e : StoreError) :
    Moves (.readingProgram m) es (.returned (.error e)) es
  | ended {es : Entries} (result : Except StoreError Promotion) :
    Moves (.returned result) es (.returned result) es

variable {c} {p p' : Phase} {es' : Entries}

/-- A turn goes where the answer to its operation leads. -/
theorem moves_of {op : FileOp} {next : op.Reply → Phase} (move : c.move? p = some ⟨op, next⟩)
    {reply : op.Reply} (ran : op.run files = (reply, c.store.fill files es'))
    (moved : c.Moves p es (next reply) es') :
    ∃ es', (c.turn p files).2 = c.store.fill files es' ∧ c.Moves p es (c.turn p files).1 es' := by
  have turned : c.turn p files = (next reply, c.store.fill files es') := by
    simp only [turn, move, ran]
  exact ⟨es', congrArg Prod.snd turned, turned ▸ moved⟩

/-- Every turn is a move, as long as the hidden names are the call's own. -/
theorem moves (h : c.store.Contains files es) (hidden : c.Hidden p es)
    (whole : Vacant c.key es ∨ ∃ b, Stored c.key es b) :
    ∃ es', (c.turn p files).2 = c.store.fill files es' ∧ c.Moves p es (c.turn p files).1 es' := by
  have same : files = c.store.fill files es := h.fill_self.symm
  have aside := hidden.aside
  cases p with
  | looking =>
      rcases whole with vacant | ⟨b, stored⟩
      · exact moves_of rfl (Prod.ext (vacant.isDirAt h) same) (.absent vacant)
      · exact moves_of rfl (Prod.ext (stored.isDirAt h) same) (.present stored)
  | making =>
      have made := FileTree.makeDirs_new h (hidden.draft nofun)
      exact moves_of rfl (congrArg (FileOp.changed files) made) .made
  | writingProgram =>
      have wrote := FileTree.write_file h (hidden.draft nofun)
        (program_free c.artifact) (Text.bytesOf c.artifact.source)
      exact moves_of rfl (congrArg (FileOp.changed files) wrote) .wroteProgram
  | writingManifest =>
      have wrote := FileTree.write_file h (hidden.draft nofun)
        (manifest_free c.artifact) (Text.bytesOf c.artifact.manifest.print)
      exact moves_of rfl (congrArg (FileOp.changed files) wrote) .wroteManifest
  | testing =>
      rcases whole with vacant | ⟨b, stored⟩
      · exact moves_of rfl (Prod.ext (vacant.isDirAt h) same) (.stillAbsent vacant)
      · exact moves_of rfl (Prod.ext (stored.isDirAt h) same) (.nowPresent stored)
  | retiring =>
      rcases whole with vacant | ⟨b, stored⟩
      · have missing := FileTree.rename_free h vacant (c.at_ c.aside)
        exact moves_of rfl ((congrArg (FileOp.changed files) missing).trans (Prod.ext rfl same))
          (.unretired vacant _)
      · have moved := (h.rename stored.found c.aside).resolve_right fun taken => taken.2 aside
        exact moves_of rfl (congrArg (FileOp.changed files) moved) (.retired stored)
  | sweeping =>
      obtain ⟨fs, aside⟩ := aside
      exact moves_of rfl (congrArg (FileOp.changed files) (FileTree.removeDir_entry h aside)) .swept
  | installing replaced =>
      have draft := hidden.draft nofun
      rcases whole with vacant | ⟨b, stored⟩
      · have moved := (h.rename draft c.key.text).resolve_right fun taken => taken.2 vacant
        exact moves_of rfl (congrArg (FileOp.changed files) moved) (.installed vacant replaced)
      · have occupied := FileTree.rename_occupied h draft stored.found (written_ne_none _ _)
        exact moves_of rfl ((congrArg (FileOp.changed files) occupied).trans (Prod.ext rfl same))
          (.refused stored replaced _)
  | dropping cause =>
      have removed := FileTree.removeDir_entry h (hidden.draft nofun)
      exact moves_of rfl (congrArg (FileOp.changed files) removed) (.dropped cause)
  | retesting cause =>
      rcases whole with vacant | ⟨b, stored⟩
      · exact moves_of rfl (Prod.ext (vacant.isDirAt h) same) (.unkept vacant cause _)
      · exact moves_of rfl (Prod.ext (stored.isDirAt h) same) (.kept stored cause)
  | readingManifest =>
      rcases whole with vacant | ⟨b, stored⟩
      · exact moves_of rfl (Prod.ext (h.readText_noEntry vacant _) same) (.noManifest vacant _)
      · have read := h.readText stored.found (Entries.find?_set_self ..)
        have named : (b.manifest.fingerprint.text == c.key.text) = true := by
          rw [← stored.own]
          exact beq_self_eq_true _
        have moved : c.Moves .readingManifest es (c.readManifestOf b.manifest.print) es := by
          simp only [readManifestOf, stored.storable.parse_print, named, if_true]
          exact .readManifest stored
        exact moves_of rfl (Prod.ext read same) moved
  | readingProgram m =>
      rcases whole with vacant | ⟨b, stored⟩
      · exact moves_of rfl (Prod.ext (h.readText_noEntry vacant _) same)
          (.noProgram (fun b stored => nomatch vacant.symm.trans stored.found) _)
      · by_cases language : m.language = b.manifest.language
        · have read := h.readText stored.found (language ▸ find?_program b .none)
          exact moves_of rfl (Prod.ext read same) (.readProgram stored language)
        · have missing := h.readText_noFile stored.found (find?_otherProgram language)
          exact moves_of rfl (Prod.ext missing same)
            (.noProgram (fun b' stored' => stored.unique stored' ▸ language) _)
  | undoing e => exact absurd rfl (hidden.wrote e)
  | returned result => exact ⟨es, same, .ended result⟩

/-- A move touches the entry and the hidden names of the call only. -/
theorem Moves.differ (m : c.Moves p es p' es') : es.Differ (touched c.key c.tag) es' := by
  have key : FileName.text c.key.text ∈ touched c.key c.tag := by simp
  have draft : FileName.text c.draft ∈ touched c.key c.tag := by simp
  have aside : FileName.text c.aside ∈ touched c.key c.tag := by simp
  cases m with
  | made => exact .set es draft _
  | wroteProgram => exact .set es draft _
  | wroteManifest => exact .set es draft _
  | retired => exact (Entries.Differ.erase es key).trans (.set _ aside _)
  | swept => exact .erase es aside
  | installed => exact (Entries.Differ.erase es draft).trans (.set _ key _)
  | dropped => exact .erase es draft
  | _ => exact .refl _ es

/-- An entry that is there is moved away. -/
theorem Moves.retire {b : Artifact} (m : c.Moves .retiring es p' es')
    (stored : Stored c.key es b) : p' = .sweeping ∧ Vacant c.key es' := by
  cases m with
  | retired =>
      refine ⟨rfl, ?_⟩
      rw [Vacant, Entries.find?_set_ne (retired_ne_text c.key c.key c.tag).symm,
        Entries.find?_erase_self]
  | unretired vacant => exact nomatch vacant.symm.trans stored.found

/-- A move keeps the entry as it is, takes it away, or makes it where there is none. -/
theorem Moves.entry (m : c.Moves p es p' es') (storable : c.artifact.manifest.Storable) :
    es'.find? (.text c.key.text) = es.find? (.text c.key.text) ∨
      (p = .retiring ∧ p' = .sweeping ∧ Vacant c.key es') ∨
      ∃ replaced, p = .installing replaced ∧
        p' = .returned (.ok (if replaced then .replaced else .created)) ∧ Vacant c.key es ∧
          Stored c.key es' c.artifact := by
  have key_draft : FileName.text c.key.text ≠ .text c.draft :=
    (staging_ne_text c.key c.key c.tag).symm
  have key_aside : FileName.text c.key.text ≠ .text c.aside :=
    (retired_ne_text c.key c.key c.tag).symm
  have moved := m
  cases m with
  | made => exact .inl (Entries.find?_set_ne key_draft ..)
  | wroteProgram => exact .inl (Entries.find?_set_ne key_draft ..)
  | wroteManifest => exact .inl (Entries.find?_set_ne key_draft ..)
  | retired stored => exact .inr (.inl ⟨rfl, moved.retire stored⟩)
  | swept => exact .inl (Entries.find?_erase_ne key_aside _)
  | installed vacant replaced =>
      exact .inr (.inr ⟨replaced, rfl, rfl, vacant, Entries.find?_set_self .., rfl, storable⟩)
  | dropped => exact .inl (Entries.find?_erase_ne key_draft _)
  | _ => exact .inl rfl

/-- A move leaves under the hidden names what belongs to the next phase. -/
theorem Moves.hidden (m : c.Moves p es p' es') (h : c.Hidden p es) : c.Hidden p' es' := by
  have aside := h.aside
  have draft_key : FileName.text c.draft ≠ .text c.key.text := staging_ne_text c.key c.key c.tag
  have aside_key : FileName.text c.aside ≠ .text c.key.text := retired_ne_text c.key c.key c.tag
  have draft_aside : FileName.text c.draft ≠ .text c.aside := staging_ne_retired c.key c.tag
  have written (node : FileTree) :
      (es.set (.text c.draft) node).find? (.text c.aside) = es.find? (.text c.aside) :=
    Entries.find?_set_ne draft_aside.symm ..
  have removed : (es.erase (.text c.draft)).find? (.text c.aside) = es.find? (.text c.aside) :=
    Entries.find?_erase_ne draft_aside.symm _
  cases m with
  | made => exact ⟨fun _ => Entries.find?_set_self .., (written _).trans aside, nofun⟩
  | wroteProgram => exact ⟨fun _ => Entries.find?_set_self .., (written _).trans aside, nofun⟩
  | wroteManifest => exact ⟨fun _ => Entries.find?_set_self .., (written _).trans aside, nofun⟩
  | retired =>
      refine ⟨fun _ => ?_, ⟨_, Entries.find?_set_self ..⟩, nofun⟩
      rw [Entries.find?_set_ne draft_aside, Entries.find?_erase_ne draft_key]
      exact h.draft nofun
  | swept =>
      refine ⟨fun _ => ?_, Entries.find?_erase_self .., nofun⟩
      exact (Entries.find?_erase_ne draft_aside _).trans (h.draft nofun)
  | installed =>
      refine ⟨fun _ => ?_, ?_, nofun⟩
      · rw [Entries.find?_set_ne draft_key, Entries.find?_erase_self]
        rfl
      · rw [Entries.find?_set_ne aside_key]
        exact removed.trans aside
  | dropped => exact ⟨fun _ => Entries.find?_erase_self .., removed.trans aside, nofun⟩
  | ended => exact h
  | unretired => exact ⟨fun fine => absurd rfl (fine _), aside, nofun⟩
  | _ => exact ⟨fun _ => h.draft nofun, aside, nofun⟩

/-- The first call that finds no entry makes it. -/
theorem Moves.early (m : c.Moves p es p' es') (vacant : Vacant c.key es)
    (early : p.Early) (storable : c.artifact.manifest.Storable) :
    p'.Early ∧ Vacant c.key es' ∨
      p' = .returned (.ok .created) ∧ Stored c.key es' c.artifact := by
  have none {b : Artifact} (stored : Stored c.key es b) : False :=
    nomatch vacant.symm.trans stored.found
  rcases m.entry storable with entry | ⟨rfl, -, -⟩ | ⟨replaced, rfl, rfl, -, stored⟩
  · refine .inl ⟨?_, entry.trans vacant⟩
    cases m with
    | absent => trivial
    | made => trivial
    | wroteProgram => trivial
    | wroteManifest => trivial
    | stillAbsent => rfl
    | present stored => exact (none stored).elim
    | nowPresent stored => exact (none stored).elim
    | refused stored => exact (none stored).elim
    | installed => rw [Entries.find?_set_self, vacant] at entry; cases entry
    | _ => exact early.elim
  · exact early.elim
  · obtain rfl : replaced = false := early
    exact .inr ⟨rfl, stored⟩

/-- Every other call finds the entry. -/
theorem Moves.late {a : Artifact} (m : c.Moves p es p' es')
    (stored : Stored c.key es a) (late : p.Late a) (peaceful : p ≠ .retiring) : p'.Late a := by
  have there {P : Prop} (vacant : Vacant c.key es) : P := nomatch vacant.symm.trans stored.found
  cases m with
  | absent vacant => exact there vacant
  | stillAbsent vacant => exact there vacant
  | retired => exact absurd rfl peaceful
  | unretired vacant => exact there vacant
  | swept => exact late.elim
  | installed vacant => exact there vacant
  | unkept vacant => exact there vacant
  | readManifest other => exact congrArg Artifact.manifest (other.unique stored)
  | noManifest vacant => exact there vacant
  | readProgram other =>
      obtain rfl := other.unique stored
      obtain rfl : _ = _ := late
      rfl
  | noProgram other => exact absurd (congrArg Manifest.language late) (other a stored)
  | ended => exact late
  | _ => trivial

end Call

end LabelForge.Store
