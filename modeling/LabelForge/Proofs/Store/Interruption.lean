import LabelForge.Proofs.Fault
import LabelForge.Proofs.Store.Phase
import LabelForge.Proofs.Store.Refinement

/-!
# LabelForge.Proofs.Store.Interruption

**Replacing an entry while things go wrong.** The entry that is to be replaced is moved away and
removed before the new one is renamed into its place. A process that dies up to then leaves the old
entry, and one that dies in between leaves none; where the last renaming fails, the old entry is
gone for good, and where moving it away fails, the new one stays behind under its hidden name. At
all other operations a fault does no harm.

Design points:

* A replacement asks whether there is an entry and goes on either way, so from its second operation
  on it is a `Call` in the phase `making`. As long as nothing goes wrong its phases are those of
  `Phase.Smooth`, with the entries of `course`; a fault strikes in one of them.
* What is found under a fingerprint depends on its entry alone (`seesOnly_lookup`). The old entry
  need not be as a promotion leaves it, as long as it is found.
-/

namespace LabelForge.Store

open FileTree (Entries)

/-! ### Running a call -/

namespace Call

variable {c : Call} {p p' : Phase} {files now : FileTree} {op : FileOp}
  {next : op.Reply → FileScript (Except StoreError Promotion)}

/-- The script of a phase begins with the operation of the phase. -/
theorem script_step {moves : op.Reply → Phase} (move : c.move? p = some ⟨op, moves⟩) :
    c.script p = .step op fun reply => c.script (moves reply) := by
  have same := c.script_eq p
  rw [move] at same
  exact same

/-- A script that begins with an operation is that of a phase with this operation. -/
theorem move_of_script (same : c.script p = .step op next) :
    ∃ moves, c.move? p = some ⟨op, moves⟩ ∧ next = fun reply => c.script (moves reply) := by
  have begins := c.script_eq p
  split at begins
  · rename_i op' moves move
    rw [same] at begins
    cases begins
    exact ⟨moves, move, rfl⟩
  · obtain ⟨result, -, done⟩ := begins
    rw [same] at done
    cases done

/-- What is still to be done can be done turn by turn. -/
theorem run_script (c : Call) (p : Phase) (files : FileTree) :
    (c.script p).run files = (c.script (c.turn p files).1).run (c.turn p files).2 := by
  have turns (script : FileScript (Except StoreError Promotion)) :
      script.run files = (script.turn files).1.run (script.turn files).2 := by
    cases script <;> rfl
  rw [turns, turn_script]

/-- A call comes to the operations of the phases that it comes to. -/
theorem comesTo_turn
    (comes : (c.script (c.turn p files).1).ComesTo (c.turn p files).2 op next now) :
    (c.script p).ComesTo files op next now := by
  cases move : c.move? p with
  | none => simpa only [turn, move] using comes
  | some step =>
      rw [script_step move]
      rw [turn, move] at comes
      exact .later comes

/-- What turns keep still holds when a call comes to an operation. -/
theorem comesTo_phase (good : Phase → FileTree → Prop)
    (kept : ∀ {p files}, good p files → good (c.turn p files).1 (c.turn p files).2)
    (start : good p files) (comes : (c.script p).ComesTo files op next now) :
    ∃ p moves, good p now ∧ c.move? p = some ⟨op, moves⟩ ∧
      next = fun reply => c.script (moves reply) := by
  generalize same : c.script p = script at comes
  induction comes generalizing p with
  | here =>
      obtain ⟨moves, move, follows⟩ := move_of_script same
      exact ⟨p, moves, start, move, follows⟩
  | later comes ih =>
      obtain ⟨moves, move, rfl⟩ := move_of_script same
      have moved := kept start
      rw [turn, move] at moved
      exact ih moved rfl

end Call

/-! ### The course of a replacement -/

namespace Phase

/-- The phases of a replacement that nothing goes wrong with. -/
def Smooth : Phase → Prop
  | .making => True
  | .writingProgram => True
  | .writingManifest => True
  | .testing => True
  | .retiring => True
  | .sweeping => True
  | .installing replaced => replaced = true
  | .returned result => result = .ok .replaced
  | _ => False

/-- The phase that follows. -/
def after : Phase → Phase
  | .making => .writingProgram
  | .writingProgram => .writingManifest
  | .writingManifest => .testing
  | .testing => .retiring
  | .retiring => .sweeping
  | .sweeping => .installing true
  | _ => .returned (.ok .replaced)

variable {p : Phase}

theorem Smooth.after (smooth : p.Smooth) : p.after.Smooth := by
  cases p with
  | sweeping => rfl
  | installing => rfl
  | returned => rfl
  | looking => exact smooth.elim
  | dropping => exact smooth.elim
  | retesting => exact smooth.elim
  | readingManifest => exact smooth.elim
  | readingProgram => exact smooth.elim
  | undoing => exact smooth.elim
  | _ => trivial

/-- What goes back from each phase to the one before goes back to the first one. -/
theorem Smooth.back {motive : Phase → Prop}
    (back : ∀ {p : Phase}, p.Smooth → motive p.after → motive p) (smooth : p.Smooth)
    (here : motive p) : motive .making := by
  have program : motive .writingProgram → motive .making := back (p := .making) trivial
  have manifest : motive .writingManifest → motive .making :=
    program ∘ back (p := .writingProgram) trivial
  have testing : motive .testing → motive .making := manifest ∘ back (p := .writingManifest) trivial
  have retiring : motive .retiring → motive .making := testing ∘ back (p := .testing) trivial
  have sweeping : motive .sweeping → motive .making := retiring ∘ back (p := .retiring) trivial
  have installing : motive (.installing true) → motive .making :=
    sweeping ∘ back (p := .sweeping) trivial
  cases p with
  | making => exact here
  | writingProgram => exact program here
  | writingManifest => exact manifest here
  | testing => exact testing here
  | retiring => exact retiring here
  | sweeping => exact sweeping here
  | installing replaced =>
      obtain rfl : replaced = true := smooth
      exact installing here
  | returned result =>
      obtain rfl : result = .ok .replaced := smooth
      exact installing (back (p := .installing true) rfl here)
  | _ => exact smooth.elim

end Phase

namespace Call

/-- The script that stores the artifact of a call, in the place of the entry that is there. -/
def replacement (c : Call) : FileScript (Except StoreError Promotion) :=
  ExceptT.run (c.store.promote c.artifact true c.tag)

/-- The operation that moves the old entry away. -/
abbrev retirement (c : Call) : FileOp := .rename (c.at_ c.key.text) (c.at_ c.aside)

/-- The operation that removes the old entry. -/
abbrev removal (c : Call) : FileOp := .removeDir (c.at_ c.aside)

/-- The operation that makes the new entry. -/
abbrev installation (c : Call) : FileOp := .rename (c.at_ c.draft) (c.at_ c.key.text)

/-- Whether there is an entry makes no difference to a replacement at first. -/
theorem replacement_eq (c : Call) :
    c.replacement = .step (.isDir (c.at_ c.key.text)) fun _ => c.script .making :=
  congrArg (FileScript.step _) (funext fun reply => by cases reply <;> rfl)

/-- The entries of the root once the new entry is written. -/
abbrev staged (c : Call) (es : Entries) : Entries := es.set (.text c.draft) (full c.artifact)

/-- The entries of the root once the old entry, with the files `ks`, has been moved away. -/
abbrev parted (c : Call) (es ks : Entries) : Entries :=
  ((c.staged es).erase (.text c.key.text)).set (.text c.aside) (.directory ks)

/-- The entries of the root once the old entry has been removed. -/
abbrev swept (c : Call) (es ks : Entries) : Entries := (c.parted es ks).erase (.text c.aside)

/-- The entries of the root in the phases of a replacement. -/
def course (c : Call) (es ks : Entries) : Phase → Entries
  | .writingProgram => es.set (.text c.draft) .empty
  | .writingManifest => es.set (.text c.draft) (.directory (begun c.artifact))
  | .testing => c.staged es
  | .retiring => c.staged es
  | .sweeping => c.parted es ks
  | .installing _ => c.swept es ks
  | .returned _ =>
    ((c.swept es ks).erase (.text c.draft)).set (.text c.key.text) (full c.artifact)
  | _ => es

/-- What a replacement starts from: an artifact is found in the store, the hidden names of the call
are free, and the new artifact is one that can be stored and found. -/
structure Replacing (c : Call) (files : FileTree) (es : Entries) (old : Artifact) : Prop where
  opened : c.store.Contains files es
  readable : (exec (c.store.lookup c.key) files).1 = .ok (some old)
  draft : es.find? (.text c.draft) = none
  aside : es.find? (.text c.aside) = none
  storable : c.artifact.manifest.Storable
  intact : c.artifact.isIntact = true

/-- The entry is as it was, and nothing is left under the hidden names. -/
structure Undone (c : Call) (files left : FileTree) : Prop where
  entry : left.at? (c.at_ c.key.text) = files.at? (c.at_ c.key.text)
  draft : left.at? (c.at_ c.draft) = none
  aside : left.at? (c.at_ c.aside) = none

/-- What a replacement promises although something fails: the old or the new artifact is found, and
an error means that nothing has happened. -/
structure Sound (c : Call) (files : FileTree) (old : Artifact)
    (outcome : Except StoreError Promotion × FileTree) : Prop where
  found : ∃ a, (exec (c.store.lookup c.key) outcome.2).1 = .ok (some a) ∧
    (a = old ∨ a = c.artifact)
  undone : ∀ e, outcome.1 = .error e → c.Undone files outcome.2

/-- The promise broken where the old entry cannot be moved away: the new one is left behind. -/
structure Littered (c : Call) (old : Artifact) (outcome : Except StoreError Promotion × FileTree) :
    Prop where
  failed : ∃ e, outcome.1 = .error e
  found : (exec (c.store.lookup c.key) outcome.2).1 = .ok (some old)
  draft : outcome.2.at? (c.at_ c.draft) = some (full c.artifact)

/-- The promise broken where the new entry does not get its name: neither artifact is left. -/
structure Lost (c : Call) (outcome : Except StoreError Promotion × FileTree) : Prop where
  failed : ∃ e, outcome.1 = .error e
  nothing : (exec (c.store.lookup c.key) outcome.2).1 = .ok none

variable {c : Call} {p : Phase} {files now left : FileTree} {es es' ks : Entries}
  {old : Artifact} {op : FileOp} {outcome : Except StoreError Promotion × FileTree}

theorem draft_ne_key (c : Call) : FileName.text c.draft ≠ .text c.key.text :=
  staging_ne_text c.key c.key c.tag

theorem aside_ne_key (c : Call) : FileName.text c.aside ≠ .text c.key.text :=
  retired_ne_text c.key c.key c.tag

theorem draft_ne_aside (c : Call) : FileName.text c.draft ≠ .text c.aside :=
  staging_ne_retired c.key c.tag

/-- Moving the old entry away is not making the new one. -/
theorem retirement_ne_installation (c : Call) : c.retirement ≠ c.installation := by
  intro same
  obtain ⟨places, -⟩ := FileOp.rename.inj same
  exact c.draft_ne_key (congrArg FileName.text (place_injective places)).symm

/-- What is written under the hidden name leaves the entry as it is. -/
theorem find?_drafted (c : Call) (es : Entries) (node : FileTree) :
    (es.set (.text c.draft) node).find? (.text c.key.text) = es.find? (.text c.key.text) :=
  Entries.find?_set_ne c.draft_ne_key.symm node es

theorem find?_parted (c : Call) (es ks : Entries) :
    (c.parted es ks).find? (.text c.key.text) = none := by
  rw [Entries.find?_set_ne c.aside_ne_key.symm, Entries.find?_erase_self]

theorem find?_swept (c : Call) (es ks : Entries) :
    (c.swept es ks).find? (.text c.key.text) = none := by
  rw [Entries.find?_erase_ne c.aside_ne_key.symm, find?_parted]

theorem find?_swept_draft (c : Call) (es ks : Entries) :
    (c.swept es ks).find? (.text c.draft) = some (full c.artifact) := by
  rw [Entries.find?_erase_ne c.draft_ne_aside, Entries.find?_set_ne c.draft_ne_aside,
    Entries.find?_erase_ne c.draft_ne_key, Entries.find?_set_self]

namespace Replacing

variable (h : c.Replacing files es old)
include h

/-- The entry that is found is a directory, and it is not empty. -/
theorem entry : ∃ ks, es.find? (.text c.key.text) = some (.directory ks) ∧ ks ≠ .none := by
  obtain ⟨present, read⟩ := exec_lookup_some h.readable
  obtain ⟨ks, found⟩ := (h.opened.isDirAt_iff _).1 present
  refine ⟨ks, found, ?_⟩
  rintro rfl
  obtain ⟨e, bare⟩ := exec_readEntry_bare h.opened found rfl
  rw [bare] at read
  cases read

/-- What is at the place of the entry is what the root has under its name. -/
theorem at?_key {es₁ es₂ : Entries}
    (same : es₁.find? (.text c.key.text) = es₂.find? (.text c.key.text)) :
    (c.store.fill files es₁).at? (c.at_ c.key.text) =
      (c.store.fill files es₂).at? (c.at_ c.key.text) :=
  (FileTree.at?_entry (h.opened.fill es₁) _).trans
    (same.trans (FileTree.at?_entry (h.opened.fill es₂) _).symm)

/-- As long as the entry is there, the old artifact is found. -/
theorem lookup_kept (same : es'.find? (.text c.key.text) = es.find? (.text c.key.text)) :
    (exec (c.store.lookup c.key) (c.store.fill files es')).1 = .ok (some old) := by
  have entry := h.at?_key same
  rw [h.opened.fill_self] at entry
  rw [← h.readable]
  exact (seesOnly_lookup c.store c.key).alike entry

/-- Without an entry nothing is found. -/
theorem lookup_lost (free : es'.find? (.text c.key.text) = none) :
    (exec (c.store.lookup c.key) (c.store.fill files es')).1 = .ok none := by
  rw [exec_lookup_none (h.opened.fill es') free]

/-! #### Without a fault -/

/-- A replacement starts on the files as they are. -/
theorem fill_making (ks : Entries) : c.store.fill files (c.course es ks .making) = files :=
  h.opened.fill_self

/-- A turn goes where the answer to its operation leads. -/
theorem turn_of {p' : Phase} {es₁ es₂ : Entries} {moves : op.Reply → Phase} {reply : op.Reply}
    (move : c.move? p = some ⟨op, moves⟩)
    (ran : op.run (c.store.fill files es₁) = (reply, c.store.fill (c.store.fill files es₁) es₂))
    (leads : moves reply = p') :
    c.turn p (c.store.fill files es₁) = (p', c.store.fill files es₂) := by
  rw [h.opened.fill_fill] at ran
  simp only [turn, move, ran, leads]

/-- A turn of a replacement leads to the next phase of its course. -/
theorem turn_course (found : es.find? (.text c.key.text) = some (.directory ks))
    (smooth : p.Smooth) :
    c.turn p (c.store.fill files (c.course es ks p)) =
      (p.after, c.store.fill files (c.course es ks p.after)) := by
  have contains := h.opened.fill (c.course es ks p)
  have drafted (node : FileTree) :
      (es.set (.text c.draft) node).find? (.text c.draft) = some node :=
    Entries.find?_set_self ..
  have kept : (c.staged es).find? (.text c.key.text) = some (.directory ks) :=
    (c.find?_drafted es _).trans found
  cases p with
  | making =>
      have made := FileTree.makeDirs_new contains h.draft
      exact h.turn_of rfl (congrArg (FileOp.changed _) made) rfl
  | writingProgram =>
      have wrote := FileTree.write_file contains (drafted .empty)
        (program_free c.artifact) (Text.bytesOf c.artifact.source)
      rw [course, Entries.set_set] at wrote
      exact h.turn_of rfl (congrArg (FileOp.changed _) wrote) rfl
  | writingManifest =>
      have wrote := FileTree.write_file contains (drafted _) (manifest_free c.artifact)
        (Text.bytesOf c.artifact.manifest.print)
      rw [course, Entries.set_set] at wrote
      exact h.turn_of rfl (congrArg (FileOp.changed _) wrote) rfl
  | testing =>
      have there := (contains.isDirAt_iff _).2 ⟨ks, kept⟩
      exact h.turn_of rfl (Prod.ext there contains.fill_self.symm) rfl
  | retiring =>
      have free : (c.staged es).find? (.text c.aside) = none :=
        (Entries.find?_set_ne c.draft_ne_aside.symm ..).trans h.aside
      have moved := (contains.rename kept c.aside).resolve_right fun taken => taken.2 free
      exact h.turn_of rfl (congrArg (FileOp.changed _) moved) rfl
  | sweeping =>
      have removed := FileTree.removeDir_entry contains (Entries.find?_set_self ..)
      exact h.turn_of rfl (congrArg (FileOp.changed _) removed) rfl
  | installing replaced =>
      obtain rfl : replaced = true := smooth
      have moved := (contains.rename (find?_swept_draft c es ks) c.key.text).resolve_right
        fun taken => taken.2 (find?_swept c es ks)
      exact h.turn_of rfl (congrArg (FileOp.changed _) moved) rfl
  | returned result =>
      obtain rfl : result = .ok .replaced := smooth
      rfl
  | _ => exact smooth.elim

/-- A replacement can be run phase by phase. -/
theorem run_course (found : es.find? (.text c.key.text) = some (.directory ks))
    (smooth : p.Smooth) :
    (c.script p).run (c.store.fill files (c.course es ks p)) =
      (c.script p.after).run (c.store.fill files (c.course es ks p.after)) := by
  rw [c.run_script, h.turn_course found smooth]

/-- A replacement that nothing goes wrong with makes the new entry. -/
theorem run_making (found : es.find? (.text c.key.text) = some (.directory ks)) :
    (c.script .making).run files =
      (.ok .replaced, c.store.fill files (c.course es ks (.returned (.ok .replaced)))) := by
  have ran := Phase.Smooth.back (p := .returned (.ok .replaced))
    (motive := fun p => (c.script p).run (c.store.fill files (c.course es ks p)) =
      (.ok .replaced, c.store.fill files (c.course es ks (.returned (.ok .replaced)))))
    (fun smooth ran => (h.run_course found smooth).trans ran) rfl rfl
  rwa [h.fill_making] at ran

/-- The new artifact is found in the end. -/
theorem lookup_new :
    (exec (c.store.lookup c.key)
      (c.store.fill files (c.course es ks (.returned (.ok .replaced))))).1 =
        .ok (some c.artifact) := by
  have holds : Holds (c.course es ks (.returned (.ok .replaced))) c.artifact :=
    holds_written (Entries.find?_set_self ..)
  rw [exec_lookup (h.opened.fill _) holds h.storable h.intact]

/-- A replacement that comes to its end has put the new artifact in the place of the old one. -/
theorem replaced : (c.replacement.run files).1 = .ok .replaced ∧
    (exec (c.store.lookup c.key) (c.replacement.run files).2).1 = .ok (some c.artifact) := by
  obtain ⟨ks, found, -⟩ := h.entry
  have ran : c.replacement.run files = (c.script .making).run files := by
    rw [replacement_eq]
    rfl
  rw [ran, h.run_making found]
  exact ⟨rfl, h.lookup_new⟩

/-! #### Where a fault strikes -/

/-- A replacement comes to the operation of each of its phases. -/
theorem comesTo_course (found : es.find? (.text c.key.text) = some (.directory ks))
    (smooth : p.Smooth) {moves : op.Reply → Phase} (move : c.move? p = some ⟨op, moves⟩) :
    c.replacement.ComesTo files op (fun reply => c.script (moves reply))
      (c.store.fill files (c.course es ks p)) := by
  have comes := smooth.back (motive := fun p' =>
      (c.script p').ComesTo (c.store.fill files (c.course es ks p')) op
        (fun reply => c.script (moves reply)) (c.store.fill files (c.course es ks p)))
    (fun smooth' comes => comesTo_turn (by rwa [h.turn_course found smooth']))
    (script_step move ▸ .here)
  rw [h.fill_making] at comes
  rw [replacement_eq]
  exact .later comes

/-- A replacement comes to its first question or to the operation of a phase. -/
theorem phase_of_comesTo (found : es.find? (.text c.key.text) = some (.directory ks))
    {next : op.Reply → FileScript (Except StoreError Promotion)}
    (comes : c.replacement.ComesTo files op next now) :
    (op = .isDir (c.at_ c.key.text) ∧ now = files ∧ ∀ reply, next reply = c.script .making) ∨
      ∃ p moves, p.Smooth ∧ now = c.store.fill files (c.course es ks p) ∧
        c.move? p = some ⟨op, moves⟩ ∧ next = fun reply => c.script (moves reply) := by
  rw [replacement_eq] at comes
  cases comes with
  | here => exact .inl ⟨rfl, rfl, fun _ => rfl⟩
  | later comes =>
      have start : Phase.making.Smooth ∧ files = c.store.fill files (c.course es ks .making) :=
        ⟨trivial, (h.fill_making ks).symm⟩
      obtain ⟨p, moves, ⟨smooth, at_⟩, move, follows⟩ := comesTo_phase
        (fun p now => p.Smooth ∧ now = c.store.fill files (c.course es ks p))
        (fun {p now} good => by
          obtain ⟨smooth, rfl⟩ := good
          rw [h.turn_course found smooth]
          exact ⟨smooth.after, rfl⟩) start comes
      exact .inr ⟨p, moves, smooth, at_, move, follows⟩

/-- A file that is not written to its end is one under the hidden name. -/
theorem left_of_writing {fs : Entries} {file : FileName} {content : String}
    (free : ∀ node, fs.find? file = some node → ∃ text, node = .file text)
    (leaves : (FileOp.writeText (c.at_ c.draft ++ [file]) content).Leaves
      (c.store.fill files (es.set (.text c.draft) (.directory fs))) left) :
    ∃ fs', left = c.store.fill files (es.set (.text c.draft) (.directory fs')) := by
  obtain ⟨fs', rfl⟩ := leaves.writeText (h.opened.fill _) (Entries.find?_set_self ..) free
  rw [Entries.set_set]
  exact ⟨fs', h.opened.fill_fill _ _⟩

/-- Whatever is left of the old entry does not have its name any more. -/
theorem left_of_sweeping (leaves : c.removal.Leaves (c.store.fill files (c.parted es ks)) left) :
    ∃ fs, left = c.store.fill files ((c.parted es ks).set (.text c.aside) (.directory fs)) := by
  obtain ⟨fs, rfl⟩ := leaves.removeDir (h.opened.fill _) (Entries.find?_set_self ..)
  exact ⟨fs, h.opened.fill_fill _ _⟩

/-- An operation that is struck leaves the entry as it is. -/
theorem entry_of_leaves (smooth : p.Smooth) {moves : op.Reply → Phase}
    (move : c.move? p = some ⟨op, moves⟩)
    (leaves : op.Leaves (c.store.fill files (c.course es ks p)) left) :
    left.at? (c.at_ c.key.text) =
      (c.store.fill files (c.course es ks p)).at? (c.at_ c.key.text) := by
  have contains := h.opened.fill (c.course es ks p)
  cases p with
  | making =>
      cases move
      rw [leaves.makeDirs contains]
  | writingProgram =>
      cases move
      obtain ⟨fs, rfl⟩ := h.left_of_writing (program_free c.artifact) leaves
      exact h.at?_key ((c.find?_drafted es _).trans (c.find?_drafted es _).symm)
  | writingManifest =>
      cases move
      obtain ⟨fs, rfl⟩ := h.left_of_writing (manifest_free c.artifact) leaves
      exact h.at?_key ((c.find?_drafted es _).trans (c.find?_drafted es _).symm)
  | testing =>
      cases move
      rw [leaves.isDir]
  | retiring =>
      cases move
      rw [leaves.rename]
  | sweeping =>
      cases move
      obtain ⟨fs, rfl⟩ := h.left_of_sweeping leaves
      exact h.at?_key (Entries.find?_set_ne c.aside_ne_key.symm ..)
  | installing replaced =>
      cases move
      rw [leaves.rename]
  | returned => cases move
  | _ => exact smooth.elim

/-- The old artifact is found until it is moved away, and then none until the end. -/
theorem lookup_course (smooth : p.Smooth) {moves : op.Reply → Phase}
    (move : c.move? p = some ⟨op, moves⟩) :
    (exec (c.store.lookup c.key) (c.store.fill files (c.course es ks p))).1 =
      .ok (if op = c.removal ∨ op = c.installation then none else some old) := by
  have before (other : op ≠ c.removal ∧ op ≠ c.installation)
      (kept : (c.course es ks p).find? (.text c.key.text) = es.find? (.text c.key.text)) :
      (exec (c.store.lookup c.key) (c.store.fill files (c.course es ks p))).1 =
        .ok (if op = c.removal ∨ op = c.installation then none else some old) := by
    rw [h.lookup_kept kept, if_neg (not_or.2 other)]
  cases p with
  | making =>
      cases move
      exact before ⟨nofun, nofun⟩ rfl
  | writingProgram =>
      cases move
      exact before ⟨nofun, nofun⟩ (c.find?_drafted es _)
  | writingManifest =>
      cases move
      exact before ⟨nofun, nofun⟩ (c.find?_drafted es _)
  | testing =>
      cases move
      exact before ⟨nofun, nofun⟩ (c.find?_drafted es _)
  | retiring =>
      cases move
      exact before ⟨nofun, c.retirement_ne_installation⟩ (c.find?_drafted es _)
  | sweeping =>
      cases move
      rw [if_pos (.inl rfl)]
      exact h.lookup_lost (find?_parted c es ks)
  | installing replaced =>
      cases move
      rw [if_pos (.inr rfl)]
      exact h.lookup_lost (find?_swept c es ks)
  | returned => cases move
  | _ => exact smooth.elim

/-- A process that dies leaves the old artifact, unless it has moved it away. -/
theorem lookup_of_dies (dies : c.replacement.Dies files op left) :
    (exec (c.store.lookup c.key) left).1 =
      .ok (if op = c.removal ∨ op = c.installation then none else some old) := by
  obtain ⟨ks, found, -⟩ := h.entry
  obtain ⟨comes, leaves⟩ := dies
  rcases h.phase_of_comesTo found comes with ⟨rfl, rfl, -⟩ | ⟨p, moves, smooth, rfl, move, -⟩
  · rw [leaves.isDir, if_neg (not_or.2 ⟨nofun, nofun⟩), h.readable]
  · rw [← h.lookup_course smooth move]
    exact (seesOnly_lookup c.store c.key).alike (h.entry_of_leaves smooth move leaves)

/-! #### After a failure -/

/-- It does no harm to leave the files as they were. -/
theorem sound_unchanged (result : Except StoreError Promotion) :
    c.Sound files old (result, files) where
  found := ⟨old, h.readable, .inl rfl⟩
  undone _ _ := ⟨rfl, (FileTree.at?_entry h.opened _).trans h.draft,
    (FileTree.at?_entry h.opened _).trans h.aside⟩

/-- What is under the hidden name for writing is removed without a trace. -/
theorem discard_draft (fs : Entries) :
    exec (discard (c.at_ c.draft))
      (c.store.fill files (es.set (.text c.draft) (.directory fs))) = (.ok (), files) := by
  rw [exec_discard_entry (h.opened.fill _) (Entries.find?_set_self ..), h.opened.fill_fill,
    Entries.erase_set, Entries.erase_free h.draft, h.opened.fill_self]

/-- Where a file cannot be written, nothing is left of it. -/
theorem run_undoing (fs : Entries) (e : StoreError) :
    (c.script (.undoing e)).run (c.store.fill files (es.set (.text c.draft) (.directory fs))) =
      (.error e, files) := by
  show exec (discard (c.at_ c.draft) >>= fun _ => throw e) _ = _
  rw [exec_bind, h.discard_draft]
  rfl

/-- Where the old entry is overlooked, the new one does not get its name, and the old one is
kept. -/
theorem run_overlooked :
    (c.script (.installing false)).run (c.store.fill files (c.staged es)) =
      (.ok (.alreadyPresent old), files) := by
  obtain ⟨ks, found, busy⟩ := h.entry
  obtain ⟨present, read⟩ := exec_lookup_some h.readable
  have kept : (c.staged es).find? (.text c.key.text) = some (.directory ks) :=
    (c.find?_drafted es _).trans found
  have refused : (c.store.fill files (c.staged es)).rename (c.at_ c.draft) (c.at_ c.key.text) =
      .error .notEmpty :=
    FileTree.rename_occupied (h.opened.fill _) (Entries.find?_set_self ..) kept busy
  show exec (c.store.install c.key c.draft false) _ = _
  simp only [install, exec_bind, exec_askRename, refused, FileOp.changed, h.discard_draft,
    exec_isDir, present, if_true, exec_keep, read, Except.map]

/-- The new entry does not get the name that the old one had. -/
theorem lost_dropping (ks : Entries) (e : OsError) :
    c.Lost ((c.script (.dropping e)).run (c.store.fill files (c.swept es ks))) := by
  have free : ((c.swept es ks).erase (.text c.draft)).find? (.text c.key.text) = none :=
    (Entries.find?_erase_ne c.draft_ne_key.symm _).trans (find?_swept c es ks)
  have removed : exec (discard (c.at_ c.draft)) (c.store.fill files (c.swept es ks)) =
      (.ok (), c.store.fill files ((c.swept es ks).erase (.text c.draft))) := by
    rw [exec_discard_entry (h.opened.fill _) (find?_swept_draft c es ks), h.opened.fill_fill]
  have absent : (c.store.fill files ((c.swept es ks).erase (.text c.draft))).isDirAt
      (c.at_ c.key.text) = false := by
    rw [(h.opened.fill _).isDirAt, free]
    rfl
  have ran : (c.script (.dropping e)).run (c.store.fill files (c.swept es ks)) =
      (.error (.io .rename (c.store.entryPath c.key) e),
        c.store.fill files ((c.swept es ks).erase (.text c.draft))) := by
    show exec (discard (c.at_ c.draft) >>= fun _ => isDir (c.at_ c.key.text) >>= fun there =>
      if there then c.store.keep c.key else throw (.io .rename (c.store.entryPath c.key) e)) _ = _
    simp only [exec_bind, removed, exec_isDir, absent, Bool.false_eq_true, if_false, exec_throw]
  rw [ran]
  exact ⟨⟨_, rfl⟩, h.lookup_lost free⟩

/-- The old entry cannot be moved away. -/
theorem littered_staged (e : StoreError) :
    c.Littered old (.error e, c.store.fill files (c.staged es)) where
  failed := ⟨e, rfl⟩
  found := h.lookup_kept (c.find?_drafted es _)
  draft := (FileTree.at?_entry (h.opened.fill _) _).trans (Entries.find?_set_self ..)

/-- A replacement that goes on after a failure keeps its promise, unless the old entry could not be
moved away or the new one did not get its name. -/
theorem sound_of_fails (fails : c.replacement.Fails files op outcome) (kept : op ≠ c.removal) :
    (op = c.retirement → c.Littered old outcome) ∧ (op = c.installation → c.Lost outcome) ∧
      (op ≠ c.retirement → op ≠ c.installation → c.Sound files old outcome) := by
  obtain ⟨ks, found, -⟩ := h.entry
  obtain ⟨comes, e, leaves⟩ := fails
  rcases h.phase_of_comesTo found comes with ⟨rfl, rfl, next⟩ | ⟨p, moves, smooth, rfl, move, rfl⟩
  · obtain rfl := leaves.isDir
    rw [next, h.run_making found]
    exact ⟨nofun, nofun, fun _ _ => ⟨⟨_, h.lookup_new, .inr rfl⟩, nofun⟩⟩
  · cases p with
    | making =>
        cases move
        obtain rfl := leaves.makeDirs (h.opened.fill _)
        rw [h.fill_making]
        exact ⟨nofun, nofun, fun _ _ => h.sound_unchanged _⟩
    | writingProgram =>
        cases move
        obtain ⟨fs, rfl⟩ := h.left_of_writing (program_free c.artifact) leaves
        have undone := h.run_undoing fs (.io .write ((c.shown c.draft).child
          c.artifact.manifest.language.fileName) e)
        exact ⟨nofun, nofun, fun _ _ => undone ▸ h.sound_unchanged _⟩
    | writingManifest =>
        cases move
        obtain ⟨fs, rfl⟩ := h.left_of_writing (manifest_free c.artifact) leaves
        have undone := h.run_undoing fs (.io .write ((c.shown c.draft).child manifestFile) e)
        exact ⟨nofun, nofun, fun _ _ => undone ▸ h.sound_unchanged _⟩
    | testing =>
        cases move
        obtain rfl := leaves.isDir
        exact ⟨nofun, nofun, fun _ _ => h.run_overlooked ▸ h.sound_unchanged _⟩
    | retiring =>
        cases move
        obtain rfl := leaves.rename
        exact ⟨fun _ => h.littered_staged _, fun same => absurd same c.retirement_ne_installation,
          fun other => absurd rfl other⟩
    | sweeping =>
        cases move
        exact absurd rfl kept
    | installing replaced =>
        cases move
        obtain rfl := leaves.rename
        exact ⟨fun same => absurd same.symm c.retirement_ne_installation,
          fun _ => h.lost_dropping ks e, fun _ other => absurd rfl other⟩
    | returned => cases move
    | _ => exact smooth.elim

/-- A replacement comes to the three operations that it is exposed at. -/
theorem comesTo_exposed (exposed : op ∈ [c.retirement, c.removal, c.installation]) :
    ∃ next now, c.replacement.ComesTo files op next now := by
  obtain ⟨ks, found, -⟩ := h.entry
  simp only [List.mem_cons, List.not_mem_nil, or_false] at exposed
  rcases exposed with rfl | rfl | rfl
  · exact ⟨_, _, h.comesTo_course found (p := .retiring) trivial rfl⟩
  · exact ⟨_, _, h.comesTo_course found (p := .sweeping) trivial rfl⟩
  · exact ⟨_, _, h.comesTo_course found (p := .installing true) rfl rfl⟩

end Replacing

/-- **What is safe about a replacement, and what is not.** At its end the new artifact is found. A
process that dies before leaves the old one, but none once it has moved the old entry away. Where an
operation fails and removing works, the promise is kept, but where the old entry cannot be moved
away the new one is left behind, and where the new one does not get its name both are lost. No
replacement avoids these operations. -/
theorem replacement_interrupted (h : c.Replacing files es old) :
    ((c.replacement.run files).1 = .ok .replaced ∧
      (exec (c.store.lookup c.key) (c.replacement.run files).2).1 = .ok (some c.artifact)) ∧
    (∀ op left, c.replacement.Dies files op left →
      (exec (c.store.lookup c.key) left).1 =
        .ok (if op = c.removal ∨ op = c.installation then none else some old)) ∧
    (∀ op outcome, c.replacement.Fails files op outcome → op ≠ c.removal →
      (op = c.retirement → c.Littered old outcome) ∧ (op = c.installation → c.Lost outcome) ∧
        (op ≠ c.retirement → op ≠ c.installation → c.Sound files old outcome)) ∧
    ∀ op ∈ [c.retirement, c.removal, c.installation],
      (∃ left, c.replacement.Dies files op left) ∧
        ∃ outcome, c.replacement.Fails files op outcome := by
  refine ⟨h.replaced, fun op left dies => h.lookup_of_dies dies,
    fun op outcome fails kept => h.sound_of_fails fails kept, fun op mem => ?_⟩
  obtain ⟨next, now, comes⟩ := h.comesTo_exposed mem
  exact ⟨⟨now, .intro comes (.untouched op)⟩, ⟨_, .intro comes .ioFailure (.untouched op)⟩⟩

end Call

/-! ### A lost artifact -/

/-- A store with one entry. -/
def stocked (a : Artifact) : FileTree :=
  .directory (.entry "shelf" (.directory (.entry a.fingerprint.text (full a) .none)) .none)

/-- A call that replaces the entry. -/
def renewal : Call := ⟨shelf, keepAll "b", "1"⟩

/-- An artifact that is found under the fingerprint of a call can be replaced. -/
theorem Call.replacing_stocked {a b : Artifact} (same : a.fingerprint = b.fingerprint)
    (ha : a.isIntact = true ∧ a.manifest.Storable) (hb : b.isIntact = true ∧ b.manifest.Storable)
    (tag : String) :
    (Call.mk shelf b tag).Replacing (stocked a) (.entry a.fingerprint.text (full a) .none) a := by
  have opened : shelf.Contains (stocked a) (.entry a.fingerprint.text (full a) .none) := rfl
  have holds : Holds (.entry a.fingerprint.text (full a) .none) a := holds_written (if_pos rfl)
  exact {
    opened := opened
    readable := by rw [Call.key, ← same, exec_lookup opened holds ha.2 ha.1]
    draft := if_neg (same ▸ (Call.mk shelf b tag).draft_ne_key.symm)
    aside := if_neg (same ▸ (Call.mk shelf b tag).aside_ne_key.symm)
    storable := hb.2
    intact := hb.1 }

theorem replacing_renewal : renewal.Replacing (stocked (keepAll "a"))
    (.entry (keepAll "a").fingerprint.text (full (keepAll "a")) .none) (keepAll "a") := by
  have same : (keepAll "a").fingerprint = (keepAll "b").fingerprint := by
    simp only [Artifact.fingerprint, keepAll]
  exact Call.replacing_stocked same (proper_keepAll "a") (proper_keepAll "b") "1"

/-- The process dies, or the last renaming fails, and nothing is found; moving the old entry away
fails, and the new one is left behind. -/
theorem lost_renewal :
    (exec (shelf.lookup renewal.key) (stocked (keepAll "a"))).1 = .ok (some (keepAll "a")) ∧
    (∃ left, renewal.replacement.Dies (stocked (keepAll "a")) renewal.installation left ∧
      (exec (shelf.lookup renewal.key) left).1 = .ok none) ∧
    (∃ outcome, renewal.replacement.Fails (stocked (keepAll "a")) renewal.installation outcome ∧
      renewal.Lost outcome) ∧
    ∃ outcome, renewal.replacement.Fails (stocked (keepAll "a")) renewal.retirement outcome ∧
      renewal.Littered (keepAll "a") outcome := by
  have h := replacing_renewal
  have exposed : renewal.retirement ∈ [renewal.retirement, renewal.removal, renewal.installation] ∧
      renewal.installation ∈ [renewal.retirement, renewal.removal, renewal.installation] :=
    ⟨.head _, .tail _ (.tail _ (.head _))⟩
  obtain ⟨next, now, retires⟩ := h.comesTo_exposed exposed.1
  obtain ⟨next', now', installs⟩ := h.comesTo_exposed exposed.2
  have litter := FileScript.Fails.intro retires .ioFailure (.untouched _)
  have fails := FileScript.Fails.intro installs .ioFailure (.untouched _)
  have dies := FileScript.Dies.intro installs (.untouched _)
  refine ⟨h.readable, ⟨now', dies, ?_⟩, ⟨_, fails, (h.sound_of_fails fails nofun).2.1 rfl⟩,
    ⟨_, litter, (h.sound_of_fails litter nofun).1 rfl⟩⟩
  exact (h.lookup_of_dies dies).trans (congrArg Except.ok (if_pos (.inr rfl)))

theorem replacement_interrupted_renewal :
    renewal.Replacing (stocked (keepAll "a"))
        (.entry (keepAll "a").fingerprint.text (full (keepAll "a")) .none) (keepAll "a") ∧
      (∀ left, renewal.replacement.Dies (stocked (keepAll "a")) renewal.retirement left →
        (exec (shelf.lookup renewal.key) left).1 = .ok (some (keepAll "a"))) ∧
      (∀ outcome, renewal.replacement.Fails (stocked (keepAll "a")) renewal.installation outcome →
        renewal.Lost outcome) ∧
      ∃ left, renewal.replacement.Dies (stocked (keepAll "a")) renewal.removal left := by
  obtain ⟨-, dies, fails, comes⟩ := Call.replacement_interrupted replacing_renewal
  refine ⟨replacing_renewal, fun left died => ?_, fun outcome failed =>
    (fails _ outcome failed nofun).2.1 rfl, (comes renewal.removal (by simp)).1⟩
  have other :
      ¬(renewal.retirement = renewal.removal ∨ renewal.retirement = renewal.installation) :=
    not_or.2 ⟨nofun, renewal.retirement_ne_installation⟩
  exact (dies _ left died).trans (congrArg Except.ok (if_neg other))

end LabelForge.Store
