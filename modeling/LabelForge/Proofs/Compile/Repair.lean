import LabelForge.Proofs.Compile.Coherence
import LabelForge.Proofs.Store.Condition

/-!
# LabelForge.Proofs.Compile.Repair

**What becomes of a damaged entry.** A compilation that may use stored programs looks at the
directory under its fingerprint first. An artifact that is whole is used. An entry that is damaged
is compiled anew, and what is promoted then takes its place and is found there from then on,
whatever was in the directory before.

An entry of which a file cannot be read at all is not compiled anew: that the file is missing, or is
not in UTF-8, is a failure of the file system to the store, and ends the compilation. The same cut
through a program damages the entry at one byte and makes it unreadable at the next, inside a
character.
-/

namespace LabelForge

open FileTree (Entries)

namespace Compile

section Statement

variable {σ : Type} (agents : Agents σ) (settings : Settings) (store : Store)
  (request : CompileRequest) (w : World σ) (fs : Entries)

/-- What a compilation does with the directory that is under its fingerprint. -/
inductive Meets : Prop where
  /-- There is no program of rules with a defect. -/
  | invalid {defect : RuleSet.Defect} (invalid : request.rules.defect? = some defect)
      (ran : run agents settings (some store) request w = (.error (.invalidRules defect), w))
  /-- The artifact is used, and nothing else is done. -/
  | used {a : Artifact} (whole : Store.Whole (fingerprintOf agents settings request) fs a)
      (ran : run agents settings (some store) request w =
        (.ok (.cached (fingerprintOf agents settings request) a), w))
  /-- Programs are written and run, to replace the entry. -/
  | renewed {file : String} {damage : Damage}
      (damaged : Store.Damaged (fingerprintOf agents settings request) fs file damage)
      (ran : run agents settings (some store) request w = drive agents settings (some store) request
        (fingerprintOf agents settings request) true {} w)
  /-- The compilation ends before anything is written or run. -/
  | refused {file : String} {cause : OsError}
      (unreadable : Store.Unreadable (fingerprintOf agents settings request) fs file cause)
      (ran : run agents settings (some store) request w = (.error (.store (.io .read
        ((store.entryPath (fingerprintOf agents settings request)).child file) cause)), w))

/-- How a compilation leaves the directory that is under its fingerprint. -/
structure Repairs : Prop where
  met : Meets agents settings store request w fs
  /-- Every artifact that is returned is intact and names the fingerprint; as a stored one only that
  of a whole entry is returned. -/
  returned : ∀ outcome after a, run agents settings (some store) request w = (.ok outcome, after) →
    outcome.artifact = some a →
      a.isIntact = true ∧ a.fingerprint = fingerprintOf agents settings request ∧
        (outcome.status = .cached → Store.Whole (fingerprintOf agents settings request) fs a)
  /-- What is promoted is found in the store from then on, so long as it fits into a manifest and no
  device in a hidden directory swallows it. -/
  promoted : Fits settings request →
    (∀ state, Moment.parse? (agents.stamp state).moment.text = some (agents.stamp state).moment) →
    agents.Keeps (store.Clear (fingerprintOf agents settings request)) →
    store.Clear (fingerprintOf agents settings request) w.disk.files →
    ∀ outcome after, run agents settings (some store) request w = (.ok outcome, after) →
      outcome.status = .promoted → ∃ a, outcome.artifact = some a ∧
        Store.exec (store.lookup (fingerprintOf agents settings request)) after.disk.files =
          (.ok (some a), after.disk.files)
  /-- Where nobody else works on the store and its hidden names are free, a compilation of proper
  rules is aborted only if programs cannot be run or a file of the entry cannot be read. -/
  aborted : request.rules.defect? = none → agents.Spare store →
    (∀ kind tag, w.disk.files.at?
      (store.place (Store.sibling (fingerprintOf agents settings request) kind tag)) = none) →
    ∀ e after, run agents settings (some store) request w = (.error e, after) →
      (∃ cause, e = .sandbox cause) ∨
        ∃ file cause, Store.Unreadable (fingerprintOf agents settings request) fs file cause ∧
          e = .store (.io .read
            ((store.entryPath (fingerprintOf agents settings request)).child file) cause)

end Statement

variable {σ : Type} {agents : Agents σ} {settings : Settings} {store : Store}
  {request : CompileRequest} {fingerprint : Fingerprint} {w after : World σ} {es fs : Entries}
  {outcome : CompileOutcome}

/-! ### The lookup in the beginning -/

section Lookup

variable (valid : request.rules.defect? = none) (unforced : settings.force = false)
  (contains : store.Contains w.disk.files es)
  (found : es.find? (.text (fingerprintOf agents settings request).text) = some (.directory fs))
include valid unforced contains found

theorem run_whole {a : Artifact}
    (whole : Store.Whole (fingerprintOf agents settings request) fs a) :
    run agents settings (some store) request w =
      (.ok (.cached (fingerprintOf agents settings request) a), w) := by
  simp only [run, valid, consult, unforced, Bool.false_eq_true, if_false, Store.runOn_eq,
    Store.exec_lookup_whole contains found whole]

theorem run_damaged {file : String} {damage : Damage}
    (damaged : Store.Damaged (fingerprintOf agents settings request) fs file damage) :
    run agents settings (some store) request w = drive agents settings (some store) request
      (fingerprintOf agents settings request) true {} w := by
  simp only [run, valid, consult, unforced, Bool.false_eq_true, if_false, Store.runOn_eq,
    Store.exec_lookup_damaged contains found damaged]

theorem run_unreadable {file : String} {cause : OsError}
    (unreadable : Store.Unreadable (fingerprintOf agents settings request) fs file cause) :
    run agents settings (some store) request w = (.error (.store (.io .read
      ((store.entryPath (fingerprintOf agents settings request)).child file) cause)), w) := by
  simp only [run, valid, consult, unforced, Bool.false_eq_true, if_false, Store.runOn_eq,
    Store.exec_lookup_unreadable contains found unreadable]

end Lookup

/-- What a compilation does depends on the condition of the entry. -/
theorem meets (unforced : settings.force = false) (contains : store.Contains w.disk.files es)
    (found : es.find? (.text (fingerprintOf agents settings request).text) =
      some (.directory fs)) : Meets agents settings store request w fs := by
  cases valid : request.rules.defect? with
  | some defect => exact .invalid valid (by simp only [run, valid])
  | none =>
      rcases Store.condition_cases (fingerprintOf agents settings request) fs with
        ⟨a, whole⟩ | ⟨file, damage, damaged⟩ | ⟨file, cause, unreadable⟩
      · exact .used whole (run_whole valid unforced contains found whole)
      · exact .renewed damaged (run_damaged valid unforced contains found damaged)
      · exact .refused unreadable (run_unreadable valid unforced contains found unreadable)

/-! ### Attempts that replace an entry -/

/-- Attempts that nobody watches end in the same way. -/
theorem drive_closes_plain {replace : Bool} {P : FileTree → Prop} (keeps : agents.Keeps P)
    (holds : P w.disk.files) :
    ∃ result noted, drive agents settings (some store) request fingerprint replace {} w =
        (result, noted.plain) ∧
      Closes agents settings (some store) request fingerprint replace P result noted := by
  obtain ⟨result, noted, watched, plain⟩ := drive_mirrors agents settings (some store) request
    fingerprint replace {} w.unwatched
  obtain ⟨_, _, driven, closes⟩ := drive_closes keeps (sound_start w) holds
  obtain ⟨rfl, rfl⟩ := Prod.mk.inj (watched.symm.trans driven)
  exact ⟨_, _, plain, closes⟩

/-- What is returned was made by these attempts, as nothing in the store is kept. -/
theorem replaced_returned {a : Artifact}
    (driven : drive agents settings (some store) request fingerprint true {} w =
      (.ok outcome, after)) (returned : outcome.artifact = some a) :
    outcome.status = .promoted ∧ a.isIntact = true ∧ a.fingerprint = fingerprint := by
  obtain ⟨result, noted, plain, closes⟩ :=
    drive_closes_plain (P := fun _ => True) (fun _ _ _ _ => id) trivial
  obtain ⟨rfl, rfl⟩ := Prod.mk.inj (plain.symm.trans driven)
  cases closes with
  | spent => cases returned
  | passed kept executed succeeded passed left finished =>
      rw [finish_concat] at finished
      rcases promoted : promote (some store) (artifactOf fingerprint request _ _ _ _) true _ _ with
        ⟨e | b, w'⟩ <;> rw [promoted] at finished
      · cases finished
      · cases finished
        cases returned
        obtain ⟨-, rfl | ⟨_, -, ⟨⟩, -⟩⟩ := promote_returned promoted
        exact ⟨rfl, beq_self_eq_true _, rfl⟩

/-- What is promoted is found, whatever was in the entry before. -/
theorem replaced_found (fits : Fits settings request)
    (survives : ∀ state,
      Moment.parse? (agents.stamp state).moment.text = some (agents.stamp state).moment)
    (keeps : agents.Keeps (store.Clear fingerprint)) (clear : store.Clear fingerprint w.disk.files)
    (driven : drive agents settings (some store) request fingerprint true {} w =
      (.ok outcome, after)) (status : outcome.status = .promoted) :
    ∃ a, outcome.artifact = some a ∧
      Store.exec (store.lookup fingerprint) after.disk.files =
        (.ok (some a), after.disk.files) := by
  obtain ⟨result, noted, watched, plain⟩ := drive_mirrors agents settings (some store) request
    fingerprint true {} w.unwatched
  obtain ⟨rfl, rfl⟩ := Prod.mk.inj (plain.symm.trans driven)
  -- that no device is in the way holds up to the promotion, as no run undoes it
  obtain ⟨_, _, driven, stored⟩ := drive_stores fits keeps
    (fun _ _ (kept : true = false) => nomatch kept) (fun _ => id) (sound_start w) clear
  obtain ⟨rfl, rfl⟩ := Prod.mk.inj (watched.symm.trans driven)
  obtain ⟨a, deposited⟩ := stored outcome rfl status
  obtain ⟨state, moment⟩ := deposited.stamped
  have storable := deposited.storable (moment ▸ survives state)
  obtain ⟨es, contains, holds⟩ := deposited.entry
  have found := Store.exec_lookup contains holds storable deposited.intact
  rw [deposited.own] at found
  exact ⟨a, deposited.returned, found⟩

/-- Where nothing is in the way of a promotion, attempts fail only if programs cannot be run. -/
theorem replaced_aborted {e : CompileError} (spare : agents.Spare store)
    (contains : store.Contains w.disk.files es)
    (found : es.find? (.text fingerprint.text) = some (.directory fs))
    (free : ∀ kind tag, es.find? (.text (Store.sibling fingerprint kind tag)) = none)
    (driven : drive agents settings (some store) request fingerprint true {} w =
      (.error e, after)) : ∃ cause, e = .sandbox cause := by
  obtain ⟨result, noted, plain, closes⟩ := drive_closes_plain spare.keeps contains
  obtain ⟨rfl, rfl⟩ := Prod.mk.inj (plain.symm.trans driven)
  cases closes with
  | halted cause => exact ⟨cause, rfl⟩
  | @passed records program run w _ _ same executed succeeded passed left finished =>
      rw [finish_concat] at finished
      generalize made : artifactOf fingerprint request (records.length + 1) program
        (Validation.check w.disk run request.expectations request.rows)
        (agents.observed.stamp w.agents).moment = a at finished
      have own : a.fingerprint = fingerprint := made ▸ rfl
      obtain ⟨answer, es', ran, promoted⟩ :=
        Store.exec_promote same a true (agents.observed.stamp w.agents).tag
      have present : w.disk.files.isDirAt (store.place a.fingerprint.text) = true :=
        (same.isDirAt_iff _).mpr ⟨fs, own ▸ found⟩
      simp only [promote, Store.runOn_eq, ran] at finished
      -- whatever blocks a promotion is not there: the entry is a directory, and its hidden names
      -- are free
      cases promoted with
      | kept there once => cases once
      | stored =>
          rw [present] at finished
          cases finished
      | failed cause blocked =>
          rw [own] at blocked
          rcases blocked with taken | taken | ⟨-, absent⟩
          · exact absurd (free _ _) taken
          · exact absurd (free _ _) taken
          · cases present.symm.trans (own ▸ absent)

/-! ### The whole compilation -/

/-- **A damaged entry is repaired, if its files can be read.** Whatever is in the directory under
its fingerprint and whatever the agents do, a compilation that may use stored programs uses the
artifact of an entry that is whole, compiles an entry that is damaged anew and puts what is promoted
in its place, and ends at once if a file of the entry cannot be read. It never returns a damaged
artifact. -/
theorem run_repairs {σ : Type} (agents : Agents σ) (settings : Settings) (store : Store)
    (request : CompileRequest) (w : World σ) (fs : Entries) (unforced : settings.force = false)
    (entry : w.disk.files.at? (store.place (fingerprintOf agents settings request).text) =
      some (.directory fs)) : Repairs agents settings store request w fs := by
  obtain ⟨es, contains, found⟩ := contains_of_entry entry
  have met : Meets agents settings store request w fs := meets unforced contains found
  refine ⟨met, ?returned, ?promoted, ?aborted⟩
  case returned =>
    intro outcome after a ran returned
    cases met with
    | invalid _ ended => cases ended.symm.trans ran
    | used whole ended =>
        cases ended.symm.trans ran
        cases returned
        exact ⟨whole.intact, whole.own, fun _ => whole⟩
    | renewed _ ended =>
        obtain ⟨status, intact, own⟩ := replaced_returned (ended.symm.trans ran) returned
        exact ⟨intact, own, fun cached => nomatch status.symm.trans cached⟩
    | refused _ ended => cases ended.symm.trans ran
  case promoted =>
    intro fits survives keeps clear outcome after ran status
    cases met with
    | invalid _ ended => cases ended.symm.trans ran
    | used _ ended =>
        cases ended.symm.trans ran
        cases status
    | renewed _ ended =>
        exact replaced_found fits survives keeps clear (ended.symm.trans ran) status
    | refused _ ended => cases ended.symm.trans ran
  case aborted =>
    intro valid spare free e after ran
    cases met with
    | invalid invalid _ => cases valid.symm.trans invalid
    | used _ ended => cases ended.symm.trans ran
    | renewed _ ended =>
        have hidden (kind tag : String) : es.find? (.text (Store.sibling
            (fingerprintOf agents settings request) kind tag)) = none :=
          (FileTree.at?_entry contains _).symm.trans (free kind tag)
        exact .inl (replaced_aborted spare contains found hidden (ended.symm.trans ran))
    | refused unreadable ended =>
        cases ended.symm.trans ran
        exact .inr ⟨_, _, unreadable, rfl⟩

/-- A store with one entry. -/
def entered (f : Fingerprint) (fs : Entries) : Disk :=
  shelved (.entry (.text f.text) (.directory fs) .none)

theorem found_entered (f : Fingerprint) (fs : Entries) :
    ∃ es, Store.shelf.Contains (entered f fs).files es ∧
      es.find? (.text f.text) = some (.directory fs) ∧
      ∀ kind tag, es.find? (.text (Store.sibling f kind tag)) = none := by
  refine ⟨.entry (.text f.text) (.directory fs) .none, by rfl, by simp [Entries.find?],
    fun kind tag => ?_⟩
  have hidden := (Store.sibling_ne_text f f kind tag).symm
  simp [Entries.find?, hidden]

/-- The tidy program takes the place of whatever is in the entry. -/
theorem drive_entered (f : Fingerprint) (fs : Entries) : ∃ outcome after,
    drive tidy {} (some Store.shelf) soleRow f true {} ⟨(), entered f fs⟩ = (.ok outcome, after) ∧
      outcome.status = .promoted := by
  obtain ⟨es, contains, found, free⟩ := found_entered f fs
  have spare : tidy.Spare Store.shelf := fun _ _ _ _ => rfl
  have passed : (Validation.check (entered f fs) tidyRun soleRow.expectations
      soleRow.rows).passed = true := by
    rw [entered, check_shelved]
    exact passed_tidy
  rcases driven : drive tidy {} (some Store.shelf) soleRow f true {} ⟨(), entered f fs⟩
    with ⟨result, after⟩
  have aborted e (h : result = .error e) : ∃ cause, e = .sandbox cause :=
    replaced_aborted spare contains found free (h ▸ driven)
  rw [drive_first rfl rfl rfl passed, ← List.nil_append [_], finish_concat] at driven
  rcases promote_turn (some Store.shelf) (artifactOf f soleRow _ _ _ _) true _ ⟨(), entered f fs⟩
    with ⟨_, _, stored⟩ | ⟨_, _, refused⟩
  · rw [stored] at driven
    cases driven
    exact ⟨_, _, rfl, rfl⟩
  · rw [refused] at driven
    cases driven
    obtain ⟨_, ⟨⟩⟩ := aborted _ rfl

/-- An entry whose manifest was cut off at its beginning. -/
def torn : Entries := .entry (.text Store.manifestFile) (.file []) .none

theorem damaged_torn (f : Fingerprint) :
    ∃ fault, Store.Damaged f torn Store.manifestFile (.badManifest fault) := by
  have read : Store.fileText torn Store.manifestFile = .ok "" := by rfl
  cases parsed : Manifest.parse "" with
  | error fault => exact ⟨fault, .manifest read parsed⟩
  | ok m =>
      have none : (Manifest.parse "").toOption = none := by decide +kernel
      rw [parsed] at none
      cases none

/-- The entry without a beginning of a manifest is replaced by the tidy program. -/
theorem run_repairs_torn : ∃ outcome after a,
    run tidy {} (some Store.shelf) soleRow ⟨(), entered (fingerprintOf tidy {} soleRow) torn⟩ =
        (.ok outcome, after) ∧
      outcome.status = .promoted ∧ outcome.artifact = some a ∧ a.isIntact = true ∧
      Store.exec (Store.shelf.lookup (fingerprintOf tidy {} soleRow)) after.disk.files =
        (.ok (some a), after.disk.files) := by
  obtain ⟨es, contains, found, free⟩ := found_entered (fingerprintOf tidy {} soleRow) torn
  have repairs := run_repairs tidy {} Store.shelf soleRow
    ⟨(), entered (fingerprintOf tidy {} soleRow) torn⟩ torn rfl
    ((FileTree.at?_entry contains _).trans found)
  obtain ⟨fault, damaged⟩ := damaged_torn (fingerprintOf tidy {} soleRow)
  obtain ⟨outcome, after, driven, status⟩ := drive_entered (fingerprintOf tidy {} soleRow) torn
  have valid : soleRow.rules.defect? = none := valid_soleRule
  have unforced : Settings.force {} = false := rfl
  have ran : run tidy {} (some Store.shelf) soleRow
      ⟨(), entered (fingerprintOf tidy {} soleRow) torn⟩ = (.ok outcome, after) :=
    (run_damaged valid unforced contains found damaged).trans driven
  have fits : Fits {} soleRow := ⟨by decide, by decide, by decide⟩
  have clear : Store.shelf.Clear (fingerprintOf tidy {} soleRow)
      (entered (fingerprintOf tidy {} soleRow) torn).files := by
    refine fun tag => contains.devicelessAt_iff.mpr fun fs taken => ?_
    cases (free _ _).symm.trans taken
  obtain ⟨a, returned, looked⟩ := repairs.promoted fits (fun _ => Moment.parse?_epoch)
    (fun _ _ _ _ => id) clear outcome after ran status
  obtain ⟨intact, -, -⟩ := repairs.returned outcome after a ran returned
  exact ⟨outcome, after, a, ran, status, returned, intact, looked⟩

/-- A compilation ends at an entry from which the manifest was removed. -/
theorem aborted_bareEntry :
    run tidy {} (some Store.shelf) soleRow
        ⟨(), entered (fingerprintOf tidy {} soleRow) .none⟩ =
      (.error (.store (.io .read ((Store.shelf.entryPath (fingerprintOf tidy {} soleRow)).child
        Store.manifestFile) .notFound)), ⟨(), entered (fingerprintOf tidy {} soleRow) .none⟩) := by
  have bare : Store.Unreadable (fingerprintOf tidy {} soleRow) .none Store.manifestFile .notFound :=
    .manifest (.missing rfl)
  obtain ⟨es, contains, found, -⟩ := found_entered (fingerprintOf tidy {} soleRow) .none
  have valid : soleRow.rules.defect? = none := valid_soleRule
  have unforced : Settings.force {} = false := rfl
  exact run_unreadable valid unforced contains found bare

end Compile

end LabelForge
