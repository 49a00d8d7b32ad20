import LabelForge.Proofs.Compile.Closing
import LabelForge.Proofs.Disk
import LabelForge.Proofs.Store.Promotion
import LabelForge.Proofs.Validation

/-!
# LabelForge.Proofs.Compile.Storage

**Nothing unverified is stored.** A compilation changes the store only if a program that it had
written itself ran and passed, and then only the entry of its own fingerprint. That holds as long
as nobody else touches the store, the programs that are run included.

The store is as it was in every phase before the promotion, so only the last step has to be looked
at: what it hands to the store is the artifact of the last record.
-/

namespace LabelForge

open FileTree (Entries)

/-- No program that is run touches the store. -/
def Agents.Spare {σ : Type} (agents : Agents σ) (store : Store) : Prop :=
  ∀ program input state disk,
    (agents.execute program input state disk).2.2.files.at? store.location =
      disk.files.at? store.location

/-- The entries of the store are after every run what they were before. -/
theorem Agents.Spare.keeps {σ : Type} {agents : Agents σ} {store : Store} {es : Entries}
    (h : agents.Spare store) : agents.Keeps fun files => store.Contains files es :=
  fun program input state disk contains => (h program input state disk).trans contains

namespace Compile

section Statement

variable (settings : Settings) (request : CompileRequest) (fingerprint : Fingerprint)

/-- An artifact whose program was run on the table and passed in one of the calls. -/
structure Verified (calls : List Call) (a : Artifact) : Prop where
  checked : ∃ program run disk, .executed program request.input (.ok run) disk ∈ calls ∧
    program.source = a.source ∧ program.language = a.manifest.language ∧ run.succeeded = true ∧
    (Validation.check disk run request.expectations request.rows).passed = true ∧
    (Validation.check disk run request.expectations request.rows).distribution =
      a.manifest.distribution
  fingerprint : a.fingerprint = fingerprint
  digest : a.manifest.sourceDigest = Sha256.hexOfText a.source
  rowCount : a.manifest.rowCount = request.rows
  /-- The labels that were counted are those of all rows. -/
  total : a.manifest.distribution.total = request.rows
  allowed : ∀ label ∈ a.manifest.distribution.labels, request.expectations.allows label = true
  required : ∀ label ∈ request.expectations.required, label ∈ a.manifest.distribution.labels
  attempt : 1 ≤ a.manifest.attempt ∧ a.manifest.attempt ≤ max 1 settings.maxAttempts

/-- How a compilation leaves the entries of the store, given its calls and its result. -/
structure Guarded (es es' : Entries) (calls : List Call)
    (result : Except CompileError CompileOutcome) : Prop where
  /-- Nothing changes unless a program was verified by the calls that were made. -/
  changed : es' ≠ es → ∃ a, Verified settings request fingerprint calls a
  /-- What is promoted was verified, and is in its entry then. A device that was in the hidden
  directory before is the only thing that could have swallowed it. -/
  promoted : ∀ outcome, result = .ok outcome → outcome.status = .promoted →
    ∃ a, outcome.artifact = some a ∧ Verified settings request fingerprint calls a ∧
      ((∀ tag, Store.Regular es (Store.staging fingerprint tag)) → Store.Holds es' a)
  /-- Beside that entry, nothing that was not there before is there after a promotion. -/
  clean : ∀ outcome, result = .ok outcome → ∀ name, name ≠ .text fingerprint.text →
    es'.find? name ≠ none → es'.find? name = es.find? name
  /-- A stored program that is used, and a budget that is spent, leave everything as it is. -/
  unpromoted : ∀ outcome, result = .ok outcome → outcome.status ≠ .promoted → es' = es
  /-- So does a fault, unless it is the store that fails; then the entry is still as it was. -/
  failed : ∀ e, result = .error e → es' = es ∨ (∃ cause, e = .store cause) ∧
    es'.find? (.text fingerprint.text) = es.find? (.text fingerprint.text)
  /-- No other entry is touched in any case. -/
  others : ∀ name, name ≠ .text fingerprint.text →
    (∀ tag, name ≠ Store.staging fingerprint tag ∧ name ≠ Store.retired fingerprint tag) →
    es'.find? name = es.find? name

end Statement

variable {σ : Type} {agents : Agents σ} {settings : Settings} {store : Store}
  {request : CompileRequest} {fingerprint : Fingerprint} {replace : Bool}
  {p : Progress} {es : Entries} {calls : List Call}

/-- Entries that did not change are guarded, unless a promotion is claimed. -/
theorem guarded_same {result : Except CompileError CompileOutcome}
    (unpromoted : ∀ outcome, result = .ok outcome → outcome.status ≠ .promoted) :
    Guarded settings request fingerprint es es calls result where
  changed := fun other => absurd rfl other
  promoted := fun outcome h status => absurd status (unpromoted outcome h)
  clean := fun _ _ _ _ _ => rfl
  unpromoted := fun _ _ _ => rfl
  failed := fun _ _ => .inl rfl
  others := fun _ _ _ => rfl

/-! ### The promotion -/

/-- The artifact of a program that passed is verified. -/
theorem verified_artifactOf {program : Candidate} {run : Execution} {disk : Disk} {n : Nat}
    (ran : .executed program request.input (.ok run) disk ∈ calls)
    (succeeded : run.succeeded = true)
    (passed : (Validation.check disk run request.expectations request.rows).passed = true)
    (counted : 1 ≤ n ∧ n ≤ settings.budget) (moment : Moment) :
    Verified settings request fingerprint calls (artifactOf fingerprint request n program
      (Validation.check disk run request.expectations request.rows) moment) := by
  have accepted := Validation.accepted_of_passed passed
  exact {
    checked := ⟨program, run, disk, ran, rfl, rfl, succeeded, passed, rfl⟩
    fingerprint := rfl
    digest := rfl
    rowCount := by rw [artifactOf, accepted.rowCount, Option.getD_some]
    total := accepted.total
    allowed := accepted.allowed
    required := accepted.required
    attempt := counted }

/-- A verified artifact that is stored and returned. -/
theorem guarded_stored {a : Artifact} {outcome : CompileOutcome} {es' : Entries} {tag : String}
    (verified : Verified settings request fingerprint calls a)
    (returned : outcome.status = .promoted ∧ outcome.artifact = some a)
    (holds : Store.Regular es (Store.staging fingerprint tag) → Store.Holds es' a)
    (differ : es.Differ (Store.touched fingerprint tag) es')
    (staged : es'.find? (Store.staging fingerprint tag) = none)
    (gone : es'.find? (Store.retired fingerprint tag) = none ∨
      es'.find? (Store.retired fingerprint tag) = es.find? (Store.retired fingerprint tag)) :
    Guarded settings request fingerprint es es' calls (.ok outcome) where
  changed := fun _ => ⟨a, verified⟩
  promoted := by
    rintro _ ⟨⟩ -
    exact ⟨a, returned.2, verified, fun regular => holds (regular tag)⟩
  clean := by
    intro _ _ name other there
    by_cases st : name = Store.staging fingerprint tag
    · exact absurd (st ▸ staged) there
    · by_cases rt : name = Store.retired fingerprint tag
      · rw [rt] at there ⊢
        exact gone.resolve_left there
      · exact differ.same name (by simp [other, st, rt])
  unpromoted := by
    rintro _ ⟨⟩ status
    exact absurd returned.1 status
  failed := nofun
  others := fun name other hidden => differ.same name (by simp [other, hidden])

/-- A verified artifact that the store refused. -/
theorem guarded_refused {a : Artifact} {cause : StoreError} {es' : Entries} {tag : String}
    (verified : Verified settings request fingerprint calls a)
    (differ : es.Differ (Store.touched fingerprint tag) es')
    (kept : es'.find? (.text fingerprint.text) = es.find? (.text fingerprint.text)) :
    Guarded settings request fingerprint es es' calls (.error (.store cause)) where
  changed := fun _ => ⟨a, verified⟩
  promoted := nofun
  clean := nofun
  unpromoted := nofun
  failed := by
    rintro _ ⟨⟩
    exact .inr ⟨⟨cause, rfl⟩, kept⟩
  others := fun name other hidden => differ.same name (by simp [other, hidden])

/-- The last step of a compilation stores the verified program, or the store fails and keeps the
entry that it had. -/
theorem finish_guarded {w : World σ} {program : Candidate} {report : Report} {n : Nat}
    (agents : Agents σ) (records : List AttemptRecord) (run : Execution)
    (contains : store.Contains w.disk.files es)
    (fresh : ∀ fs, es.find? (.text fingerprint.text) = some (.directory fs) → replace = true)
    (verified : ∀ moment, Verified settings request fingerprint calls
      (artifactOf fingerprint request n program report moment)) :
    ∃ result es', finish agents (some store) request fingerprint replace
        (records ++ [⟨n, .passed program run report⟩]) w =
          (result, { w with disk := { w.disk with files := store.fill w.disk.files es' } }) ∧
      Guarded settings request fingerprint es es' calls result := by
  have verified := verified (agents.stamp w.agents).moment
  generalize made : artifactOf fingerprint request n program report
    (agents.stamp w.agents).moment = a at verified
  obtain ⟨result, es', ran, promoted⟩ :=
    Store.exec_promote contains a replace (agents.stamp w.agents).tag
  have own := verified.fingerprint
  simp only [finish_concat, made, promote, Store.runOn_eq, ran]
  cases promoted with
  | kept there once =>
      -- a store that had an entry is asked to replace it
      rw [own] at there
      obtain ⟨fs, found⟩ := (contains.isDirAt_iff _).mp there
      rw [fresh fs found] at once
      cases once
  | stored mode holds differ staged gone =>
      rw [own] at holds differ staged gone
      refine ⟨.ok ⟨fingerprint, .promoted, records ++ [⟨n, .passed program run report⟩], some a,
        run.outputPath⟩, es', ?_, guarded_stored verified ⟨rfl, rfl⟩ holds differ staged gone⟩
      cases w.disk.files.isDirAt (store.place a.fingerprint.text) <;> rfl
  | failed e blocked differ kept =>
      rw [own] at differ kept
      exact ⟨.error (.store e), es', rfl, guarded_refused verified differ kept⟩

/-! ### The whole compilation -/

/-- Attempts that begin soundly leave the store guarded. -/
theorem drive_guarded {p : Progress} {w : World (Noted σ)} (spare : agents.Spare store)
    (fresh : ∀ fs, es.find? (.text fingerprint.text) = some (.directory fs) → replace = true)
    (sound : Sound settings request p w) (contains : store.Contains w.disk.files es) :
    ∃ result w', drive agents.observed settings (some store) request fingerprint replace p w =
        (result, w') ∧
      ∃ es', store.Contains w'.disk.files es' ∧
        Guarded settings request fingerprint es es' w'.calls result := by
  obtain ⟨result, w', driven, closes⟩ := drive_closes spare.keeps sound contains
  refine ⟨result, w', driven, ?_⟩
  cases closes with
  | halted e same => exact ⟨es, same, guarded_same nofun⟩
  | spent records same =>
      refine ⟨es, same, guarded_same ?_⟩
      rintro _ ⟨⟩ ⟨⟩
  | @passed records program run w _ _ same executed succeeded passed left finished =>
      have verified moment : Verified settings request fingerprint w.calls (artifactOf fingerprint
          request (records.length + 1) program
          (Validation.check w.disk run request.expectations request.rows) moment) :=
        verified_artifactOf executed succeeded passed ⟨Nat.le_add_left .., left⟩ moment
      obtain ⟨_, es', stored, guarded⟩ :=
        finish_guarded agents.observed records run same fresh verified
      obtain ⟨rfl, rfl⟩ := Prod.mk.inj (finished.symm.trans stored)
      exact ⟨es', same.fill es', guarded⟩

/-- Consulting the store changes nothing at all, and an entry that is there and not used is to be
replaced. -/
theorem consult_reads (settings : Settings) (fingerprint : Fingerprint) (w : World σ)
    (contains : store.Contains w.disk.files es) :
    ∃ answer, consult settings (some store) fingerprint w = (answer, w) ∧
      ∀ replace, answer = .ok (none, replace) →
        ∀ fs, es.find? (.text fingerprint.text) = some (.directory fs) → replace = true := by
  unfold consult
  cases settings.force with
  | true =>
      refine ⟨_, rfl, ?_⟩
      rintro _ ⟨⟩ _ _
      rfl
  | false =>
      have same := (Store.seesOnly_lookup store fingerprint).unchanged w.disk.files
      simp only [Bool.false_eq_true, if_false, Store.runOn_eq, same]
      rcases looked : (Store.exec (store.lookup fingerprint) w.disk.files).1 with e | artifact
      · cases e with
        | corrupt =>
            refine ⟨_, rfl, ?_⟩
            rintro _ ⟨⟩ _ _
            rfl
        | _ => exact ⟨_, rfl, nofun⟩
      · refine ⟨_, rfl, ?_⟩
        rintro _ ⟨⟩ fs found
        exact absurd looked
          (Store.exec_lookup_present ((contains.isDirAt_iff _).mpr ⟨fs, found⟩))

/-- **Nothing unverified is stored.** Whatever the store holds and whatever the agents do, as long
as they leave the store alone, a compilation leaves the store guarded. -/
theorem run_guarded (agents : Agents σ) (settings : Settings) (store : Store)
    (request : CompileRequest) (w : World σ) (es : Entries) (spare : agents.Spare store)
    (contains : store.Contains w.disk.files es) :
    ∃ result after es',
      run agents settings (some store) request w = (result, after.plain) ∧
      run agents.observed settings (some store) request w.unwatched = (result, after) ∧
      store.Contains after.disk.files es' ∧
      Guarded settings request (fingerprintOf agents settings request) es es' after.calls
        result := by
  obtain ⟨result, after, watched, plain⟩ :=
    run_mirrors agents settings (some store) request w.unwatched
  refine ⟨result, after, ?_⟩
  suffices ∃ es', store.Contains after.disk.files es' ∧ Guarded settings request
      (fingerprintOf agents settings request) es es' after.calls result by
    obtain ⟨es', left, guarded⟩ := this
    exact ⟨es', plain, watched, left, guarded⟩
  unfold run at watched
  cases valid : request.rules.defect? with
  | some defect =>
      rw [valid] at watched
      cases watched
      exact ⟨es, contains, guarded_same nofun⟩
  | none =>
      rw [valid] at watched
      obtain ⟨answer, consulted, fresh⟩ := consult_reads settings
        (fingerprintOf agents.observed settings request) w.unwatched contains
      simp only [consulted] at watched
      rcases answer with e | ⟨_ | artifact, replace⟩
      · cases watched
        exact ⟨es, contains, guarded_same nofun⟩
      · have sound : Sound settings request {} w.unwatched := sound_start w
        obtain ⟨_, _, driven, ended⟩ := drive_guarded spare (fresh replace rfl) sound contains
        obtain ⟨rfl, rfl⟩ := Prod.mk.inj (watched.symm.trans driven)
        exact ended
      · cases watched
        refine ⟨es, contains, guarded_same ?_⟩
        rintro _ ⟨⟩
        exact nofun

/-! ### A compilation that stores a program -/

/-- A program that passed is handed over in one last step. -/
theorem drive_promote {store : Option Store} {w : World σ} (phase : p.phase = .promote) :
    drive agents settings store request fingerprint replace p w =
      finish agents store request fingerprint replace p.records w := by
  rw [drive_eq]
  simp only [advance, phase]
  rcases finish agents store request fingerprint replace p.records w with ⟨_ | _, _⟩ <;> rfl

/-- A first program that passes is handed over. -/
theorem drive_first {store : Option Store} {w : World σ} {program : Candidate} {run : Execution}
    {state state' : σ} {disk : Disk}
    (wrote : agents.write (synthesisRequest settings request 1 none) w.agents =
      (.ok program, state))
    (ran : agents.execute program request.input state w.disk = (.ok run, state', disk))
    (succeeded : run.succeeded = true)
    (passed : (Validation.check disk run request.expectations request.rows).passed = true) :
    drive agents settings store request fingerprint replace {} w =
      finish agents store request fingerprint replace
        [⟨1, .passed program run (Validation.check disk run request.expectations request.rows)⟩]
        ⟨state', disk⟩ := by
  rw [drive_eq]
  simp only [advance, settle, generate, Nat.zero_add, wrote, Phase.next]
  rw [drive_eq]
  simp only [advance, settle, execute, ran, succeeded, Phase.next, if_true]
  rw [drive_eq]
  simp only [advance, settle, validate, passed, Progress.record, Phase.next, if_true]
  rw [drive_promote rfl]
  rfl

/-- A run that left its table in `out.csv`. -/
def tidyRun : Execution := ⟨some 0, "", "", .ofMillis 1, false, true, some ⟨"out.csv"⟩⟩

/-- A disk with a table of one row in `out.csv`, and a directory without entries. -/
def tidyDisk : Disk where
  files := .directory (.entry "shelf" .empty
    (.entry "out.csv" (.file (Text.bytesOf "Status\nkeep\n")) .none))

/-- Agents whose first program leaves that table. -/
def tidy : Agents Unit where
  language := .python
  write request _ :=
    (.ok { attempt := request.attempt, language := .python, source := "pass" }, ())
  execute _ _ _ disk := (.ok tidyRun, (), disk)
  stamp _ := ⟨⟨0, 0⟩, "1"⟩

/-- The sole rule on a table with one row. -/
def soleRow : CompileRequest := { soleRule with rows := 1 }

theorem passed_tidy :
    (Validation.check tidyDisk tidyRun soleRow.expectations soleRow.rows).passed = true := by
  have located : tidyDisk.locate ⟨"out.csv"⟩ = .ok ["out.csv"] := by
    rw [Disk.walks_out.locate]
    rfl
  simp only [Validation.check, Validation.artifact, tidyRun, Disk.isFile, Table.read, Disk.read,
    located]
  decide +kernel

/-- That disk with something in the directory. -/
def shelved (es : Entries) : Disk where
  files := .directory (.entry "shelf" (.directory es)
    (.entry "out.csv" (.file (Text.bytesOf "Status\nkeep\n")) .none))

/-- Whatever is in the directory, the table is the same. -/
theorem check_shelved (es : Entries) :
    Validation.check (shelved es) tidyRun soleRow.expectations soleRow.rows =
      Validation.check tidyDisk tidyRun soleRow.expectations soleRow.rows := by
  have shelved : (shelved es).locate ⟨"out.csv"⟩ = .ok ["out.csv"] := by
    rw [Disk.walks_out.locate]
    rfl
  have tidy : tidyDisk.locate ⟨"out.csv"⟩ = .ok ["out.csv"] := by
    rw [Disk.walks_out.locate]
    rfl
  simp only [Validation.check, Validation.artifact, tidyRun, Disk.isFile, Table.read, Disk.read,
    shelved, tidy]
  rfl

theorem contains_tidy : Store.shelf.Contains tidyDisk.files .none := by rfl

/-- There is nothing to use in the empty store. -/
theorem consult_tidy (f : Fingerprint) (state : σ) :
    consult {} (some Store.shelf) f ⟨state, tidyDisk⟩ = (.ok (none, false), ⟨state, tidyDisk⟩) := by
  have absent : Store.exec (Store.shelf.lookup f) tidyDisk.files = (.ok none, tidyDisk.files) :=
    Store.exec_lookup_none contains_tidy rfl
  simp only [consult, Store.runOn_eq, absent]
  rfl

/-- With an empty store the first program is promoted. -/
theorem run_tidy : ∃ outcome w,
    run tidy {} (some Store.shelf) soleRow ⟨(), tidyDisk⟩ = (.ok outcome, w) ∧
      outcome.status = .promoted := by
  have contains := contains_tidy
  have valid : soleRow.rules.defect? = none := valid_soleRule
  simp only [run, valid, consult_tidy]
  generalize fingerprintOf tidy {} soleRow = f
  have promoted (a : Artifact) : ∃ w, promote (some Store.shelf) a false (tidy.stamp ()).tag
      ⟨(), tidyDisk⟩ = (.ok a, w) := by
    obtain ⟨result, es', ran, promoted⟩ := Store.exec_promote contains a false (tidy.stamp ()).tag
    have free : tidyDisk.files.isDirAt (Store.shelf.place a.fingerprint.text) = false := by
      rw [contains.isDirAt]
      rfl
    rw [free] at promoted
    simp only [promote, Store.runOn_eq, ran]
    cases promoted with
    | kept there => cases there
    | stored => exact ⟨_, rfl⟩
    | failed e blocked => rcases blocked with h | h | ⟨h, -⟩ <;> exact absurd rfl h
  rw [drive_first rfl rfl rfl passed_tidy, ← List.nil_append [_], finish_concat]
  generalize artifactOf f soleRow _ _ _ _ = a
  obtain ⟨w, promoted⟩ := promoted a
  rw [promoted]
  exact ⟨_, _, rfl, rfl⟩

theorem run_guarded_tidy :
    tidy.Spare Store.shelf ∧ Store.shelf.Contains tidyDisk.files .none ∧
      ∃ (outcome : CompileOutcome) (after : World (Noted Unit)) (es' : Entries) (a : Artifact),
        run tidy {} (some Store.shelf) soleRow ⟨(), tidyDisk⟩ = (.ok outcome, after.plain) ∧
        Store.shelf.Contains after.disk.files es' ∧ outcome.artifact = some a ∧
        Verified {} soleRow (fingerprintOf tidy {} soleRow) after.calls a ∧
        Store.Holds es' a := by
  have spare : tidy.Spare Store.shelf := fun _ _ _ _ => rfl
  have contains : Store.shelf.Contains tidyDisk.files .none := by rfl
  obtain ⟨outcome, w, ran, status⟩ := run_tidy
  obtain ⟨result, after, es', plain, -, left, guarded⟩ :=
    run_guarded tidy {} Store.shelf soleRow ⟨(), tidyDisk⟩ .none spare contains
  obtain rfl : result = .ok outcome := congrArg Prod.fst (plain.symm.trans ran)
  obtain ⟨a, returned, verified, holds⟩ := guarded.promoted outcome rfl status
  exact ⟨spare, contains, outcome, after, es', a, plain, left, returned, verified,
    holds fun _ _ => nofun⟩

end Compile

end LabelForge
