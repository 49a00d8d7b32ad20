import LabelForge.Proofs.Compile.Reuse

/-!
# LabelForge.Proofs.Compile.Coherence

**What belongs together in a promoted outcome.** A compilation that promotes a program has run it on
the table, and the output, the report and the counts of labels in its outcome are those of that run.
The artifact in the outcome is made of the same program unless somebody else has stored an artifact
of the same fingerprint since the compilation has looked for one: then that artifact is kept, and
returned in the place of the own one.

Other processes are among the agents here: while a program is run anything may happen to the disk.
-/

namespace LabelForge

open FileTree (Entries)

namespace Compile

/-- An attempt that passed: the program, its run, the disk it left, and when it was promoted. -/
structure Conclusion where
  attempt : Nat
  program : Candidate
  run : Execution
  disk : Disk
  moment : Moment

namespace Conclusion

variable (request : CompileRequest) (fingerprint : Fingerprint) (c : Conclusion)

/-- The report on the output of the run. -/
def report : Report :=
  Validation.check c.disk c.run request.expectations request.rows

/-- The artifact of the program. -/
def artifact : Artifact :=
  artifactOf fingerprint request c.attempt c.program (c.report request) c.moment

end Conclusion

/-- The output and the report of an outcome are those of a run that passed. -/
structure Coherent (request : CompileRequest) (outcome : CompileOutcome)
    (calls : List Call) (c : Conclusion) : Prop where
  executed : .executed c.program request.input (.ok c.run) c.disk ∈ calls
  passed : (c.report request).passed = true
  last : outcome.attempts.getLast? =
    some ⟨c.attempt, .passed c.program c.run (c.report request)⟩
  reported : outcome.lastReport = some (c.report request)
  output : outcome.output = c.run.outputPath

/-- The artifact that is returned, given the own one and the files before a compilation and after
it. -/
inductive Returned (settings : Settings) (store : Option Store) (own : Artifact)
    (before after : FileTree) : Artifact → Prop where
  | own : Returned settings store own before after own
  /-- An entry that was not there in the beginning is kept and returned. -/
  | other {s : Store} {existing : Artifact} (stores : store = some s)
      (unforced : settings.force = false)
      (absent : before.isDirAt (s.place own.fingerprint.text) = false)
      (present : after.isDirAt (s.place own.fingerprint.text) = true)
      (read : (Store.exec (s.readEntry own.fingerprint.text) after).1 = .ok existing) :
    Returned settings store own before after existing

variable {σ : Type} {agents : Agents σ} {settings : Settings} {store : Option Store}
  {request : CompileRequest} {fingerprint : Fingerprint} {replace : Bool}

/-! ### The store at the beginning and at the end -/

/-- What is used was found in the store. Where nothing is used there is no entry, unless it is to be
replaced. -/
theorem consult_read {w w' : World σ} {found : Option Artifact}
    (consulted : consult settings store fingerprint w = (.ok (found, replace), w')) :
    w' = w ∧
      (∀ a, found = some a → ∃ s, store = some s ∧ settings.force = false ∧
        (Store.exec (s.lookup fingerprint) w.disk.files).1 = .ok (some a)) ∧
      (found = none → ∀ s, store = some s → replace = false →
        settings.force = false ∧ w.disk.files.isDirAt (s.place fingerprint.text) = false) := by
  unfold consult at consulted
  cases store with
  | none =>
      cases consulted
      exact ⟨rfl, nofun, fun _ => nofun⟩
  | some s =>
      simp only at consulted
      split at consulted
      · cases consulted
        exact ⟨rfl, nofun, fun _ _ _ => nofun⟩
      · rename_i unforced
        have unforced : settings.force = false := by simpa using unforced
        have same := (Store.seesOnly_lookup s fingerprint).unchanged w.disk.files
        rw [Store.runOn_eq, same] at consulted
        rcases looked : (Store.exec (s.lookup fingerprint) w.disk.files).1 with e | answer <;>
          rw [looked] at consulted
        · cases e with
          | corrupt =>
              cases consulted
              exact ⟨rfl, nofun, fun _ _ _ => nofun⟩
          | io => cases consulted
          | manifest => cases consulted
        · cases consulted
          refine ⟨rfl, ?_, ?_⟩
          · rintro a rfl
            exact ⟨s, rfl, unforced, looked⟩
          · rintro rfl _ ⟨⟩ -
            refine ⟨unforced, ?_⟩
            cases present : w.disk.files.isDirAt (s.place fingerprint.text) with
            | false => rfl
            | true => exact absurd looked (Store.exec_lookup_present present)

/-- An artifact that was handed to the store is returned, or the one that is in its entry. -/
theorem promote_returned {w w' : World σ} {a b : Artifact} {tag : String}
    (promoted : promote store a replace tag w = (.ok b, w')) :
    w'.agents = w.agents ∧ (b = a ∨ ∃ s, store = some s ∧ replace = false ∧
      w'.disk.files = w.disk.files ∧
      w.disk.files.isDirAt (s.place a.fingerprint.text) = true ∧
      (Store.exec (s.readEntry a.fingerprint.text) w.disk.files).1 = .ok b) := by
  unfold promote at promoted
  cases store with
  | none =>
      cases promoted
      exact ⟨rfl, .inl rfl⟩
  | some s =>
      simp only [Store.runOn_eq] at promoted
      rcases ran : Store.exec (s.promote a replace tag) w.disk.files with
        ⟨e | result, after⟩ <;> rw [ran] at promoted
      · cases promoted
      · cases result with
        | created =>
            cases promoted
            exact ⟨rfl, .inl rfl⟩
        | replaced =>
            cases promoted
            exact ⟨rfl, .inl rfl⟩
        | alreadyPresent existing =>
            cases promoted
            obtain ⟨once, same, present, read⟩ := Store.exec_promote_kept ran
            exact ⟨rfl, .inr ⟨s, rfl, once, same, present, read⟩⟩

/-- What is at a place of the store depends on the root only. -/
theorem isDirAt_congr {s : Store} {files files' : FileTree}
    (same : files.at? s.location = files'.at? s.location) (name : String) :
    files.isDirAt (s.place name) = files'.isDirAt (s.place name) := by
  simp only [FileTree.isDirAt, Store.place, FileTree.at?_append, same]

/-! ### The whole compilation -/

/-- A compilation with its last record, its output, and an artifact that is its own or the one that
is in the entry of its fingerprint. -/
structure Concludes (agents : Agents σ) (settings : Settings) (store : Option Store)
    (request : CompileRequest) (before after : FileTree) (calls : List Call)
    (outcome : CompileOutcome) (c : Conclusion) : Prop where
  coherent : Coherent request outcome calls c
  returned : ∃ a, outcome.artifact = some a ∧ Returned settings store
    (c.artifact request (fingerprintOf agents settings request)) before after a
  /-- Where nobody else works on the store the artifact is the own one. -/
  alone : ∀ s, store = some s → agents.Spare s →
    outcome.artifact = some (c.artifact request (fingerprintOf agents settings request))

/-- How a compilation comes to an outcome, given its calls and the files before and after it. -/
inductive Ends (agents : Agents σ) (settings : Settings) (store : Option Store)
    (request : CompileRequest) (before after : FileTree) (calls : List Call) :
    CompileOutcome → Prop where
  /-- The store has a program that is used. -/
  | cached {s a} (stores : store = some s) (unforced : settings.force = false)
      (found : (Store.exec (s.lookup (fingerprintOf agents settings request)) before).1 =
        .ok (some a)) :
    Ends agents settings store request before after calls
      (.cached (fingerprintOf agents settings request) a)
  | promoted {outcome c} (status : outcome.status = .promoted)
      (concludes : Concludes agents settings store request before after calls outcome c) :
    Ends agents settings store request before after calls outcome
  | failed {outcome} (status : outcome.status = .failed) :
    Ends agents settings store request before after calls outcome

/-- The last step of a compilation. -/
theorem ends_finish {w w' : World (Noted σ)} {before : FileTree} {records : List AttemptRecord}
    {c : Conclusion} {outcome : CompileOutcome}
    (missed : ∀ s, store = some s → replace = false → settings.force = false ∧
      before.isDirAt (s.place (fingerprintOf agents settings request).text) = false)
    (untouched : ∀ s, store = some s → agents.Spare s →
      w.disk.files.at? s.location = before.at? s.location)
    (executed : .executed c.program request.input (.ok c.run) c.disk ∈ w.calls)
    (passed : (c.report request).passed = true)
    (moment : c.moment = (agents.stamp w.agents.1).moment)
    (finished : finish agents.observed store request (fingerprintOf agents settings request)
      replace (records ++ [⟨c.attempt, .passed c.program c.run (c.report request)⟩]) w =
        (.ok outcome, w')) :
    Ends agents settings store request before w'.disk.files w'.calls outcome := by
  rw [finish_concat] at finished
  have own : artifactOf (fingerprintOf agents settings request) request c.attempt c.program
      (c.report request) (agents.observed.stamp w.agents).moment =
        c.artifact request (fingerprintOf agents settings request) := by
    rw [Conclusion.artifact, moment]
    rfl
  rw [own] at finished
  rcases promoted : promote store (c.artifact request (fingerprintOf agents settings request))
    replace (agents.observed.stamp w.agents).tag w with ⟨e | a, w₁⟩ <;> rw [promoted] at finished
  · cases finished
  · cases finished
    obtain ⟨agents_eq, same⟩ := promote_returned promoted
    refine .promoted rfl
      ⟨⟨?_, passed, List.getLast?_concat, ?_, rfl⟩, ⟨a, rfl, ?_⟩, fun s stores spare => ?_⟩
    · rw [World.calls, agents_eq]
      exact executed
    · simp [CompileOutcome.lastReport, AttemptOutcome.report?]
    · rcases same with rfl | ⟨s, stores, once, files, present, read⟩
      · exact .own
      · obtain ⟨unforced, absent⟩ := missed s stores once
        rw [← files] at present read
        exact .other stores unforced absent present read
    · rcases same with rfl | ⟨s', stores', once, -, present, -⟩
      · rfl
      · -- the entry would have been there from the beginning
        obtain rfl : s = s' := Option.some.inj (stores.symm.trans stores')
        obtain ⟨-, absent⟩ := missed s stores once
        rw [isDirAt_congr (untouched s stores spare)] at present
        exact nomatch present.symm.trans absent

/-- Attempts that begin soundly conclude with a run of the program that is promoted, or fail. -/
theorem ends_drive {p : Progress} {w : World (Noted σ)} {before : FileTree}
    (missed : ∀ s, store = some s → replace = false → settings.force = false ∧
      before.isDirAt (s.place (fingerprintOf agents settings request).text) = false)
    (sound : Sound settings request p w)
    (untouched : ∀ s, store = some s → agents.Spare s →
      w.disk.files.at? s.location = before.at? s.location) :
    ∃ result w', drive agents.observed settings store request
        (fingerprintOf agents settings request) replace p w = (result, w') ∧
      ∀ outcome, result = .ok outcome →
        Ends agents settings store request before w'.disk.files w'.calls outcome := by
  have keeps : agents.Keeps fun files => ∀ s, store = some s → agents.Spare s →
      files.at? s.location = before.at? s.location :=
    fun program input state disk same s stores spare =>
      (spare program input state disk).trans (same s stores spare)
  obtain ⟨result, w', driven, closes⟩ := drive_closes keeps sound untouched
  refine ⟨result, w', driven, ?_⟩
  cases closes with
  | halted => exact nofun
  | spent =>
      rintro _ ⟨⟩
      exact .failed rfl
  | @passed records program run w _ _ untouched executed succeeded passed left finished =>
      rintro outcome rfl
      exact ends_finish (c := ⟨records.length + 1, program, run, w.disk,
        (agents.stamp w.agents.1).moment⟩) missed untouched executed passed rfl finished

/-- A compilation comes to an outcome with what the store has, or by its own attempts. -/
theorem ends_run {w : World σ} {after : World (Noted σ)} {outcome : CompileOutcome}
    (watched : run agents.observed settings store request w.unwatched = (.ok outcome, after)) :
    Ends agents settings store request w.disk.files after.disk.files after.calls outcome := by
  unfold run at watched
  cases valid : request.rules.defect? with
  | some defect =>
      rw [valid] at watched
      cases watched
  | none =>
      rw [valid] at watched
      rcases consulted : consult settings store (fingerprintOf agents.observed settings request)
        w.unwatched with ⟨e | ⟨_ | artifact, replace⟩, w₁⟩ <;> simp only [consulted] at watched
      · cases watched
      · obtain ⟨rfl, -, missed⟩ := consult_read consulted
        have sound : Sound settings request {} w.unwatched := sound_start w
        have missed : ∀ s, store = some s → replace = false → settings.force = false ∧
            w.disk.files.isDirAt (s.place (fingerprintOf agents settings request).text) = false :=
          missed rfl
        obtain ⟨_, _, driven, ends⟩ := ends_drive missed sound fun _ _ _ => rfl
        obtain ⟨rfl, rfl⟩ := Prod.mk.inj (watched.symm.trans driven)
        exact ends outcome rfl
      · obtain ⟨-, found, -⟩ := consult_read consulted
        obtain ⟨s, stores, unforced, looked⟩ := found artifact rfl
        cases watched
        exact .cached stores unforced looked

/-- **A promoted outcome is coherent but for an artifact that was already there.** Whatever the
agents do, and other processes with them, a compilation that promotes a program has run that program
on the table. Its last record, its latest report and its output are those of this run, which passed.
The artifact that is returned is made of this program and this report, or else it is what is read
from the entry of the fingerprint: then the compilation was allowed to use stored programs, there
was no entry when it looked for one, and there was one when it promoted. While nobody else works on
the store that does not happen. -/
theorem run_coherent (agents : Agents σ) (settings : Settings) (store : Option Store)
    (request : CompileRequest) (w after : World σ) (outcome : CompileOutcome)
    (ran : run agents settings store request w = (.ok outcome, after))
    (status : outcome.status = .promoted) :
    ∃ noted, run agents.observed settings store request w.unwatched = (.ok outcome, noted) ∧
      noted.plain = after ∧
      ∃ c, Concludes agents settings store request w.disk.files after.disk.files noted.calls
        outcome c := by
  obtain ⟨result, noted, watched, plain⟩ :=
    run_mirrors agents settings store request w.unwatched
  obtain ⟨rfl, rfl⟩ := Prod.mk.inj (plain.symm.trans ran)
  refine ⟨noted, watched, rfl, ?_⟩
  cases ends_run watched with
  | cached => cases status
  | promoted _ concludes => exact ⟨_, concludes⟩
  | failed failed => exact nomatch failed.symm.trans status

/-! ### Somebody else's artifact -/

/-- The artifact of another program with the same run. -/
def rival : Artifact :=
  artifactOf (fingerprintOf tidy {} soleRow) soleRow 1
    { attempt := 1, language := .python, source := "return" }
    (Validation.check tidyDisk tidyRun soleRow.expectations soleRow.rows) ⟨0, 0⟩

/-- The disk with an artifact that somebody has stored. -/
def crowdedDisk (a : Artifact) : Disk where
  files := .directory (.entry "shelf"
    (.directory (.entry (.text a.fingerprint.text) (.directory (Store.written a .none)) .none))
    (.entry "out.csv" (.file (Text.bytesOf "Status\nkeep\n")) .none))

/-- While the tidy program runs, somebody else stores an artifact. -/
def crowded (a : Artifact) : Agents Unit :=
  { tidy with execute := fun _ _ _ _ => (.ok tidyRun, (), crowdedDisk a) }

theorem storable_rival : rival.manifest.Storable := by
  have fits : Fits {} soleRow := ⟨by decide, by decide, by decide⟩
  exact storable_artifactOf fits passed_tidy (by decide) Moment.parse?_epoch _

/-- The compilation keeps the artifact of the other one, and yet has its own program in its last
record. -/
theorem run_crowded (a : Artifact) (own : a.fingerprint = fingerprintOf tidy {} soleRow)
    (storable : a.manifest.Storable) : ∃ outcome after,
    run (crowded a) {} (some Store.shelf) soleRow ⟨(), tidyDisk⟩ = (.ok outcome, after) ∧
      outcome.status = .promoted ∧ outcome.artifact = some a ∧
      ∃ run report, outcome.attempts.getLast? = some
        ⟨1, .passed { attempt := 1, language := .python, source := "pass" } run report⟩ := by
  have valid : soleRow.rules.defect? = none := valid_soleRule
  have key : fingerprintOf (crowded a) {} soleRow = a.fingerprint := own.symm
  simp only [run, valid, key, consult_tidy]
  -- the output is checked as if nobody had worked on the store
  have passed : (Validation.check (crowdedDisk a) tidyRun soleRow.expectations
      soleRow.rows).passed = true := by
    rw [show crowdedDisk a = shelved _ from rfl, check_shelved]
    exact passed_tidy
  have executed (program : Candidate) : (crowded a).execute program soleRow.input () tidyDisk =
      (.ok tidyRun, (), crowdedDisk a) := rfl
  rw [drive_first rfl (executed _) rfl passed, ← List.nil_append [_], finish_concat]
  generalize made : artifactOf a.fingerprint soleRow _ _ _ _ = b
  -- the promotion finds the entry and returns what is in it
  have contains : Store.shelf.Contains (crowdedDisk a).files
    (.entry (.text a.fingerprint.text) (.directory (Store.written a .none)) .none) := by rfl
  have found : Entries.find? (.text a.fingerprint.text)
      (.entry (.text a.fingerprint.text) (.directory (Store.written a .none)) .none) =
        some (.directory (Store.written a .none)) := by simp [Entries.find?]
  have holds := Store.holds_written found
  have named : b.fingerprint = a.fingerprint := made ▸ rfl
  have promoted : Store.exec (Store.shelf.promote b false ((crowded a).stamp ()).tag)
      (crowdedDisk a).files = (.ok (.alreadyPresent a), (crowdedDisk a).files) := by
    have there := holds.isDirAt contains
    simp only [Store.promote, Store.exec_bind, Store.exec_isDir, named, there, Bool.not_false,
      Bool.and_true, if_true, Store.exec_keep, Store.exec_readEntry contains holds storable]
    rfl
  simp only [promote, Store.runOn_eq, promoted]
  exact ⟨_, _, rfl, rfl, rfl, _, _, rfl⟩

/-- A promoted outcome with a program in its last record and another one in its artifact. -/
theorem incoherent_crowded : ∃ outcome after a program run report,
    Compile.run (crowded rival) {} (some Store.shelf) soleRow ⟨(), tidyDisk⟩ =
      (.ok outcome, after) ∧
      outcome.status = .promoted ∧ outcome.artifact = some a ∧
      outcome.attempts.getLast? = some ⟨1, .passed program run report⟩ ∧
      a.source ≠ program.source := by
  obtain ⟨outcome, after, ran, status, artifact, run, report, last⟩ :=
    run_crowded rival rfl storable_rival
  exact ⟨outcome, after, rival, _, run, report, ran, status, artifact, last, by decide⟩

theorem run_coherent_tidy : ∃ outcome after noted c,
    run tidy {} (some Store.shelf) soleRow ⟨(), tidyDisk⟩ = (.ok outcome, after) ∧
      outcome.status = .promoted ∧
      Concludes tidy {} (some Store.shelf) soleRow tidyDisk.files after.disk.files noted outcome c ∧
      outcome.artifact = some (c.artifact soleRow (fingerprintOf tidy {} soleRow)) := by
  obtain ⟨outcome, after, ran, status⟩ := run_tidy
  obtain ⟨noted, -, -, c, concludes⟩ := run_coherent tidy {} (some Store.shelf) soleRow
    ⟨(), tidyDisk⟩ after outcome ran status
  have spare : tidy.Spare Store.shelf := fun _ _ _ _ => rfl
  exact ⟨outcome, after, noted.calls, c, ran, status, concludes, concludes.alone _ rfl spare⟩

end Compile

end LabelForge
