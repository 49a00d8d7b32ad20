import LabelForge.Proofs.Compile.Storage

/-!
# LabelForge.Proofs.Compile.Reuse

**A stored program is used again.** After a compilation has promoted a program, every later one with
the same rules, columns, policy, labels and language finds exactly the artifact that was returned.
It asks nobody and changes nothing, whatever else is different: the table, its rows, the
expectations, the budget, and who would write and run programs.

Two things have to meet. The artifact that is returned is the one in the entry (`drive_stores`), and
what is read from the entry is that artifact again, because every manifest of a compilation can be
stored (`storable_artifactOf`).
-/

namespace LabelForge

open FileTree (Entries)

namespace Compile

variable {σ τ : Type} {agents : Agents σ} {settings : Settings} {store : Store}
  {request : CompileRequest} {fingerprint : Fingerprint} {replace : Bool} {es : Entries}

/-- The numbers of a compilation fit the fields of a manifest. -/
structure Fits (settings : Settings) (request : CompileRequest) : Prop where
  attempts : settings.maxAttempts < 2 ^ 32
  rules : request.rules.rules.length < 2 ^ 64
  rows : request.rows < 2 ^ 64

/-! ### Manifests of programs that passed -/

/-- The manifest of a program that passed can be stored. -/
theorem storable_artifactOf (fits : Fits settings request) {disk : Disk} {run : Execution} {n : Nat}
    (passed : (Validation.check disk run request.expectations request.rows).passed = true)
    (counted : n ≤ settings.budget) {moment : Moment}
    (survives : Moment.parse? moment.text = some moment) (program : Candidate) :
    (artifactOf fingerprint request n program
      (Validation.check disk run request.expectations request.rows) moment).manifest.Storable := by
  have accepted := Validation.accepted_of_passed passed
  obtain ⟨f, c, -, -, -, -, -, distribution⟩ := Validation.passed_check passed
  exact {
    attempt := by
      have budget : settings.budget = max 1 settings.maxAttempts := rfl
      have attempts := fits.attempts
      show n < 2 ^ 32
      omega
    ruleCount := fits.rules
    rowCount := by
      rw [artifactOf, accepted.rowCount, Option.getD_some]
      exact fits.rows
    sorted := by
      rw [artifactOf, distribution]
      exact Tally.sorted_ofLabels _
    counts := by
      intro p mem
      have bound : p.2 ≤ request.rows := accepted.total ▸ Tally.le_total mem
      have rows := fits.rows
      omega
    moment := survives }

/-! ### What a compilation leaves in the store -/

/-- What a promotion has returned is in the entry of its fingerprint, and can be read from there if
its moment can. -/
structure Deposited (agents : Agents σ) (store : Store) (fingerprint : Fingerprint)
    (files : FileTree) (outcome : CompileOutcome) (a : Artifact) : Prop where
  named : outcome.fingerprint = fingerprint
  returned : outcome.artifact = some a
  own : a.fingerprint = fingerprint
  intact : a.isIntact = true
  stamped : ∃ state, a.manifest.promotedAt = (agents.stamp state).moment
  storable : Moment.parse? a.manifest.promotedAt.text = some a.manifest.promotedAt →
    a.manifest.Storable
  entry : ∃ es, store.Contains files es ∧ Store.Holds es a

/-- A program that passed is in the entry of the fingerprint when the last step has succeeded,
unless an entry that was there is kept or a device has swallowed it. -/
theorem finish_deposits {w w' : World (Noted σ)} {records : List AttemptRecord} {n : Nat}
    {program : Candidate} {run : Execution} {outcome : CompileOutcome}
    (fits : Fits settings request)
    (passed : (Validation.check w.disk run request.expectations request.rows).passed = true)
    (left : n ≤ settings.budget)
    (fresh : replace = false → w.disk.files.isDirAt (store.place fingerprint.text) = false)
    (clear : store.Clear fingerprint w.disk.files)
    (finished : finish agents.observed (some store) request fingerprint replace
      (records ++ [⟨n, .passed program run
        (Validation.check w.disk run request.expectations request.rows)⟩]) w =
          (.ok outcome, w')) :
    ∃ a, Deposited agents store fingerprint w'.disk.files outcome a := by
  generalize made : artifactOf fingerprint request n program
    (Validation.check w.disk run request.expectations request.rows)
    (agents.observed.stamp w.agents).moment = a
  have storable (survives : Moment.parse? (agents.observed.stamp w.agents).moment.text =
      some (agents.observed.stamp w.agents).moment) : a.manifest.Storable :=
    made ▸ storable_artifactOf fits passed left survives program
  have own : a.fingerprint = fingerprint := made ▸ rfl
  have intact : a.isIntact = true := made ▸ beq_self_eq_true _
  have moment : a.manifest.promotedAt = (agents.observed.stamp w.agents).moment := made ▸ rfl
  simp only [finish_concat, made, promote, Store.runOn_eq] at finished
  rcases ran : Store.exec (store.promote a replace (agents.observed.stamp w.agents).tag)
    w.disk.files with ⟨e | result, after⟩ <;> rw [ran] at finished
  · cases finished
  · -- an entry is kept only where there is one that is not to be replaced
    rcases Store.exec_promote_ok ran with ⟨b, -, once, -, present, -⟩ | ⟨new, stored⟩
    · rw [own, fresh once] at present
      cases present
    · have entry := stored (own ▸ clear _)
      cases result with
      | alreadyPresent b => exact absurd rfl (new b)
      | _ =>
          cases finished
          exact ⟨a, rfl, rfl, own, intact, ⟨_, moment⟩,
            fun survives => storable (moment ▸ survives), entry⟩

/-- Attempts that end with a promotion return what is in the entry then, if up to the end no entry
is to be kept and no device is in the way. -/
theorem drive_stores {P : FileTree → Prop} {p : Progress} {w : World (Noted σ)}
    (fits : Fits settings request) (keeps : agents.Keeps P)
    (fresh : ∀ files, P files → replace = false →
      files.isDirAt (store.place fingerprint.text) = false)
    (clear : ∀ files, P files → store.Clear fingerprint files)
    (sound : Sound settings request p w) (holds : P w.disk.files) :
    ∃ result w', drive agents.observed settings (some store) request fingerprint replace p w =
        (result, w') ∧
      ∀ outcome, result = .ok outcome → outcome.status = .promoted →
        ∃ a, Deposited agents store fingerprint w'.disk.files outcome a := by
  obtain ⟨result, w', driven, closes⟩ := drive_closes keeps sound holds
  refine ⟨result, w', driven, ?_⟩
  cases closes with
  | halted => exact nofun
  | spent =>
      rintro _ ⟨⟩ ⟨⟩
  | passed kept executed succeeded passed left finished =>
      rintro outcome rfl -
      exact finish_deposits fits passed left (fresh _ kept) (clear _ kept) finished

/-- A compilation that has promoted a program returns what is in the entry of its fingerprint. -/
theorem run_stores {w after : World σ} {outcome : CompileOutcome} (spare : agents.Spare store)
    (fits : Fits settings request) (contains : store.Contains w.disk.files es)
    (regular : ∀ tag, Store.Regular es
      (Store.staging (fingerprintOf agents settings request) tag))
    (ran : run agents settings (some store) request w = (.ok outcome, after))
    (status : outcome.status = .promoted) :
    request.rules.defect? = none ∧
      ∃ a, Deposited agents store (fingerprintOf agents settings request) after.disk.files outcome
        a := by
  obtain ⟨result, noted, watched, plain⟩ :=
    run_mirrors agents settings (some store) request w.unwatched
  obtain ⟨rfl, rfl⟩ := Prod.mk.inj (plain.symm.trans ran)
  unfold run at watched
  cases valid : request.rules.defect? with
  | some defect =>
      rw [valid] at watched
      cases watched
  | none =>
      refine ⟨rfl, ?_⟩
      rw [valid] at watched
      obtain ⟨answer, consulted, fresh⟩ := consult_reads settings
        (fingerprintOf agents.observed settings request) w.unwatched contains
      simp only [consulted] at watched
      rcases answer with e | ⟨_ | artifact, replace⟩
      · cases watched
      · -- an entry that was there would have been used, or is to be replaced
        have vacant (files : FileTree) (same : store.Contains files es) (once : replace = false) :
            files.isDirAt (store.place (fingerprintOf agents settings request).text) = false := by
          refine Bool.eq_false_iff.mpr fun present => ?_
          obtain ⟨fs, found⟩ := (same.isDirAt_iff _).mp present
          cases once.symm.trans (fresh replace rfl fs found)
        obtain ⟨_, _, driven, stored⟩ := drive_stores fits spare.keeps vacant
          (fun _ same tag => same.devicelessAt_iff.mpr (regular tag)) (sound_start w) contains
        obtain ⟨rfl, rfl⟩ := Prod.mk.inj (watched.symm.trans driven)
        exact stored outcome rfl status
      · cases watched
        cases status

/-! ### Using it again -/

/-- The entry of a name tells that the root is a directory with it. -/
theorem contains_of_entry {files : FileTree} {name : String} {node : FileTree}
    (h : files.at? (store.place name) = some node) :
    ∃ es, store.Contains files es ∧ es.find? (.text name) = some node := by
  rw [Store.place, FileTree.at?_append, Option.bind_eq_some_iff] at h
  obtain ⟨root, found, h⟩ := h
  obtain ⟨es, child, rfl, entry, here⟩ := FileTree.at?_cons_eq_some h
  obtain rfl : child = node := Option.some.inj here
  exact ⟨es, found, entry⟩

/-- A compilation that finds a stored program uses it and does nothing else. -/
theorem run_found {a : Artifact} {w : World σ} (valid : request.rules.defect? = none)
    (unforced : settings.force = false)
    (found : (Store.exec (store.lookup (fingerprintOf agents settings request))
      w.disk.files).1 = .ok (some a)) :
    run agents settings (some store) request w =
      (.ok (.cached (fingerprintOf agents settings request) a), w) := by
  have same := (Store.seesOnly_lookup store (fingerprintOf agents settings request)).unchanged
    w.disk.files
  simp only [run, valid, consult, unforced, Bool.false_eq_true, if_false, Store.runOn_eq, found,
    same]

/-- A stored program is found by every compilation of its fingerprint. -/
theorem run_cached {a : Artifact} {w : World σ} (valid : request.rules.defect? = none)
    (unforced : settings.force = false) (contains : store.Contains w.disk.files es)
    (holds : Store.Holds es a) (storable : a.manifest.Storable) (intact : a.isIntact = true)
    (own : a.fingerprint = fingerprintOf agents settings request) :
    run agents settings (some store) request w =
      (.ok (.cached (fingerprintOf agents settings request) a), w) := by
  have found := Store.exec_lookup contains holds storable intact
  rw [own] at found
  exact run_found valid unforced (congrArg Prod.fst found)

/-- What was deposited is used by every compilation of its fingerprint, so long as its entry is as
it was. -/
theorem Deposited.reused {agents' : Agents τ} {settings' : Settings} {request' : CompileRequest}
    {w' : World τ} {files : FileTree} {outcome : CompileOutcome} {a : Artifact}
    (deposited : Deposited agents store fingerprint files outcome a)
    (storable : a.manifest.Storable) (valid : request'.rules.defect? = none)
    (unforced : settings'.force = false)
    (same : fingerprintOf agents' settings' request' = fingerprint)
    (untouched : w'.disk.files.at? (store.place outcome.fingerprint.text) =
      files.at? (store.place outcome.fingerprint.text)) :
    run agents' settings' (some store) request' w' =
      (.ok (.cached outcome.fingerprint a), w') := by
  obtain ⟨es₁, contains₁, fs, entry, program, manifest⟩ := deposited.entry
  have there : w'.disk.files.at? (store.place outcome.fingerprint.text) = some (.directory fs) := by
    rw [untouched, Store.place, FileTree.at?_entry contains₁, deposited.named, ← deposited.own,
      entry]
  obtain ⟨es₂, contains₂, found⟩ := contains_of_entry there
  rw [deposited.named, ← deposited.own] at found
  have holds : Store.Holds es₂ a := ⟨fs, found, program, manifest⟩
  rw [deposited.named, ← same]
  exact run_cached valid unforced contains₂ holds storable deposited.intact
    (deposited.own.trans same.symm)

/-- **A stored program is used again.** A compilation that may use stored programs has promoted a
program. Then so long as nobody has touched its entry, every compilation with the same rules,
columns, policy, labels and language that may use stored programs returns the same fingerprint and
the same artifact, and leaves agents and disk as they were; whoever watches its agents sees no call.
The table, its sample and rows, the expectations, the budget, and the agents themselves may be
others. -/
theorem run_again {σ τ : Type} (agents : Agents σ) (agents' : Agents τ)
    (settings settings' : Settings) (store : Store) (request request' : CompileRequest)
    (w after : World σ) (w' : World τ) (es : Entries) (outcome : CompileOutcome)
    (spare : agents.Spare store)
    (fits : Fits settings request) (contains : store.Contains w.disk.files es)
    (regular : ∀ tag, Store.Regular es
      (Store.staging (fingerprintOf agents settings request) tag))
    (survives : ∀ a, outcome.artifact = some a →
      Moment.parse? a.manifest.promotedAt.text = some a.manifest.promotedAt)
    (ran : run agents settings (some store) request w = (.ok outcome, after))
    (status : outcome.status = .promoted)
    (unforced : settings'.force = false) (rules : request'.rules = request.rules)
    (columns : request'.schema.columns = request.schema.columns)
    (policy : settings'.tieBreak = settings.tieBreak) (labels : settings'.labels = settings.labels)
    (language : agents'.language = agents.language)
    (untouched : w'.disk.files.at? (store.place outcome.fingerprint.text) =
      after.disk.files.at? (store.place outcome.fingerprint.text)) :
    ∃ a, outcome.artifact = some a ∧
      run agents' settings' (some store) request' w' =
        (.ok (.cached outcome.fingerprint a), w') ∧
      run agents'.observed settings' (some store) request' w'.unwatched =
        (.ok (.cached outcome.fingerprint a), w'.unwatched) := by
  obtain ⟨valid, a, deposited⟩ := run_stores spare fits contains regular ran status
  have storable := deposited.storable (survives a deposited.returned)
  have same : fingerprintOf agents' settings' request' = fingerprintOf agents settings request := by
    rw [fingerprintOf, fingerprintOf, rules, policy, labels, language, Fingerprint.compute,
      Fingerprint.compute, columns]
  have valid : request'.rules.defect? = none := rules ▸ valid
  have plain : run agents' settings' (some store) request' w' =
      (.ok (.cached outcome.fingerprint a), w') :=
    deposited.reused storable valid unforced same untouched
  have watched : run agents'.observed settings' (some store) request' w'.unwatched =
      (.ok (.cached outcome.fingerprint a), w'.unwatched) :=
    deposited.reused storable valid unforced same untouched
  exact ⟨a, deposited.returned, plain, watched⟩

/-- The tidy program is stored and can be read again. -/
theorem deposited_tidy : ∃ outcome after a,
    run tidy {} (some Store.shelf) soleRow ⟨(), tidyDisk⟩ = (.ok outcome, after) ∧
      outcome.status = .promoted ∧
      Deposited tidy Store.shelf (fingerprintOf tidy {} soleRow) after.disk.files outcome a ∧
      Moment.parse? a.manifest.promotedAt.text = some a.manifest.promotedAt := by
  have spare : tidy.Spare Store.shelf := fun _ _ _ _ => rfl
  have fits : Fits {} soleRow := ⟨by decide, by decide, by decide⟩
  have regular (tag : String) : Store.Regular .none
      (Store.staging (fingerprintOf tidy {} soleRow) tag) := fun _ => nofun
  obtain ⟨outcome, after, ran, status⟩ := run_tidy
  obtain ⟨-, a, deposited⟩ := run_stores spare fits contains_tidy regular ran status
  refine ⟨outcome, after, a, ran, status, deposited, ?_⟩
  obtain ⟨_, moment⟩ := deposited.stamped
  rw [moment]
  exact Moment.parse?_epoch

/-- The agents that never write a working program use the one of agents that do. -/
theorem run_again_clumsy :
    ∃ outcome after a,
      run tidy {} (some Store.shelf) soleRow ⟨(), tidyDisk⟩ = (.ok outcome, after) ∧
      outcome.status = .promoted ∧ outcome.artifact = some a ∧
      run clumsy { maxAttempts := 9 } (some Store.shelf) soleRule ⟨0, after.disk⟩ =
        (.ok (.cached outcome.fingerprint a), ⟨0, after.disk⟩) := by
  have spare : tidy.Spare Store.shelf := fun _ _ _ _ => rfl
  have fits : Fits {} soleRow := ⟨by decide, by decide, by decide⟩
  have regular (tag : String) : Store.Regular .none
      (Store.staging (fingerprintOf tidy {} soleRow) tag) := fun _ => nofun
  obtain ⟨outcome, after, b, ran, status, deposited, readable⟩ := deposited_tidy
  have survives : ∀ a, outcome.artifact = some a →
      Moment.parse? a.manifest.promotedAt.text = some a.manifest.promotedAt := by
    intro a returned
    obtain rfl : b = a := Option.some.inj (deposited.returned.symm.trans returned)
    exact readable
  obtain ⟨a, returned, cached, -⟩ := run_again tidy clumsy {} { maxAttempts := 9 } Store.shelf
    soleRow soleRule _ after ⟨0, after.disk⟩ .none outcome spare fits contains_tidy regular survives
    ran status rfl rfl rfl rfl rfl rfl rfl
  exact ⟨outcome, after, a, ran, status, returned, cached⟩

end Compile

end LabelForge
