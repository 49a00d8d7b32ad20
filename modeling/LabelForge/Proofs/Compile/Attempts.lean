import LabelForge.Proofs.Compile.Observation

/-!
# LabelForge.Proofs.Compile.Attempts

**How a compilation goes.** Its attempts are numbered from one and none is left out; each makes
exactly the calls that its record tells of; each but possibly the last one fails; and there are
as many of them as the budget allows, unless one passes before.

The whole is carried by one invariant, `Sound`, of the progress at the beginning of a phase. It
ties the phase to what the progress holds and to the calls that have been noted: only where a
phase needs a program or its run is there one, which is why no phase is entered without it.
-/

namespace LabelForge

/-- Whether the output of the program passed. -/
def AttemptOutcome.isPassed : AttemptOutcome → Bool
  | .passed .. => true
  | _ => false

/-! ### Questions and answers -/

/-- A question to the agents together with the answer. -/
inductive Deed where
  /-- A program was asked for, on the given attempt. -/
  | wrote (attempt : Nat) (answer : Except GenerationError Candidate)
  /-- A program was to be run. -/
  | ran (program : Candidate) (answer : Except SandboxError Execution)

/-- What was asked and answered in a call. -/
def Call.deed : Call → Deed
  | .wrote request answer => .wrote request.attempt answer
  | .executed program _ answer _ => .ran program answer

/-- The number of the attempt for which a program was asked for. -/
def Call.asked? : Call → Option Nat
  | .wrote request _ => some request.attempt
  | .executed .. => none

/-- The program that was to be run. -/
def Call.ran? : Call → Option Candidate
  | .wrote .. => none
  | .executed program .. => some program

/-- What was asked and answered in an attempt, by its record. -/
def AttemptRecord.deeds : AttemptRecord → List Deed
  | ⟨attempt, .generationFailed e⟩ => [.wrote attempt (.error e)]
  | ⟨attempt, .executionFailed program run⟩ =>
    [.wrote attempt (.ok program), .ran program (.ok run)]
  | ⟨attempt, .validationFailed program run _⟩ =>
    [.wrote attempt (.ok program), .ran program (.ok run)]
  | ⟨attempt, .passed program run _⟩ => [.wrote attempt (.ok program), .ran program (.ok run)]

namespace Compile

/-- The lesson of the latest of the programs that failed. -/
def lessonOf (records : List AttemptRecord) : Option PriorAttempt :=
  records.foldl (fun prior record => record.outcome.lesson?.or prior) none

theorem lessonOf_concat (records : List AttemptRecord) (record : AttemptRecord) :
    lessonOf (records ++ [record]) = record.outcome.lesson?.or (lessonOf records) := by
  rw [lessonOf, List.foldl_append]
  rfl

section Trail

variable (settings : Settings) (request : CompileRequest)

/-- The calls of an attempt, given the lesson it started from, and the record it left. -/
inductive Attempted (prior : Option PriorAttempt) : AttemptRecord → List Call → Prop where
  | generationFailed (n e) :
    Attempted prior ⟨n, .generationFailed e⟩
      [.wrote (synthesisRequest settings request n prior) (.error e)]
  | executionFailed (n program run disk) (h : run.succeeded = false) :
    Attempted prior ⟨n, .executionFailed program run⟩
      [.wrote (synthesisRequest settings request n prior) (.ok program),
        .executed program request.input (.ok run) disk]
  | validationFailed (n program run disk) (h : run.succeeded = true)
      (failed : (Validation.check disk run request.expectations request.rows).passed = false) :
    Attempted prior
      ⟨n, .validationFailed program run
        (Validation.check disk run request.expectations request.rows)⟩
      [.wrote (synthesisRequest settings request n prior) (.ok program),
        .executed program request.input (.ok run) disk]
  | passed (n program run disk) (h : run.succeeded = true)
      (passed : (Validation.check disk run request.expectations request.rows).passed = true) :
    Attempted prior
      ⟨n, .passed program run (Validation.check disk run request.expectations request.rows)⟩
      [.wrote (synthesisRequest settings request n prior) (.ok program),
        .executed program request.input (.ok run) disk]

/-- The calls of an attempt as far as it has come, given the lesson it started from. -/
inductive Underway (n : Nat) (prior : Option PriorAttempt) : List Call → Prop where
  | begun : Underway n prior []
  | asked (answer) : Underway n prior [.wrote (synthesisRequest settings request n prior) answer]
  | ran (program answer disk) :
    Underway n prior [.wrote (synthesisRequest settings request n prior) (.ok program),
      .executed program request.input answer disk]

/-- The records of the attempts made so far, and all their calls. -/
inductive Trail : List AttemptRecord → List Call → Prop where
  | start : Trail [] []
  | more {records calls record made} (before : Trail records calls)
      (numbered : record.attempt = records.length + 1)
      (last : Attempted settings request (lessonOf records) record made) :
    Trail (records ++ [record]) (calls ++ made)

/-- The calls of a compilation at any time: those of attempts that failed, and those of the next one
as far as it has come. -/
inductive Made : List Call → Prop where
  | made {records calls now} (trail : Trail settings request records calls)
      (failed : ∀ r ∈ records, r.outcome.isPassed = false)
      (last : Underway settings request (records.length + 1) (lessonOf records) now) :
    Made (calls ++ now)

variable {settings request} {records : List AttemptRecord} {calls : List Call}

/-- The calls of an attempt are those its record tells of. -/
theorem Attempted.deeds {prior : Option PriorAttempt} {record : AttemptRecord}
    (h : Attempted settings request prior record calls) :
    calls.map Call.deed = record.deeds := by
  cases h <;> rfl

/-- The calls of all attempts are those the records tell of, one attempt after the other. -/
theorem Trail.deeds (h : Trail settings request records calls) :
    calls.map Call.deed = records.flatMap AttemptRecord.deeds := by
  induction h with
  | start => rfl
  | more _ _ last ih =>
      rw [List.map_append, ih, last.deeds, List.flatMap_append, List.flatMap_singleton]

/-- The attempts are numbered from one. -/
theorem Trail.numbered (h : Trail settings request records calls) :
    records.map AttemptRecord.attempt = List.range' 1 records.length := by
  induction h with
  | start => rfl
  | more _ numbered _ ih =>
      rw [List.map_append, ih, List.length_append, List.length_singleton, List.range'_concat,
        List.map_singleton, numbered, Nat.one_mul, Nat.add_comm]

/-- A program is asked for once on every attempt. -/
theorem Trail.asked (h : Trail settings request records calls) :
    calls.filterMap Call.asked? = records.map AttemptRecord.attempt := by
  induction h with
  | start => rfl
  | more _ _ last ih =>
      rw [List.filterMap_append, ih, List.map_append]
      cases last <;> rfl

/-- Every program that was written is run once. -/
theorem Trail.ran (h : Trail settings request records calls) :
    calls.filterMap Call.ran? = records.filterMap fun r => r.outcome.program? := by
  induction h with
  | start => rfl
  | more _ _ last ih =>
      rw [List.filterMap_append, ih, List.filterMap_append]
      cases last <;> rfl

end Trail

/-! ### The progress of a compilation -/

section Progress

variable {σ : Type} (settings : Settings) (request : CompileRequest)

/-- What holds of the progress and of the noted calls when a phase begins. -/
inductive Sound : Progress → World (Noted σ) → Prop where
  | generate {records w} (trail : Trail settings request records w.calls)
      (failed : ∀ r ∈ records, r.outcome.isPassed = false)
      (left : records.length < settings.budget) :
    Sound ⟨.generate, records.length, lessonOf records, none, none, records⟩ w
  | execute {records calls program w} (trail : Trail settings request records calls)
      (failed : ∀ r ∈ records, r.outcome.isPassed = false)
      (left : records.length < settings.budget)
      (noted : w.calls = calls ++
        [.wrote (synthesisRequest settings request (records.length + 1) (lessonOf records))
          (.ok program)]) :
    Sound ⟨.execute, records.length + 1, lessonOf records, some program, none, records⟩ w
  | validate {records calls program run w} (trail : Trail settings request records calls)
      (failed : ∀ r ∈ records, r.outcome.isPassed = false)
      (left : records.length < settings.budget)
      (succeeded : run.succeeded = true)
      (noted : w.calls = calls ++
        [.wrote (synthesisRequest settings request (records.length + 1) (lessonOf records))
          (.ok program),
          .executed program request.input (.ok run) w.disk]) :
    Sound ⟨.validate, records.length + 1, lessonOf records, some program, some run, records⟩ w
  | promote {records calls program run w} (trail : Trail settings request records calls)
      (failed : ∀ r ∈ records, r.outcome.isPassed = false)
      (left : records.length < settings.budget)
      (succeeded : run.succeeded = true)
      (passed : (Validation.check w.disk run request.expectations request.rows).passed = true)
      (noted : w.calls = calls ++
        [.wrote (synthesisRequest settings request (records.length + 1) (lessonOf records))
          (.ok program),
          .executed program request.input (.ok run) w.disk]) :
    Sound ⟨.promote, records.length + 1, lessonOf records, none, none,
      records ++ [⟨records.length + 1, .passed program run
        (Validation.check w.disk run request.expectations request.rows)⟩]⟩ w
  | fail {records w} (trail : Trail settings request records w.calls)
      (failed : ∀ r ∈ records, r.outcome.isPassed = false)
      (spent : records.length = settings.budget) :
    Sound ⟨.fail, records.length, lessonOf records, none, none, records⟩ w

end Progress

section Steps

variable {σ : Type} {agents : Agents σ} {settings : Settings} {store : Option Store}
  {request : CompileRequest} {fingerprint : Fingerprint} {replace : Bool}
  {p q : Progress} {w w' : World (Noted σ)} {records : List AttemptRecord} {calls : List Call}

/-- After a failure the compilation begins anew or has spent its budget. -/
theorem sound_afterFailure {record : AttemptRecord} {made : List Call}
    (trail : Trail settings request records calls)
    (failed : ∀ r ∈ records, r.outcome.isPassed = false)
    (left : records.length < settings.budget)
    (numbered : record.attempt = records.length + 1)
    (last : Attempted settings request (lessonOf records) record made)
    (lost : record.outcome.isPassed = false) (noted : w.calls = calls ++ made) :
    Sound settings request
      ⟨.afterFailure (records.length + 1) settings.budget, records.length + 1,
        record.outcome.lesson?.or (lessonOf records), none, none, records ++ [record]⟩ w := by
  have trail : Trail settings request (records ++ [record]) w.calls :=
    noted ▸ .more trail numbered last
  have failed : ∀ r ∈ records ++ [record], r.outcome.isPassed = false := by
    intro r mem
    rcases List.mem_append.mp mem with earlier | now
    · exact failed r earlier
    · rw [List.mem_singleton.mp now]
      exact lost
  have length : (records ++ [record]).length = records.length + 1 := List.length_append
  rw [← lessonOf_concat, ← length]
  unfold Phase.afterFailure
  split
  · exact .generate trail failed (by omega)
  · exact .fail trail failed (by omega)

/-- A compilation begins soundly. -/
theorem sound_start (w : World σ) : Sound settings request {} w.unwatched :=
  @Sound.generate _ settings request [] _ .start (fun _ mem => nomatch mem)
    (Nat.lt_of_lt_of_le Nat.zero_lt_one (Nat.le_max_left ..))

/-- Generating, executing and validating keep the progress sound or end with a fault of the
runner. -/
theorem sound_advance (sound : Sound settings request p w) (going : p.phase.isTerminal = false) :
    (∃ q w', advance agents.observed settings store request fingerprint replace p w =
      (.ok (.inr q), w') ∧ Sound settings request q w') ∨
    ∃ e w', advance agents.observed settings store request fingerprint replace p w =
      (.error (.sandbox e), w') ∧ Made settings request w'.calls := by
  cases sound with
  | @generate records w trail failed left =>
      -- without a program the attempt is over at once
      simp only [advance, generate, Agents.observed_write]
      rcases agents.write (synthesisRequest settings request (records.length + 1)
        (lessonOf records)) w.agents.1 with ⟨e | program, state⟩
      · exact .inl ⟨_, _, rfl,
          sound_afterFailure trail failed left rfl (.generationFailed _ e) rfl rfl⟩
      · exact .inl ⟨_, _, rfl, .execute trail failed left rfl⟩
  | @execute records calls program w trail failed left noted =>
      simp only [advance, execute, Agents.observed_execute]
      -- the call is noted whatever the answer is
      have noted (answer : Except SandboxError Execution) (disk : Disk) :
          w.agents.2 ++ [Call.executed program request.input answer disk] =
            calls ++ [.wrote (synthesisRequest settings request (records.length + 1)
              (lessonOf records)) (.ok program), .executed program request.input answer disk] := by
        rw [show w.agents.2 = w.calls from rfl, noted, List.append_assoc]
        rfl
      rcases agents.execute program request.input w.agents.1 w.disk with ⟨e | run, state, disk⟩
      · have made := Made.made trail failed (.ran program (.error e) disk)
        rw [← noted] at made
        exact .inr ⟨e, _, rfl, made⟩
      · have noted := noted (.ok run) disk
        cases succeeded : run.succeeded with
        | true =>
            simp only [succeeded, if_true]
            exact .inl ⟨_, _, rfl, .validate trail failed left succeeded noted⟩
        | false =>
            simp only [succeeded, Bool.false_eq_true, if_false]
            exact .inl ⟨_, _, rfl, sound_afterFailure trail failed left rfl
              (.executionFailed _ program run disk succeeded) rfl noted⟩
  | @validate records calls program run w trail failed left succeeded noted =>
      -- the disk is still the one that the noted run left, so the report is about that run
      simp only [advance, validate]
      by_cases passed : (Validation.check w.disk run request.expectations request.rows).passed
      · rw [if_pos passed]
        exact .inl ⟨_, _, rfl, .promote trail failed left succeeded passed noted⟩
      · rw [if_neg passed]
        exact .inl ⟨_, _, rfl, sound_afterFailure trail failed left rfl
          (.validationFailed _ program run w.disk succeeded (Bool.eq_false_iff.mpr passed)) rfl
          noted⟩
  | promote => cases going
  | fail => cases going

/-- A new artifact is stored, or the store tells why it is not. -/
theorem promote_turn (store : Option Store) (artifact : Artifact) (replace : Bool) (tag : String)
    (w : World σ) :
    (∃ stored disk, promote store artifact replace tag w = (.ok stored, { w with disk })) ∨
      ∃ e disk, promote store artifact replace tag w = (.error (.store e), { w with disk }) := by
  unfold promote
  cases store with
  | none => exact .inl ⟨_, _, rfl⟩
  | some store =>
      simp only
      rcases Store.runOn w.disk (store.promote artifact replace tag) with ⟨e | _ | _ | _, disk⟩
      · exact .inr ⟨e, disk, rfl⟩
      all_goals exact .inl ⟨_, disk, rfl⟩

/-- What is returned when the last program passed is what the store says to its artifact. -/
theorem finish_concat {agents : Agents σ} {w : World σ} {n : Nat} {program : Candidate}
    {run : Execution} {report : Report} :
    finish agents store request fingerprint replace (records ++ [⟨n, .passed program run report⟩]) w
      = let (stored, w) := promote store (artifactOf fingerprint request n program report
          (agents.stamp w.agents).moment) replace (agents.stamp w.agents).tag w
        (stored.map fun artifact => ⟨fingerprint, .promoted,
          records ++ [⟨n, .passed program run report⟩], some artifact, run.outputPath⟩, w) := by
  simp only [finish, List.getLast?_concat]
  rcases promote store (artifactOf fingerprint request n program report
    (agents.stamp w.agents).moment) replace (agents.stamp w.agents).tag w with ⟨_ | _, _⟩ <;> rfl

end Steps

/-! ### How it ends -/

/-- What is known of a compilation that came to an outcome by its own attempts. -/
structure Concluded (settings : Settings) (outcome : CompileOutcome) (calls : List Call) :
    Prop where
  /-- There is an attempt, and there are no more than the budget allows. -/
  begun : 1 ≤ outcome.attempts.length
  bounded : outcome.attempts.length ≤ max 1 settings.maxAttempts
  /-- The writer is asked once on every attempt, and the attempts are counted from one. -/
  asked : calls.filterMap Call.asked? = List.range' 1 outcome.attempts.length
  /-- The records are the attempts, in their order. -/
  recorded : outcome.attempts.map AttemptRecord.attempt = List.range' 1 outcome.attempts.length
  /-- Exactly the programs that were written are run, each once and before the next is asked for;
  the answers are what the records say. -/
  ran : calls.filterMap Call.ran? = outcome.attempts.filterMap fun r => r.outcome.program?
  answered : calls.map Call.deed = outcome.attempts.flatMap AttemptRecord.deeds
  /-- Only the last attempt can pass. -/
  failed : ∀ r ∈ outcome.attempts.dropLast, r.outcome.isPassed = false
  /-- The compilation promotes a program if and only if the last attempt passed. -/
  promoted : outcome.status = .promoted ↔
    ∃ r, outcome.attempts.getLast? = some r ∧ r.outcome.isPassed = true
  /-- Otherwise it fails, with its budget spent. -/
  spent : outcome.status ≠ .promoted →
    outcome.status = .failed ∧ outcome.attempts.length = max 1 settings.maxAttempts

section Ends

variable {σ : Type} {agents : Agents σ} {settings : Settings} {store : Option Store}
  {request : CompileRequest} {fingerprint : Fingerprint} {replace : Bool}
  {p : Progress} {w : World (Noted σ)} {records : List AttemptRecord} {calls : List Call}

/-- A compilation whose last attempt passed is concluded. -/
theorem concluded_promoted {record : AttemptRecord} {artifact : Option Artifact}
    {output : Option FilePath} (trail : Trail settings request (records ++ [record]) calls)
    (failed : ∀ r ∈ records, r.outcome.isPassed = false)
    (left : records.length < settings.budget) (passed : record.outcome.isPassed = true) :
    Concluded settings ⟨fingerprint, .promoted, records ++ [record], artifact, output⟩ calls where
  begun := by simp
  bounded := List.length_append ▸ left
  asked := trail.asked.trans trail.numbered
  recorded := trail.numbered
  ran := trail.ran
  answered := trail.deeds
  failed := by simpa using failed
  promoted := iff_of_true rfl ⟨record, List.getLast?_concat, passed⟩
  spent := fun other => absurd rfl other

/-- A compilation without attempts left is concluded. -/
theorem concluded_failed (trail : Trail settings request records calls)
    (failed : ∀ r ∈ records, r.outcome.isPassed = false)
    (spent : records.length = settings.budget) :
    Concluded settings { fingerprint, status := .failed, attempts := records } calls where
  begun := spent ▸ Nat.le_max_left ..
  bounded := Nat.le_of_eq spent
  asked := trail.asked.trans trail.numbered
  recorded := trail.numbered
  ran := trail.ran
  answered := trail.deeds
  failed := fun r mem => failed r ((List.dropLast_sublist _).mem mem)
  promoted := by
    refine iff_of_false (by simp) ?_
    rintro ⟨r, last, passed⟩
    rw [failed r (List.mem_of_getLast? last)] at passed
    cases passed
  spent := fun _ => ⟨rfl, spent⟩

/-- A sound compilation ends by a fault of the runner or of the store, or it is concluded. -/
theorem drive_concluded (sound : Sound settings request p w) :
    ∃ result w', drive agents.observed settings store request fingerprint replace p w =
        (result, w') ∧
      ((∃ e, result = .error (.sandbox e)) ∨ (∃ e, result = .error (.store e)) ∨
        ∃ outcome, result = .ok outcome ∧ Concluded settings outcome w'.calls) := by
  refine drive_ends (motive := Sound settings request) (fun p w sound => ?_) sound
  by_cases going : p.phase.isTerminal = false
  · rcases sound_advance sound going with next | ⟨e, w', advanced, -⟩
    · exact .inl next
    · exact .inr ⟨.error (.sandbox e), w', advanced, .inl ⟨e, rfl⟩⟩
  · -- only the two phases that end a compilation are left
    refine .inr ?_
    cases sound with
    | @promote records calls program run w trail failed left succeeded passed noted =>
        have trail := noted ▸ trail.more rfl (.passed _ program run w.disk succeeded passed)
        simp only [advance, finish_concat]
        rcases promote_turn store (artifactOf fingerprint request (records.length + 1) program
          (Validation.check w.disk run request.expectations request.rows)
          (agents.observed.stamp w.agents).moment) replace (agents.observed.stamp w.agents).tag w
          with ⟨stored, disk, turn⟩ | ⟨e, disk, turn⟩
        · rw [turn]
          exact ⟨.ok _, _, rfl, .inr (.inr ⟨_, rfl, concluded_promoted trail failed left rfl⟩)⟩
        · rw [turn]
          exact ⟨.error _, _, rfl, .inr (.inl ⟨e, rfl⟩)⟩
    | fail trail failed spent =>
        exact ⟨.ok _, _, rfl, .inr (.inr ⟨_, rfl, concluded_failed trail failed spent⟩)⟩
    | _ => exact absurd rfl going

/-- Consulting the store asks no agent, and only the store can fail. -/
theorem consult_turn (settings : Settings) (store : Option Store) (fingerprint : Fingerprint)
    (w : World σ) :
    (∃ answer disk, consult settings store fingerprint w = (.ok answer, { w with disk })) ∨
      ∃ e disk, consult settings store fingerprint w = (.error (.store e), { w with disk }) := by
  unfold consult
  cases store with
  | none => exact .inl ⟨_, _, rfl⟩
  | some store =>
      cases settings.force with
      | true => exact .inl ⟨_, _, rfl⟩
      | false =>
          simp only [Bool.false_eq_true, if_false]
          rcases Store.runOn w.disk (store.lookup fingerprint) with ⟨e | artifact, disk⟩
          · cases e with
            | corrupt => exact .inl ⟨_, disk, rfl⟩
            | _ => exact .inr ⟨_, disk, rfl⟩
          · exact .inl ⟨_, disk, rfl⟩

/-- **The attempts of a compilation.** Whatever the agents do, a compilation of valid rules comes
to an end. It is answered by the store without a call, it ends by a fault of the runner or of the
store, or it is concluded; a phase is never entered without what it needs. -/
theorem run_concluded (agents : Agents σ) (settings : Settings) (store : Option Store)
    (request : CompileRequest) (valid : request.rules.defect? = none) (w : World σ) :
    ∃ result after,
      run agents settings store request w = (result, after.plain) ∧
      run agents.observed settings store request w.unwatched = (result, after) ∧
      (∀ phase event, result ≠ .error (.impossible phase event)) ∧
      ((∃ artifact, result =
          .ok (.cached (fingerprintOf agents settings request) artifact) ∧ after.calls = []) ∨
        (∃ e, result = .error (.sandbox e)) ∨ (∃ e, result = .error (.store e)) ∨
        ∃ outcome, result = .ok outcome ∧ Concluded settings outcome after.calls) := by
  obtain ⟨result, after, watched, plain⟩ :=
    run_mirrors agents settings store request w.unwatched
  refine ⟨result, after, plain, watched, ?_⟩
  simp only [run, valid] at watched
  rcases consult_turn settings store (fingerprintOf agents.observed settings request) w.unwatched
    with ⟨⟨_ | artifact, replace⟩, disk, consulted⟩ | ⟨e, disk, consulted⟩
  · rw [consulted] at watched
    have sound : Sound settings request {} (World.unwatched ⟨w.agents, disk⟩) := sound_start _
    obtain ⟨result', after', driven, ended⟩ := drive_concluded sound
    obtain ⟨rfl, rfl⟩ := Prod.mk.inj (watched.symm.trans driven)
    refine ⟨?_, .inr ended⟩
    rintro phase event rfl
    rcases ended with ⟨e, h⟩ | ⟨e, h⟩ | ⟨outcome, h, _⟩ <;> cases h
  · rw [consulted] at watched
    cases watched
    exact ⟨nofun, .inl ⟨artifact, rfl, rfl⟩⟩
  · rw [consulted] at watched
    cases watched
    exact ⟨nofun, .inr (.inr (.inl ⟨e, rfl⟩))⟩

end Ends

/-- Agents that count their calls: the first request is not answered with a program, and no
program ends with code zero. -/
def clumsy : Agents Nat where
  language := .python
  write request calls :=
    if calls = 0 then (.error .emptyProgram, calls + 1)
    else (.ok { attempt := request.attempt, language := .python, source := "raise" }, calls + 1)
  execute _ _ calls disk :=
    (.ok ⟨some 1, "", "", .ofMillis 1, false, false, none⟩, calls + 1, disk)
  stamp _ := ⟨⟨0, 0⟩, ""⟩

/-- A rule that labels every row of an empty table. -/
def soleRule : CompileRequest where
  rules := ⟨[⟨"all", "Everything", .always, "keep", 1, none⟩]⟩
  schema := ⟨[], [], 0⟩
  input := ⟨"stock.csv"⟩
  expectations := ⟨"Status", "none", [], ["keep"], [], none⟩
  rows := 0

theorem valid_soleRule : soleRule.rules.defect? = none := by
  simp [soleRule, RuleSet.defect?, RuleSet.defectFrom?, RuleSet.ruleDefect?, Text.isBlankText,
    Text.isBlank, Condition.always]

theorem run_concluded_clumsy :
    soleRule.rules.defect? = none ∧ ∃ outcome after,
      run clumsy {} none soleRule ⟨0, default⟩ = (.ok outcome, after.plain) ∧
      run clumsy.observed {} none soleRule ⟨(0, []), default⟩ = (.ok outcome, after) ∧
      outcome.status = .failed ∧ Concluded {} outcome after.calls := by
  have valid := valid_soleRule
  have driven (f : Fingerprint) : ∃ outcome w, drive clumsy {} none soleRule f false {}
      ⟨0, default⟩ = (.ok outcome, w) ∧ outcome.status = .failed := by
    simp [drive_eq, advance, settle, generate, execute, clumsy, Execution.succeeded, Phase.next,
      Phase.afterFailure, Progress.record, Settings.budget]
  have failed : ∃ outcome w, run clumsy {} none soleRule ⟨0, default⟩ = (.ok outcome, w) ∧
      outcome.status = .failed := by
    simp only [run, valid, consult]
    exact driven (fingerprintOf clumsy {} soleRule)
  obtain ⟨outcome, w, ran, status⟩ := failed
  obtain ⟨result, after, plain, watched, -, ended⟩ :=
    run_concluded clumsy {} none soleRule valid ⟨0, default⟩
  obtain rfl : result = .ok outcome := congrArg Prod.fst (plain.symm.trans ran)
  refine ⟨valid, outcome, after, plain, watched, status, ?_⟩
  rcases ended with ⟨artifact, h, -⟩ | ⟨e, h⟩ | ⟨e, h⟩ | ⟨_, h, concluded⟩
  · rw [Except.ok.inj h, CompileOutcome.cached] at status
    cases status
  · cases h
  · cases h
  · rw [Except.ok.inj h]
    exact concluded

end Compile

end LabelForge
