import LabelForge.Proofs.Compile.Attempts

/-!
# LabelForge.Proofs.Compile.Lessons

**What the writer is told on every attempt.** The lesson of a request is that of the latest program
that was written before: its text, with what its run or the check of its output had to say. An
attempt without a program neither clears that lesson nor replaces it, however many of them there
are, and before the first program there is nothing to repair.

Every request stands behind the calls of the attempts before it, which are a `Trail`
(`Questioned`), and what a trail says is shown along its attempts.
-/

namespace LabelForge

/-- Whether the writer was asked and had no program to give. -/
def Call.isFruitless : Call → Bool
  | .wrote _ (.error _) => true
  | _ => false

namespace Compile

section Statement

variable (settings : Settings) (request : CompileRequest)

/-- What there is to repair after some calls. -/
inductive Lesson : List Call → Option PriorAttempt → Prop where
  /-- No program was written. -/
  | nothing {calls} (fruitless : ∀ call ∈ calls, call.isFruitless = true) : Lesson calls none
  /-- The run of the latest program failed. -/
  | crashed {before q program run disk since} (failed : run.succeeded = false)
      (fruitless : ∀ call ∈ since, call.isFruitless = true) :
    Lesson
      (before ++ .wrote q (.ok program) :: .executed program request.input (.ok run) disk :: since)
      (some ⟨program.source, run.diagnostics⟩)
  /-- The output of the latest program did not pass. -/
  | rejected {before q program run disk since} (succeeded : run.succeeded = true)
      (failed : (Validation.check disk run request.expectations request.rows).passed = false)
      (fruitless : ∀ call ∈ since, call.isFruitless = true) :
    Lesson
      (before ++ .wrote q (.ok program) :: .executed program request.input (.ok run) disk :: since)
      (some ⟨program.source,
        (Validation.check disk run request.expectations request.rows).render⟩)

/-- What there is to repair, by the last call that was not fruitless. -/
def latestLesson (calls : List Call) : Option PriorAttempt :=
  match calls.reverse.find? fun call => !call.isFruitless with
  | some (.executed program _ (.ok run) disk) =>
    some ⟨program.source,
      if run.succeeded then
        (Validation.check disk run request.expectations request.rows).render
      else run.diagnostics⟩
  | _ => none

/-- Every request was made after some attempts that failed, with what they teach. -/
def Questioned (calls : List Call) : Prop :=
  ∀ before q answer since, calls = before ++ .wrote q answer :: since →
    ∃ records, Trail settings request records before ∧
      (∀ r ∈ records, r.outcome.isPassed = false) ∧
      q = synthesisRequest settings request (records.length + 1) (lessonOf records)

end Statement

variable {settings : Settings} {request : CompileRequest} {records : List AttemptRecord}
  {calls now : List Call} {n : Nat} {prior : Option PriorAttempt}

/-! ### What some attempts teach -/

theorem fruitless_concat (h : ∀ call ∈ calls, call.isFruitless = true) (q : SynthesisRequest)
    (e : GenerationError) : ∀ call ∈ calls ++ [.wrote q (.error e)], call.isFruitless = true := by
  intro call mem
  rcases List.mem_append.mp mem with before | now
  · exact h call before
  · rw [List.mem_singleton.mp now]
    rfl

/-- An attempt without a program teaches nothing and leaves what there is to repair. -/
theorem Lesson.kept (h : Lesson request calls prior) (q : SynthesisRequest)
    (e : GenerationError) : Lesson request (calls ++ [.wrote q (.error e)]) prior := by
  cases h with
  | nothing fruitless => exact .nothing (fruitless_concat fruitless q e)
  | crashed failed fruitless =>
      rw [List.append_assoc]
      exact .crashed failed (fruitless_concat fruitless q e)
  | rejected succeeded failed fruitless =>
      rw [List.append_assoc]
      exact .rejected succeeded failed (fruitless_concat fruitless q e)

/-- What attempts that failed teach is the lesson of their calls. -/
theorem Trail.lesson (h : Trail settings request records calls)
    (failed : ∀ r ∈ records, r.outcome.isPassed = false) :
    Lesson request calls (lessonOf records) := by
  induction h with
  | start => exact .nothing fun _ => nofun
  | @more records calls record made _ _ last ih =>
      have before := ih fun r mem => failed r (List.mem_append_left _ mem)
      rw [lessonOf_concat]
      cases last with
      | generationFailed n e => exact before.kept _ e
      | executionFailed n program run disk crashed =>
          exact .crashed crashed fun _ => nofun
      | validationFailed n program run disk succeeded rejected =>
          exact .rejected succeeded rejected fun _ => nofun
      | passed n program run disk _ _ =>
          cases failed _ (List.mem_append_right _ (List.mem_singleton_self _))

theorem find?_fruitless (h : ∀ call ∈ calls, call.isFruitless = true) :
    calls.reverse.find? (fun call => !call.isFruitless) = none := by
  refine List.find?_eq_none.mpr fun call mem => ?_
  rw [h call (List.mem_reverse.mp mem)]
  exact Bool.false_ne_true

/-- What the run of the latest program teaches. -/
theorem latestLesson_ran {since : List Call}
    (fruitless : ∀ call ∈ since, call.isFruitless = true) (before : List Call)
    (q : SynthesisRequest) (program : Candidate) (input : FilePath) (run : Execution)
    (disk : Disk) :
    latestLesson request
        (before ++ .wrote q (.ok program) :: .executed program input (.ok run) disk :: since) =
      some ⟨program.source,
        if run.succeeded then
          (Validation.check disk run request.expectations request.rows).render
        else run.diagnostics⟩ := by
  rw [latestLesson, List.reverse_append, List.reverse_cons, List.reverse_cons, List.append_assoc,
    List.append_assoc, List.find?_append, find?_fruitless fruitless]
  rfl

/-- There is one thing to repair after some calls. -/
theorem Lesson.eq_latest (h : Lesson request calls prior) : prior = latestLesson request calls := by
  cases h with
  | nothing fruitless => rw [latestLesson, find?_fruitless fruitless]
  | crashed failed fruitless => rw [latestLesson_ran fruitless, failed, if_neg Bool.false_ne_true]
  | rejected succeeded failed fruitless => rw [latestLesson_ran fruitless, succeeded, if_pos rfl]

/-! ### What stands before a request -/

/-- An attempt begins with its request and makes no other one. -/
theorem Underway.question {before since : List Call} {q : SynthesisRequest}
    {answer : Except GenerationError Candidate} (h : Underway settings request n prior now)
    (split : now = before ++ .wrote q answer :: since) :
    before = [] ∧ q = synthesisRequest settings request n prior := by
  cases h with
  | begun => simp at split
  | asked => cases before <;> simp_all
  | ran =>
      rcases before with _ | ⟨c, _ | ⟨c', before⟩⟩ <;> simp_all

theorem Attempted.underway {record : AttemptRecord} {made : List Call}
    (h : Attempted settings request prior record made) :
    Underway settings request record.attempt prior made := by
  cases h with
  | generationFailed => exact .asked _
  | _ => exact .ran _ _ _

/-- The next attempt is asked for with what the attempts before it teach. -/
theorem Trail.questioned_append (trail : Trail settings request records calls)
    (failed : ∀ r ∈ records, r.outcome.isPassed = false)
    (before : Questioned settings request calls)
    (last : Underway settings request (records.length + 1) (lessonOf records) now) :
    Questioned settings request (calls ++ now) := by
  intro front q answer since split
  rcases List.append_eq_append_iff.mp split with ⟨x, rfl, rest⟩ | ⟨x, rfl, rest⟩
  · -- the request is among the last calls, so it is the first of them
    obtain ⟨rfl, rfl⟩ := last.question rest
    rw [List.append_nil]
    exact ⟨records, trail, failed, rfl⟩
  · cases x with
    | nil =>
        have begun : now = [] ++ .wrote q answer :: since := rest.symm
        obtain ⟨-, rfl⟩ := last.question begun
        rw [List.append_nil] at trail
        exact ⟨records, trail, failed, rfl⟩
    | cons c x =>
        obtain ⟨rfl, rfl⟩ := List.cons.inj rest
        exact before front q answer x rfl

/-- By induction on the attempts. -/
theorem Trail.questioned (trail : Trail settings request records calls)
    (failed : ∀ r ∈ records, r.outcome.isPassed = false) : Questioned settings request calls := by
  induction trail with
  | start =>
      intro before q answer since split
      cases before <;> cases split
  | @more records calls record made trail numbered last ih =>
      have failed : ∀ r ∈ records, r.outcome.isPassed = false :=
        fun r mem => failed r (List.mem_append_left _ mem)
      exact trail.questioned_append failed (ih failed) (numbered ▸ last.underway)

theorem Made.questioned (h : Made settings request calls) : Questioned settings request calls := by
  cases h with
  | made trail failed last => exact trail.questioned_append failed (trail.questioned failed) last

/-! ### The calls of a compilation -/

variable {σ : Type} {agents : Agents σ} {store : Option Store} {fingerprint : Fingerprint}
  {replace : Bool} {p : Progress} {w : World (Noted σ)}

theorem Sound.made (sound : Sound settings request p w) : Made settings request w.calls := by
  cases sound with
  | generate trail failed => simpa using Made.made trail failed .begun
  | execute trail failed left noted => exact noted ▸ .made trail failed (.asked _)
  | validate trail failed left succeeded noted => exact noted ▸ .made trail failed (.ran _ _ _)
  | promote trail failed left succeeded passed noted =>
      exact noted ▸ .made trail failed (.ran _ _ _)
  | fail trail failed => simpa using Made.made trail failed .begun

/-- The last step asks no agent. -/
theorem finish_agents (agents : Agents σ) (records : List AttemptRecord) (w : World σ) :
    (finish agents store request fingerprint replace records w).2.agents = w.agents := by
  unfold finish
  split
  · rename_i attempt program run report _
    dsimp only
    rcases promote_turn store (artifactOf fingerprint request attempt program report
      (agents.stamp w.agents).moment) replace (agents.stamp w.agents).tag w
      with ⟨stored, disk, turn⟩ | ⟨e, disk, turn⟩
    · rw [turn]
    · rw [turn]
  · rfl

/-- Attempts that begin soundly leave the calls of attempts, wherever they end. -/
theorem drive_made (sound : Sound settings request p w) :
    ∃ result w', drive agents.observed settings store request fingerprint replace p w =
        (result, w') ∧ Made settings request w'.calls := by
  refine drive_ends (motive := Sound settings request) (fun p w sound => ?_) sound
  by_cases going : p.phase.isTerminal = false
  · rcases sound_advance sound going with next | ⟨e, w', advanced, made⟩
    · exact .inl next
    · exact .inr ⟨.error (.sandbox e), w', advanced, made⟩
  · refine .inr ?_
    have made := sound.made
    cases sound with
    | @promote records calls program run w =>
        simp only [advance]
        generalize records ++ _ = records
        -- whatever the store says, no agent is asked any more
        have asked : (finish agents.observed store request fingerprint replace records
            w).2.agents = w.agents := finish_agents agents.observed records w
        rcases finished : finish agents.observed store request fingerprint replace records w
          with ⟨e | outcome, w'⟩ <;> rw [finished] at asked
        · exact ⟨.error e, w', rfl, by rwa [World.calls, asked]⟩
        · exact ⟨.ok outcome, w', rfl, by rwa [World.calls, asked]⟩
    | fail => exact ⟨.ok _, _, rfl, made⟩
    | _ => exact absurd rfl going

/-- At any end, the calls of a compilation are those of attempts. -/
theorem run_made (agents : Agents σ) (settings : Settings) (store : Option Store)
    (request : CompileRequest) (w : World σ) :
    Made settings request (run agents.observed settings store request w.unwatched).2.calls := by
  have start : Made settings request [] := .made .start (fun _ => nofun) .begun
  unfold run
  cases request.rules.defect? with
  | some defect => exact start
  | none =>
      dsimp only
      rcases consult_turn settings store (fingerprintOf agents.observed settings request)
        w.unwatched with ⟨⟨_ | artifact, replace⟩, disk, consulted⟩ | ⟨e, disk, consulted⟩ <;>
        rw [consulted]
      · have sound : Sound settings request {} (World.unwatched ⟨w.agents, disk⟩) := sound_start _
        obtain ⟨result, w', driven, made⟩ := drive_made sound
        simp only [World.unwatched] at driven ⊢
        rwa [driven]
      · exact start
      · exact start

/-- **Every attempt repairs the latest program that failed.** Whatever the agents do, the request of
an attempt follows those of all attempts before it, and its lesson is the one thing that there is to
repair after them. -/
theorem run_lessons (agents : Agents σ) (settings : Settings) (store : Option Store)
    (request : CompileRequest) (w : World σ) :
    ∃ result after,
      run agents settings store request w = (result, after.plain) ∧
      run agents.observed settings store request w.unwatched = (result, after) ∧
      ∀ before q answer since, after.calls = before ++ .wrote q answer :: since →
        1 ≤ q.attempt ∧ before.filterMap Call.asked? = List.range' 1 (q.attempt - 1) ∧
          ∀ prior, Lesson request before prior ↔ prior = q.prior := by
  obtain ⟨result, after, watched, plain⟩ :=
    run_mirrors agents settings store request w.unwatched
  refine ⟨result, after, plain, watched, fun before q answer since split => ?_⟩
  have made := run_made agents settings store request w
  rw [watched] at made
  obtain ⟨records, trail, failed, rfl⟩ := made.questioned before q answer since split
  have lesson := trail.lesson failed
  refine ⟨Nat.le_add_left .., trail.asked.trans trail.numbered, fun prior => ?_⟩
  constructor
  · exact fun other => other.eq_latest.trans lesson.eq_latest.symm
  · rintro rfl
    exact lesson

/-- The run of a program that did not know the table. -/
def crash : Execution := ⟨some 1, "", "no such column", .ofMillis 1, false, false, none⟩

/-- Agents whose programs crash, and that have no program on the second attempt. -/
def erratic : Agents Unit where
  language := .python
  write request _ :=
    (if request.attempt = 2 then .error .emptyProgram
      else .ok { attempt := request.attempt, language := .python, source := "raise" }, ())
  execute _ _ _ disk := (.ok crash, (), disk)
  stamp _ := ⟨⟨0, 0⟩, ""⟩

/-- The third attempt has to repair the program of the first one. -/
theorem run_lessons_erratic : ∃ after before q answer since,
    (run erratic.observed {} none soleRule (World.unwatched ⟨(), default⟩)).2 = after ∧
      after.calls = before ++ .wrote q answer :: since ∧ q.attempt = 3 ∧
      q.prior = some ⟨"raise", crash.diagnostics⟩ ∧ Lesson soleRule before q.prior := by
  obtain ⟨result, after, -, watched, lessons⟩ := run_lessons erratic {} none soleRule ⟨(), default⟩
  have calls : ∃ since, after.calls =
      [.wrote (synthesisRequest {} soleRule 1 none) (.ok ⟨1, .python, "raise", none⟩),
        .executed ⟨1, .python, "raise", none⟩ soleRule.input (.ok crash) default,
        .wrote (synthesisRequest {} soleRule 2 (some ⟨"raise", crash.diagnostics⟩))
          (.error .emptyProgram)] ++
      .wrote (synthesisRequest {} soleRule 3 (some ⟨"raise", crash.diagnostics⟩))
        (.ok ⟨3, .python, "raise", none⟩) :: since := by
    rw [show after = _ from congrArg Prod.snd watched.symm]
    simp only [run, valid_soleRule, consult]
    generalize fingerprintOf erratic.observed {} soleRule = f
    simp [drive_eq, advance, settle, generate, execute, erratic, crash, synthesisRequest,
      Execution.succeeded, Phase.next, Phase.afterFailure, Progress.record, Settings.budget,
      AttemptOutcome.lesson?, World.unwatched, World.calls]
  obtain ⟨since, calls⟩ := calls
  obtain ⟨-, -, lesson⟩ := lessons _ _ _ since calls
  exact ⟨after, _, _, _, since, by rw [watched], calls, rfl, rfl, (lesson _).mpr rfl⟩

end Compile

end LabelForge
