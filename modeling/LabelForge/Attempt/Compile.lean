import LabelForge.Attempt.Agents
import LabelForge.Attempt.Phase
import LabelForge.Attempt.Record
import LabelForge.Store
import LabelForge.Validation

/-!
# LabelForge.Attempt.Compile

**Compiling rules into a verified program.** If the store has a program for the fingerprint, that
is the answer. Otherwise programs are written, run and checked until one passes or the budget is
spent. Only a program that passed is stored.

Design points:

* What happens in a phase is one step with one event; `Phase.next` says how to go on. What one
  phase leaves for the next (the program, its run) may be missing as far as the types go.
* The recursion is on a rank that every step lowers, so it ends for every writer and runner.
* The lesson of the latest program that failed goes with every later request; an attempt without
  a program teaches nothing.
-/

namespace LabelForge

/-- What is to be compiled. -/
structure CompileRequest where
  rules : RuleSet
  schema : SchemaDigest
  /-- The table that every program is run on. -/
  input : FilePath
  expectations : Expectations
  /-- The number of rows of the table. -/
  rows : Nat
  deriving DecidableEq, Repr

/-- Why a compilation ended without an outcome. -/
inductive CompileError where
  /-- The rule set has a defect. -/
  | invalidRules (defect : RuleSet.Defect)
  /-- The table cannot be read or written. -/
  | table (error : TableError)
  /-- The rules do not fit the table. -/
  | expectations (error : LabellingError)
  /-- Programs cannot be run. -/
  | sandbox (error : SandboxError)
  /-- The store failed. -/
  | store (error : StoreError)
  /-- There is no program to run. -/
  | artifactNotFound (fingerprint : Fingerprint)
  /-- A verified program failed on other data. -/
  | runtimeFailed (fingerprint : Fingerprint) (details : String)
  /-- An event happened in a phase in which it cannot. -/
  | impossible (phase : Phase) (event : PhaseEvent)
  deriving DecidableEq, Repr

/-- The message of a fault. -/
def CompileError.message : CompileError → String
  | .invalidRules defect => s!"invalid rule set: {defect.message}"
  | .table error => error.message
  | .expectations error => s!"cannot derive expectations: {error.message}"
  | .sandbox error => s!"sandbox unavailable: {error.message}"
  | .store error => error.message
  | .artifactNotFound fingerprint => s!"no verified artifact for fingerprint {fingerprint.text}"
  | .runtimeFailed fingerprint details =>
    s!"verified artifact {fingerprint.text} failed at runtime:\n{details}"
  | .impossible phase _ =>
    s!"attempt controller reached an impossible transition in {phase.label}"

/-- How a compilation ended. -/
inductive CompileStatus where
  /-- A new program passed. -/
  | promoted
  /-- A stored program is used. -/
  | cached
  /-- No program passed. -/
  | failed
  deriving DecidableEq, Repr

/-- The result of a compilation. -/
structure CompileOutcome where
  fingerprint : Fingerprint
  status : CompileStatus
  attempts : List AttemptRecord := []
  artifact : Option Artifact := none
  /-- The checked output of the program that was promoted. -/
  output : Option FilePath := none
  deriving DecidableEq, Repr

namespace CompileOutcome

/-- The outcome of using a stored program. -/
def cached (fingerprint : Fingerprint) (artifact : Artifact) : CompileOutcome :=
  { fingerprint, status := .cached, artifact := some artifact }

/-- Whether there is a program. -/
def isSuccess (o : CompileOutcome) : Bool := o.status != .failed

/-- The status in a word. -/
def statusLabel (o : CompileOutcome) : String :=
  match o.status with
  | .promoted => "promoted"
  | .cached => "cached"
  | .failed => s!"failed-after-{o.attempts.length}-attempts"

/-- The standard error of the latest run. -/
def lastStderr (o : CompileOutcome) : Option String :=
  o.attempts.reverse.findSome? fun r => r.outcome.run?.map Execution.stderr

/-- The latest report. -/
def lastReport (o : CompileOutcome) : Option Report :=
  o.attempts.reverse.findSome? fun r => r.outcome.report?

end CompileOutcome

/-- What a compilation may change: the state of its agents, and the disk. -/
structure World (σ : Type) where
  agents : σ
  disk : Disk

namespace Compile

variable {σ : Type}

/-- A step of a compilation. -/
abbrev Step (σ α : Type) := World σ → Except CompileError α × World σ

/-- The request of an attempt. -/
def synthesisRequest (settings : Settings) (request : CompileRequest) (attempt : Nat)
    (prior : Option PriorAttempt) : SynthesisRequest where
  attempt := attempt
  rules := request.rules
  schema := request.schema
  policy := settings.tieBreak
  labels := settings.labels
  marker := settings.limits.marker
  prior := prior

/-- The artifact of a program that passed. -/
def artifactOf (fingerprint : Fingerprint) (request : CompileRequest) (attempt : Nat)
    (program : Candidate) (report : Report) (moment : Moment) : Artifact where
  manifest := {
    fingerprint := fingerprint
    language := program.language
    attempt := attempt
    sourceDigest := Sha256.hexOfText program.source
    promotedAt := moment
    ruleCount := request.rules.rules.length
    rowCount := report.rowCount.getD 0
    distribution := report.distribution }
  source := program.source

/-- Stores an artifact, if there is a store. The result is the artifact that is stored then. -/
def promote (store : Option Store) (artifact : Artifact) (replace : Bool) (tag : String) :
    Step σ Artifact := fun w =>
  match store with
  | none => (.ok artifact, w)
  | some store =>
    match Store.runOn w.disk (store.promote artifact replace tag) with
    | (.error e, disk) => (.error (.store e), { w with disk })
    | (.ok (.alreadyPresent existing), disk) => (.ok existing, { w with disk })
    | (.ok _, disk) => (.ok artifact, { w with disk })

/-- What is carried from one phase to the next. -/
structure Progress where
  phase : Phase := .generate
  /-- The current attempt, counted from one. -/
  attempt : Nat := 0
  /-- What the next program is to repair. -/
  prior : Option PriorAttempt := none
  /-- The program of the current attempt, until the attempt is recorded. -/
  candidate : Option Candidate := none
  /-- The run of that program, if it succeeded. -/
  execution : Option Execution := none
  records : List AttemptRecord := []
  deriving DecidableEq, Repr

namespace Progress

/-- Records how the current attempt ended; the lesson of a program replaces the one before. -/
def record (p : Progress) (outcome : AttemptOutcome) : Progress :=
  { p with
    candidate := none
    execution := none
    prior := outcome.lesson?.or p.prior
    records := p.records ++ [⟨p.attempt, outcome⟩] }

/-- An upper bound of the steps that can follow. -/
def rank (budget : Nat) (p : Progress) : Nat :=
  match p.phase with
  | .generate => 3 * max 1 (budget - p.attempt)
  | .execute => 3 * (budget - p.attempt) + 2
  | .validate => 3 * (budget - p.attempt) + 1
  | .promote => 0
  | .fail => 0

end Progress

/-- What happened in a phase. -/
structure Turn where
  event : PhaseEvent
  after : Progress

/-- Starts the next attempt by having a program written. -/
def generate (agents : Agents σ) (settings : Settings) (request : CompileRequest) (p : Progress) :
    Step σ Turn := fun w =>
  let p := { p with attempt := p.attempt + 1 }
  match agents.write (synthesisRequest settings request p.attempt p.prior) w.agents with
  | (.ok program, state) =>
    (.ok ⟨.generated, { p with candidate := some program }⟩, { w with agents := state })
  | (.error e, state) =>
    (.ok ⟨.generationFailed, p.record (.generationFailed e)⟩, { w with agents := state })

/-- Runs the program. -/
def execute (agents : Agents σ) (request : CompileRequest) (p : Progress) : Step σ Turn := fun w =>
  match p.candidate with
  | none => (.error (.impossible p.phase .generated), w)
  | some program =>
    match agents.execute program request.input w.agents w.disk with
    | (.error e, state, disk) => (.error (.sandbox e), ⟨state, disk⟩)
    | (.ok run, state, disk) =>
      if run.succeeded then
        (.ok ⟨.executionSucceeded, { p with execution := some run }⟩, ⟨state, disk⟩)
      else
        (.ok ⟨.executionFailed, p.record (.executionFailed program run)⟩, ⟨state, disk⟩)

/-- Checks the output of the run. -/
def validate (request : CompileRequest) (p : Progress) : Step σ Turn := fun w =>
  match p.candidate, p.execution with
  | some program, some run =>
    let report := Validation.check w.disk run request.expectations request.rows
    if report.passed then
      (.ok ⟨.validationPassed, p.record (.passed program run report)⟩, w)
    else
      (.ok ⟨.validationFailed, p.record (.validationFailed program run report)⟩, w)
  | _, _ => (.error (.impossible p.phase .executionSucceeded), w)

/-- Ends a compilation with the program of the last record, which passed. -/
def finish (agents : Agents σ) (store : Option Store) (request : CompileRequest)
    (fingerprint : Fingerprint) (replace : Bool) (records : List AttemptRecord) :
    Step σ CompileOutcome := fun w =>
  match records.getLast? with
  | some ⟨attempt, .passed program run report⟩ =>
    let stamp := agents.stamp w.agents
    let artifact := artifactOf fingerprint request attempt program report stamp.moment
    match promote store artifact replace stamp.tag w with
    | (.error e, w) => (.error e, w)
    | (.ok artifact, w) =>
      (.ok { fingerprint, status := .promoted, attempts := records, artifact := some artifact,
             output := run.outputPath }, w)
  | _ => (.error (.impossible .validate .validationPassed), w)

/-- Goes on to the phase after an event. -/
def settle (settings : Settings) (phase : Phase) : Except CompileError Turn × World σ →
    Except CompileError (CompileOutcome ⊕ Progress) × World σ
  | (.error e, w) => (.error e, w)
  | (.ok ⟨event, p⟩, w) =>
    match phase.next event p.attempt settings.budget with
    | some phase => (.ok (.inr { p with phase }), w)
    | none => (.error (.impossible phase event), w)

/-- Makes one step: an outcome at the end, and otherwise the progress after the phase. -/
def advance (agents : Agents σ) (settings : Settings) (store : Option Store)
    (request : CompileRequest) (fingerprint : Fingerprint) (replace : Bool) (p : Progress) :
    Step σ (CompileOutcome ⊕ Progress) := fun w =>
  match p.phase with
  | .generate => settle settings .generate (generate agents settings request p w)
  | .execute => settle settings .execute (execute agents request p w)
  | .validate => settle settings .validate (validate request p w)
  | .promote =>
    match finish agents store request fingerprint replace p.records w with
    | (.ok outcome, w) => (.ok (.inl outcome), w)
    | (.error e, w) => (.error e, w)
  | .fail => (.ok (.inl { fingerprint, status := .failed, attempts := p.records }), w)

/-! ### Every step lowers the rank -/

variable {agents : Agents σ} {settings : Settings} {store : Option Store}
  {request : CompileRequest} {fingerprint : Fingerprint} {replace : Bool}
  {p q : Progress} {w w' : World σ} {turn : Turn}

theorem generate_turn (h : generate agents settings request p w = (.ok turn, w')) :
    turn.after.attempt = p.attempt + 1 ∧
      (turn.event = .generated ∨ turn.event = .generationFailed) := by
  unfold generate at h
  dsimp only at h
  split at h <;> cases h <;> simp [Progress.record]

theorem execute_turn (h : execute agents request p w = (.ok turn, w')) :
    turn.after.attempt = p.attempt ∧
      (turn.event = .executionSucceeded ∨ turn.event = .executionFailed) := by
  unfold execute at h
  split at h
  · cases h
  · split at h
    · cases h
    · split at h <;> cases h <;> simp [Progress.record]

theorem validate_turn (h : validate request p w = (.ok turn, w')) :
    turn.after.attempt = p.attempt ∧
      (turn.event = .validationPassed ∨ turn.event = .validationFailed) := by
  unfold validate at h
  split at h
  · dsimp only at h
    split at h <;> cases h <;> simp [Progress.record]
  · cases h

theorem settle_eq_inr {phase : Phase} {r : Except CompileError Turn × World σ}
    (h : settle settings phase r = (.ok (.inr q), w')) :
    ∃ turn, r = (.ok turn, w') ∧
      phase.next turn.event q.attempt settings.budget = some q.phase ∧
      q = { turn.after with phase := q.phase } := by
  obtain ⟨e | turn, w⟩ := r
  · cases h
  · unfold settle at h
    split at h
    · cases h
    · rename_i event after _ eq
      cases eq
      split at h
      · rename_i phase' hnext
        cases h
        exact ⟨⟨event, after⟩, rfl, hnext, rfl⟩
      · cases h

/-- A retry is only made while attempts are left. -/
theorem rank_afterFailure {budget : Nat} (h : q.phase = Phase.afterFailure q.attempt budget) :
    q.rank budget ≤ 3 * (budget - q.attempt) := by
  unfold Phase.afterFailure at h
  split at h <;> simp only [Progress.rank, h] <;> omega

/-- A phase is followed by the next one, or by what follows a failure. -/
theorem settle_onward {phase next : Phase} {good bad : PhaseEvent} {n : Nat}
    {r : Except CompileError Turn × World σ} (h : settle settings phase r = (.ok (.inr q), w'))
    (turns : ∀ {turn w'}, r = (.ok turn, w') →
      turn.after.attempt = n ∧ (turn.event = good ∨ turn.event = bad))
    (onward : ∀ attempt budget, phase.next good attempt budget = some next)
    (retry : ∀ attempt budget,
      phase.next bad attempt budget = some (.afterFailure attempt budget)) :
    q.attempt = n ∧
      (q.phase = next ∨ q.phase = .afterFailure q.attempt settings.budget) := by
  obtain ⟨turn, ht, hnext, hq⟩ := settle_eq_inr h
  obtain ⟨attempt, event⟩ := turns ht
  refine ⟨(congrArg Progress.attempt hq).trans attempt, ?_⟩
  rcases event with event | event <;> rw [event] at hnext
  · rw [onward] at hnext
    exact .inl (Option.some.inj hnext).symm
  · rw [retry] at hnext
    exact .inr (Option.some.inj hnext).symm

theorem rank_advance
    (h : advance agents settings store request fingerprint replace p w = (.ok (.inr q), w')) :
    q.rank settings.budget < p.rank settings.budget := by
  unfold advance at h
  cases hp : p.phase with
  | generate =>
      rw [hp] at h
      obtain ⟨attempt, onward | retry⟩ :=
        settle_onward h generate_turn (fun _ _ => rfl) (fun _ _ => rfl)
      · simp only [Progress.rank, hp, onward]
        omega
      · have bound := rank_afterFailure retry
        simp only [Progress.rank, hp] at bound ⊢
        omega
  | execute =>
      rw [hp] at h
      obtain ⟨attempt, onward | retry⟩ :=
        settle_onward h execute_turn (fun _ _ => rfl) (fun _ _ => rfl)
      · simp only [Progress.rank, hp, onward]
        omega
      · have bound := rank_afterFailure retry
        simp only [Progress.rank, hp] at bound ⊢
        omega
  | validate =>
      rw [hp] at h
      obtain ⟨attempt, onward | retry⟩ :=
        settle_onward h validate_turn (fun _ _ => rfl) (fun _ _ => rfl)
      · simp only [Progress.rank, hp, onward]
        omega
      · have bound := rank_afterFailure retry
        simp only [Progress.rank, hp] at bound ⊢
        omega
  | promote =>
      simp only [hp] at h
      split at h <;> cases h
  | fail =>
      rw [hp] at h
      cases h

/-- Makes steps until there is an outcome. -/
def drive (agents : Agents σ) (settings : Settings) (store : Option Store)
    (request : CompileRequest) (fingerprint : Fingerprint) (replace : Bool) (p : Progress) :
    Step σ CompileOutcome := fun w =>
  match _h : advance agents settings store request fingerprint replace p w with
  | (.error e, w) => (.error e, w)
  | (.ok (.inl outcome), w) => (.ok outcome, w)
  | (.ok (.inr q), w) => drive agents settings store request fingerprint replace q w
termination_by p.rank settings.budget
decreasing_by exact rank_advance _h

/-- A drive is one step and, unless that ended it, the drive from there. -/
theorem drive_eq :
    drive agents settings store request fingerprint replace p w =
      match advance agents settings store request fingerprint replace p w with
      | (.error e, w) => (.error e, w)
      | (.ok (.inl outcome), w) => (.ok outcome, w)
      | (.ok (.inr q), w) => drive agents settings store request fingerprint replace q w := by
  rw [drive]
  split <;> simp only [*]

/-- What every step keeps holds until the last step is made; by induction on the rank. -/
theorem drive_ends {motive : Progress → World σ → Prop}
    {ends : Except CompileError CompileOutcome → World σ → Prop}
    (step : ∀ p w, motive p w →
      (∃ q w', advance agents settings store request fingerprint replace p w = (.ok (.inr q), w') ∧
        motive q w') ∨
      ∃ result w',
        advance agents settings store request fingerprint replace p w = (result.map .inl, w') ∧
          ends result w')
    (h : motive p w) :
    ∃ result w', drive agents settings store request fingerprint replace p w = (result, w') ∧
      ends result w' := by
  -- the world is generalized as well, since every step leaves another one to the next
  induction hr : p.rank settings.budget using Nat.strongRecOn generalizing p w with
  | ind n ih =>
    rw [drive_eq]
    rcases step p w h with ⟨q, w', advanced, next⟩ | ⟨e | outcome, w', advanced, ended⟩
    · rw [advanced]
      exact ih _ (hr ▸ rank_advance advanced) next rfl
    · rw [advanced]
      exact ⟨_, _, rfl, ended⟩
    · rw [advanced]
      exact ⟨_, _, rfl, ended⟩

/-- What the store has for a fingerprint: a program to use, or whether to replace what is there. -/
def consult (settings : Settings) (store : Option Store) (fingerprint : Fingerprint) :
    Step σ (Option Artifact × Bool) := fun w =>
  match store with
  | none => (.ok (none, settings.force), w)
  | some store =>
    if settings.force then (.ok (none, true), w)
    else match Store.runOn w.disk (store.lookup fingerprint) with
      | (.ok artifact, disk) => (.ok (artifact, false), { w with disk })
      | (.error (.corrupt ..), disk) => (.ok (none, true), { w with disk })
      | (.error e, disk) => (.error (.store e), { w with disk })

/-- The fingerprint of a compilation. -/
def fingerprintOf (agents : Agents σ) (settings : Settings) (request : CompileRequest) :
    Fingerprint :=
  .compute request.rules request.schema settings.tieBreak settings.labels agents.language

/-- Compiles rules into a verified program. -/
def run (agents : Agents σ) (settings : Settings) (store : Option Store)
    (request : CompileRequest) : Step σ CompileOutcome := fun w =>
  match request.rules.defect? with
  | some defect => (.error (.invalidRules defect), w)
  | none =>
    let fingerprint := fingerprintOf agents settings request
    match consult settings store fingerprint w with
    | (.error e, w) => (.error e, w)
    | (.ok (some artifact, _), w) => (.ok (.cached fingerprint artifact), w)
    | (.ok (none, replace), w) =>
      drive agents settings store request fingerprint replace {} w

end Compile

end LabelForge
