import LabelForge.Attempt.Compile

/-!
# LabelForge.Proofs.Compile.Observation

**Watching the agents.** A compilation works for agents with any state, so it also works for
agents that note every call in their state. Observed agents answer exactly like the agents they
are made from, and a compilation with them goes the same way; what they have noted is the list of
calls that the compilation makes.
-/

namespace LabelForge

/-- A call of the agents, with the answer that was given. -/
inductive Call where
  /-- The writer was asked for a program. -/
  | wrote (request : SynthesisRequest) (answer : Except GenerationError Candidate)
  /-- A program was run on an input, and left the disk as it is given. -/
  | executed (program : Candidate) (input : FilePath) (answer : Except SandboxError Execution)
    (disk : Disk)

/-- A state of agents together with the calls noted so far. -/
abbrev Noted (σ : Type) := σ × List Call

variable {σ α : Type}

/-- The agents that note every call and its answer. -/
def Agents.observed (agents : Agents σ) : Agents (Noted σ) where
  language := agents.language
  write request state :=
    let (answer, next) := agents.write request state.1
    (answer, (next, state.2 ++ [.wrote request answer]))
  execute program input state disk :=
    let (answer, next, after) := agents.execute program input state.1 disk
    (answer, (next, state.2 ++ [.executed program input answer after]), after)
  stamp state := agents.stamp state.1

@[simp] theorem Agents.observed_write (agents : Agents σ) (request : SynthesisRequest)
    (state : Noted σ) :
    agents.observed.write request state =
      ((agents.write request state.1).1,
        ((agents.write request state.1).2,
          state.2 ++ [.wrote request (agents.write request state.1).1])) := rfl

@[simp] theorem Agents.observed_execute (agents : Agents σ) (program : Candidate)
    (input : FilePath) (state : Noted σ) (disk : Disk) :
    agents.observed.execute program input state disk =
      let result := agents.execute program input state.1 disk
      (result.1, (result.2.1, state.2 ++ [.executed program input result.1 result.2.2]),
        result.2.2) := rfl

namespace World

/-- The world without the notes. -/
def plain (w : World (Noted σ)) : World σ := ⟨w.agents.1, w.disk⟩

/-- The calls noted so far. -/
def calls (w : World (Noted σ)) : List Call := w.agents.2

/-- A world in which nothing has been noted yet. -/
def unwatched (w : World σ) : World (Noted σ) := ⟨(w.agents, []), w.disk⟩

end World

namespace Compile

/-- Whether a step gives the same result and the same world, notes apart. -/
def Mirrors (x : Step (Noted σ) α) (y : Step σ α) : Prop :=
  ∀ w, ∃ result after, x w = (result, after) ∧ y w.plain = (result, after.plain)

variable (agents : Agents σ) (settings : Settings) (store : Option Store)
  (request : CompileRequest) (fingerprint : Fingerprint) (replace : Bool)

theorem generate_mirrors (p : Progress) :
    Mirrors (generate agents.observed settings request p) (generate agents settings request p) := by
  intro w
  simp only [generate, Agents.observed_write, World.plain]
  generalize agents.write (synthesisRequest settings request (p.attempt + 1) p.prior) w.agents.1
    = written
  obtain ⟨_ | _, _⟩ := written <;> exact ⟨_, _, rfl, rfl⟩

theorem execute_mirrors (p : Progress) :
    Mirrors (execute agents.observed request p) (execute agents request p) := by
  intro w
  unfold execute
  cases p.candidate with
  | none => exact ⟨_, _, rfl, rfl⟩
  | some program =>
    simp only [Agents.observed_execute, World.plain]
    generalize agents.execute program request.input w.agents.1 w.disk = executed
    obtain ⟨_ | run, _, _⟩ := executed
    · exact ⟨_, _, rfl, rfl⟩
    · dsimp only
      split <;> exact ⟨_, _, rfl, rfl⟩

theorem validate_mirrors (p : Progress) :
    Mirrors (validate request p : Step (Noted σ) Turn) (validate request p : Step σ Turn) := by
  intro w
  unfold validate
  split
  · rename_i program run _ _
    by_cases passed : (Validation.check w.disk run request.expectations request.rows).passed
    · exact ⟨_, _, if_pos passed, if_pos passed⟩
    · exact ⟨_, _, if_neg passed, if_neg passed⟩
  · exact ⟨_, _, rfl, rfl⟩

theorem promote_mirrors (artifact : Artifact) (tag : String) :
    Mirrors (promote store artifact replace tag : Step (Noted σ) Artifact)
      (promote store artifact replace tag : Step σ Artifact) := by
  intro w
  unfold promote
  cases store with
  | none => exact ⟨_, _, rfl, rfl⟩
  | some store =>
    simp only [World.plain]
    generalize Store.runOn w.disk (store.promote artifact replace tag) = promoted
    obtain ⟨_ | _ | _ | _, _⟩ := promoted <;> exact ⟨_, _, rfl, rfl⟩

theorem finish_mirrors (records : List AttemptRecord) :
    Mirrors (finish agents.observed store request fingerprint replace records)
      (finish agents store request fingerprint replace records) := by
  intro w
  unfold finish
  split
  · rename_i attempt program run report _
    obtain ⟨result, after, observed, plain⟩ := promote_mirrors store replace
      (artifactOf fingerprint request attempt program report (agents.stamp w.agents.1).moment)
      (agents.stamp w.agents.1).tag w
    simp only [Agents.observed, observed]
    simp only [World.plain] at plain ⊢
    rw [plain]
    cases result <;> exact ⟨_, _, rfl, rfl⟩
  · exact ⟨_, _, rfl, rfl⟩

theorem settle_mirrors (phase : Phase) {x : Step (Noted σ) Turn} {y : Step σ Turn}
    (h : Mirrors x y) :
    Mirrors (fun w => settle settings phase (x w)) fun w => settle settings phase (y w) := by
  intro w
  obtain ⟨result, after, hx, hy⟩ := h w
  simp only [hx, hy]
  cases result with
  | error e => exact ⟨_, _, rfl, rfl⟩
  | ok turn =>
    simp only [settle]
    split <;> exact ⟨_, _, rfl, rfl⟩

theorem advance_mirrors (p : Progress) :
    Mirrors (advance agents.observed settings store request fingerprint replace p)
      (advance agents settings store request fingerprint replace p) := by
  intro w
  unfold advance
  cases p.phase with
  | generate => exact settle_mirrors settings .generate (generate_mirrors _ _ _ p) w
  | execute => exact settle_mirrors settings .execute (execute_mirrors _ _ p) w
  | validate => exact settle_mirrors settings .validate (validate_mirrors _ p) w
  | promote =>
    obtain ⟨result, after, hx, hy⟩ :=
      finish_mirrors agents store request fingerprint replace p.records w
    simp only [hx, hy]
    cases result <;> exact ⟨_, _, rfl, rfl⟩
  | fail => exact ⟨_, _, rfl, rfl⟩

/-- A drive goes the same way whether or not it is watched; by induction on the steps. -/
theorem drive_mirrors (p : Progress) :
    Mirrors (drive agents.observed settings store request fingerprint replace p)
      (drive agents settings store request fingerprint replace p) := by
  induction h : p.rank settings.budget using Nat.strongRecOn generalizing p with
  | ind n ih =>
    intro w
    obtain ⟨result, after, hx, hy⟩ :=
      advance_mirrors agents settings store request fingerprint replace p w
    -- both sides have made the same step, so they end together or go on together
    rw [drive_eq, drive_eq, hx, hy]
    rcases result with e | outcome | q
    · exact ⟨_, _, rfl, rfl⟩
    · exact ⟨_, _, rfl, rfl⟩
    · exact ih _ (h ▸ rank_advance hx) q rfl after

theorem consult_mirrors :
    Mirrors (consult settings store fingerprint : Step (Noted σ) (Option Artifact × Bool))
      (consult settings store fingerprint : Step σ (Option Artifact × Bool)) := by
  intro w
  unfold consult
  cases store with
  | none => exact ⟨_, _, rfl, rfl⟩
  | some store =>
    cases settings.force with
    | true => exact ⟨_, _, rfl, rfl⟩
    | false =>
      simp only [World.plain]
      generalize Store.runOn w.disk (store.lookup fingerprint) = looked
      obtain ⟨e | _, _⟩ := looked
      · cases e <;> exact ⟨_, _, rfl, rfl⟩
      · exact ⟨_, _, rfl, rfl⟩

/-- Watching a compilation changes neither its result nor the world it leaves. -/
theorem run_mirrors :
    Mirrors (run agents.observed settings store request) (run agents settings store request) := by
  intro w
  unfold run
  cases request.rules.defect? with
  | some defect => exact ⟨_, _, rfl, rfl⟩
  | none =>
    obtain ⟨result, after, hx, hy⟩ := consult_mirrors settings store
      (fingerprintOf agents settings request) w
    have same : fingerprintOf agents.observed settings request =
      fingerprintOf agents settings request := rfl
    simp only [same, hx, hy]
    obtain e | ⟨_ | artifact, replace⟩ := result
    · exact ⟨_, _, rfl, rfl⟩
    · exact drive_mirrors agents settings store request _ replace {} after
    · exact ⟨_, _, rfl, rfl⟩

end Compile

end LabelForge
