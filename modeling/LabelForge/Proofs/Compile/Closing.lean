import LabelForge.Proofs.Compile.Attempts

/-!
# LabelForge.Proofs.Compile.Closing

**How attempts end.** Until a program is handed over nobody works on the disk but the programs that
are run. So what no run of a program undoes still holds when the attempts come to their last step:
the budget is spent, programs cannot be run, or the program of the last run passed and is handed
over.
-/

namespace LabelForge

/-- No program that is run undoes what holds of the files. -/
def Agents.Keeps {σ : Type} (agents : Agents σ) (P : FileTree → Prop) : Prop :=
  ∀ program input state disk, P disk.files →
    P (agents.execute program input state disk).2.2.files

theorem Agents.Keeps.observed {σ : Type} {agents : Agents σ} {P : FileTree → Prop}
    (h : agents.Keeps P) : agents.observed.Keeps P :=
  fun program input state disk => h program input state.1 disk

namespace Compile

variable {σ : Type} {agents : Agents σ} {settings : Settings} {store : Option Store}
  {request : CompileRequest} {fingerprint : Fingerprint} {replace : Bool} {p : Progress}
  {P : FileTree → Prop}

theorem settle_snd (settings : Settings) (phase : Phase)
    (x : Except CompileError Turn × World σ) : (settle settings phase x).2 = x.2 := by
  obtain ⟨e | ⟨event, after⟩, w⟩ := x
  · rfl
  · simp only [settle]
    split <;> rfl

/-- Up to the last step the files are changed by runs of programs only. -/
theorem advance_keeps {w : World σ} (keeps : agents.Keeps P) (holds : P w.disk.files)
    (going : p.phase.isTerminal = false) :
    P (advance agents settings store request fingerprint replace p w).2.disk.files := by
  unfold advance
  cases phase : p.phase with
  | generate =>
      simp only [settle_snd, generate]
      rcases agents.write (synthesisRequest settings request (p.attempt + 1) p.prior) w.agents
        with ⟨_ | _, _⟩ <;> exact holds
  | execute =>
      simp only [settle_snd, execute]
      cases p.candidate with
      | none => exact holds
      | some program =>
          have kept := keeps program request.input w.agents w.disk holds
          rcases executed : agents.execute program request.input w.agents w.disk
            with ⟨_ | run, state, disk⟩ <;> rw [executed] at kept <;> simp only [executed]
          · exact kept
          · split <;> exact kept
  | validate =>
      simp only [settle_snd, validate]
      split
      · split <;> exact holds
      · exact holds
  | promote =>
      rw [phase] at going
      cases going
  | fail => exact holds

/-- How attempts end, given what no run of a program undoes. -/
inductive Closes (agents : Agents σ) (settings : Settings) (store : Option Store)
    (request : CompileRequest) (fingerprint : Fingerprint) (replace : Bool)
    (P : FileTree → Prop) :
    Except CompileError CompileOutcome → World (Noted σ) → Prop where
  /-- Programs cannot be run. -/
  | halted {w} (e : SandboxError) (kept : P w.disk.files) :
    Closes agents settings store request fingerprint replace P (.error (.sandbox e)) w
  /-- The budget is spent. -/
  | spent {w} (records : List AttemptRecord) (kept : P w.disk.files) :
    Closes agents settings store request fingerprint replace P
      (.ok { fingerprint, status := .failed, attempts := records }) w
  /-- The program of the last run passed. -/
  | passed {records program run w result w'} (kept : P w.disk.files)
      (executed : .executed program request.input (.ok run) w.disk ∈ w.calls)
      (succeeded : run.succeeded = true)
      (passed : (Validation.check w.disk run request.expectations request.rows).passed = true)
      (left : records.length + 1 ≤ settings.budget)
      (finished : finish agents.observed store request fingerprint replace
        (records ++ [⟨records.length + 1, .passed program run
          (Validation.check w.disk run request.expectations request.rows)⟩]) w = (result, w')) :
    Closes agents settings store request fingerprint replace P result w'

/-- Attempts that begin soundly end in one of these ways. -/
theorem drive_closes {w : World (Noted σ)} (keeps : agents.Keeps P)
    (sound : Sound settings request p w) (holds : P w.disk.files) :
    ∃ result w', drive agents.observed settings store request fingerprint replace p w =
        (result, w') ∧
      Closes agents settings store request fingerprint replace P result w' := by
  refine drive_ends (motive := fun p w => Sound settings request p w ∧ P w.disk.files) ?_
    ⟨sound, holds⟩
  rintro p w ⟨sound, holds⟩
  by_cases going : p.phase.isTerminal = false
  · have kept : P (advance agents.observed settings store request fingerprint replace p
        w).2.disk.files := advance_keeps keeps.observed holds going
    rcases sound_advance sound going with ⟨q, w', advanced, next⟩ | ⟨e, w', advanced, -⟩ <;>
      rw [advanced] at kept
    · exact .inl ⟨q, w', advanced, next, kept⟩
    · exact .inr ⟨.error (.sandbox e), w', advanced, .halted e kept⟩
  · refine .inr ?_
    cases sound with
    | @promote records calls program run w trail failed left succeeded passed noted =>
        -- the run that passed is the last call that was noted
        have executed : .executed program request.input (.ok run) w.disk ∈ w.calls := by
          rw [noted]
          exact List.mem_append_right _ (.tail _ (.head _))
        simp only [advance]
        rcases finished : finish agents.observed store request fingerprint replace
          (records ++ [⟨records.length + 1, .passed program run
            (Validation.check w.disk run request.expectations request.rows)⟩]) w
          with ⟨result, w'⟩
        refine ⟨result, w', ?_, .passed holds executed succeeded passed left finished⟩
        rw [finished]
        cases result <;> rfl
    | fail trail failed spent => exact ⟨.ok _, _, rfl, .spent _ holds⟩
    | _ => exact absurd rfl going

end Compile

end LabelForge
