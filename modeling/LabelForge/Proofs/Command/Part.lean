import LabelForge.Command.Workbench

/-!
# LabelForge.Proofs.Command.Part

**How the parts of a command follow each other.** A part begins with the disk as the parts before it
have left it, and behind a part that fails there is none. So a command that succeeds is a chain of
parts that have succeeded, each of them known by its equation: the lemmas that end in `_eq_ok` take
a chain apart, `bind_of_ok` goes along it.

A sandbox stands around such a chain. It is built before, and what was private is removed behind it,
however the chain has ended.
-/

namespace LabelForge

namespace CommandM

variable {ε α β : Type} {d d₁ d' : Disk} {e : CommandError}

/-! ### Chains -/

theorem bind_apply (x : CommandM α) (f : α → CommandM β) (d : Disk) :
    (x >>= f) d = match x d with
    | (.ok a, d₁) => f a d₁
    | (.error e, d₁) => (.error e, d₁) := by
  simp only [bind, ExceptT.bind, ExceptT.mk, StateT.bind, ExceptT.bindCont]
  rcases x d with ⟨_ | _, _⟩ <;> rfl

theorem bind_of_ok {x : CommandM α} {a : α} (ok : x d = (.ok a, d₁)) (f : α → CommandM β) :
    (x >>= f) d = f a d₁ := by
  rw [bind_apply, ok]

theorem bind_of_error {x : CommandM α} (failed : x d = (.error e, d₁)) (f : α → CommandM β) :
    (x >>= f) d = (.error e, d₁) := by
  rw [bind_apply, failed]

/-- Chains that begin alike and go on alike from there are alike. -/
theorem bind_congr {x : CommandM α} {f g : α → CommandM β}
    (h : ∀ a d₁, x d = (.ok a, d₁) → f a d₁ = g a d₁) : (x >>= f) d = (x >>= g) d := by
  rw [bind_apply, bind_apply]
  rcases first : x d with ⟨e | a, d₁⟩
  · rfl
  · exact h a d₁ first

/-- A chain succeeds if its first part does, and the others after it. -/
theorem bind_eq_ok {x : CommandM α} {f : α → CommandM β} {b : β} :
    (x >>= f) d = (.ok b, d') ↔ ∃ a d₁, x d = (.ok a, d₁) ∧ f a d₁ = (.ok b, d') := by
  constructor
  · intro h
    rcases first : x d with ⟨e | a, d₁⟩
    · rw [bind_of_error first] at h
      cases h
    · rw [bind_of_ok first] at h
      exact ⟨a, d₁, rfl, h⟩
  · rintro ⟨a, d₁, first, rest⟩
    rw [bind_of_ok first, rest]

theorem pure_eq_ok {a b : α} : (pure a : CommandM α) d = (.ok b, d') ↔ a = b ∧ d = d' := by
  change ((.ok a, d) : Except CommandError α × Disk) = _ ↔ _
  rw [Prod.mk.injEq, Except.ok.injEq]

theorem get_eq_ok {a : Disk} : (get : CommandM Disk) d = (.ok a, d') ↔ d = a ∧ d = d' := by
  change ((.ok d, d) : Except CommandError Disk × Disk) = _ ↔ _
  rw [Prod.mk.injEq, Except.ok.injEq]

theorem set_eq_ok {a : Disk} {u : PUnit} :
    (set a : CommandM PUnit) d = (.ok u, d') ↔ a = d' := by
  change ((.ok u, a) : Except CommandError PUnit × Disk) = _ ↔ _
  rw [Prod.mk.injEq, eq_self_iff_true, true_and]

/-! ### Single parts -/

theorem ofExcept_apply (failure : ε → CommandError) (r : Except ε α) (d : Disk) :
    ofExcept failure r d = (r.mapError failure, d) := by
  cases r <;> rfl

theorem reading_apply (failure : ε → CommandError) (f : Disk → Except ε α) (d : Disk) :
    reading failure f d = ((f d).mapError failure, d) :=
  (bind_apply ..).trans (ofExcept_apply failure (f d) d)

theorem changing_apply (failure : ε → CommandError) (f : Disk → Except ε α × Disk) (d : Disk) :
    changing failure f d = ((f d).1.mapError failure, (f d).2) :=
  (bind_apply ..).trans ((bind_apply ..).trans (ofExcept_apply failure (f d).1 (f d).2))

theorem ofExcept_eq_ok {failure : ε → CommandError} {r : Except ε α} {a : α} :
    ofExcept failure r d = (.ok a, d') ↔ r = .ok a ∧ d = d' := by
  rw [ofExcept_apply, Prod.mk.injEq]
  cases r with
  | error e =>
      show Except.error (failure e) = .ok a ∧ d = d' ↔ _
      simp only [reduceCtorEq, false_and]
  | ok b =>
      show Except.ok b = .ok a ∧ d = d' ↔ _
      simp only [Except.ok.injEq]

theorem reading_eq_ok {failure : ε → CommandError} {f : Disk → Except ε α} {a : α} :
    reading failure f d = (.ok a, d') ↔ f d = .ok a ∧ d = d' := by
  rw [reading_apply, ← ofExcept_apply, ofExcept_eq_ok]

theorem changing_eq_ok {failure : ε → CommandError} {f : Disk → Except ε α × Disk} {a : α} :
    changing failure f d = (.ok a, d') ↔ f d = (.ok a, d') := by
  rw [changing_apply, ← ofExcept_apply, ofExcept_eq_ok, ← Prod.mk.injEq]

/-- Copying a table fails for its directory or for itself. -/
inductive Uncopied (source target : FilePath) : CommandError → Prop where
  | directory (parent cause) (above : target.parent? = some parent) :
    Uncopied source target (.directory parent cause)
  | table (cause) : Uncopied source target (.uncopied source target cause)

theorem makeParent_turn (path : FilePath) (d : Disk) :
    (∃ d', makeParent path d = (.ok (), d')) ∨
      ∃ parent cause d', makeParent path d = (.error (.directory parent cause), d') ∧
        path.parent? = some parent := by
  unfold makeParent
  cases path.parent? with
  | none => exact .inl ⟨d, rfl⟩
  | some parent =>
      simp only
      split
      · exact .inl ⟨d, rfl⟩
      · rw [changing_apply]
        rcases d.makeDirs parent with ⟨cause | _, d'⟩
        · exact .inr ⟨parent, cause, d', rfl, rfl⟩
        · exact .inl ⟨d', rfl⟩

theorem copyResult_turn (source target : FilePath) (d : Disk) :
    (∃ d', copyResult source target d = (.ok (), d')) ∨
      ∃ e d', copyResult source target d = (.error e, d') ∧ Uncopied source target e := by
  unfold copyResult
  rcases makeParent_turn target d with ⟨d₁, made⟩ | ⟨parent, cause, d₁, made, above⟩
  · rw [bind_of_ok made, bind_apply, reading_apply]
    cases d₁.copy source target with
    | ok d₂ => exact .inl ⟨d₂, rfl⟩
    | error cause => exact .inr ⟨_, d₁, rfl, .table cause⟩
  · rw [bind_of_error made]
    exact .inr ⟨_, d₁, rfl, .directory parent cause above⟩

end CommandM

/-! ### Sandboxes -/

namespace Surroundings

variable {α : Type} {s : Surroundings} {r : Resolved} {workdir : Option FilePath}
  {action : Sandbox → CommandM α} {d d₁ d' : Disk} {sandbox : Sandbox} {a : α}

/-- The disk after a sandbox was left. -/
def leave (s : Surroundings) : Option FilePath → Disk → Disk
  | some _, d => d
  | none, d => s.tidy d

/-- A sandbox is built, something is done with it, and it is left. -/
theorem withSandbox_apply (s : Surroundings) (r : Resolved) (workdir : Option FilePath)
    (action : Sandbox → CommandM α) (d : Disk) :
    s.withSandbox r workdir action d =
      (((CommandM.changing .sandbox (fun d => s.build r workdir d) >>= action) d).1,
        s.leave workdir
          ((CommandM.changing .sandbox (fun d => s.build r workdir d) >>= action) d).2) := by
  cases workdir <;> rfl

theorem withSandbox_congr {action' : Sandbox → CommandM α}
    (h : ∀ sandbox d₁, action sandbox d₁ = action' sandbox d₁) :
    s.withSandbox r workdir action d = s.withSandbox r workdir action' d := by
  rw [withSandbox_apply, withSandbox_apply, CommandM.bind_congr fun sandbox d₁ _ => h sandbox d₁]

theorem withSandbox_of_build (built : s.build r workdir d = (.ok sandbox, d₁)) :
    s.withSandbox r workdir action d =
      ((action sandbox d₁).1, s.leave workdir (action sandbox d₁).2) := by
  rw [withSandbox_apply, CommandM.bind_of_ok (CommandM.changing_eq_ok.mpr built)]

/-- What succeeds in a sandbox has succeeded after the sandbox was built. -/
theorem withSandbox_eq_ok (ran : s.withSandbox r workdir action d = (.ok a, d')) :
    ∃ sandbox d₁ d₂, s.build r workdir d = (.ok sandbox, d₁) ∧ action sandbox d₁ = (.ok a, d₂) ∧
      d' = s.leave workdir d₂ := by
  rcases built : s.build r workdir d with ⟨e | sandbox, d₁⟩
  · have failed : CommandM.changing .sandbox (fun d => s.build r workdir d) d =
        (.error (.sandbox e), d₁) := by
      rw [CommandM.changing_apply, built]
      rfl
    rw [withSandbox_apply, CommandM.bind_of_error failed] at ran
    cases ran
  · rw [withSandbox_of_build built, Prod.mk.injEq] at ran
    obtain ⟨result, rfl⟩ := ran
    exact ⟨sandbox, d₁, (action sandbox d₁).2, rfl, Prod.ext result rfl, rfl⟩

end Surroundings

end LabelForge
