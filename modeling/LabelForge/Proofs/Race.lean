import LabelForge.FileScript
import Mathlib.Logic.Function.Basic

/-!
# LabelForge.Proofs.Race

**Scripts next to each other.** Several scripts work on one file tree. It is somebody's turn again
and again, in any order, and a turn is one operation of one script; a script that has ended lets its
turns pass. Nothing is assumed about the order, so what holds of every list of turns holds of every
interleaving.
-/

namespace LabelForge

/-- Carries out the first operation of a script. -/
def FileScript.turn : FileScript α → FileTree → FileScript α × FileTree
  | .done a, files => (.done a, files)
  | .step op next, files => (next (op.run files).1, (op.run files).2)

/-- Scripts that work on the same files. -/
structure Race (ι α : Type) where
  files : FileTree
  scripts : ι → FileScript α

namespace Race

variable {ι α : Type}

/-- What a script has ended with. -/
def result? (r : Race ι α) (i : ι) : Option α :=
  match r.scripts i with
  | .done a => some a
  | .step .. => none

/-- The operation that a script carries out on its next turn. -/
def next? (r : Race ι α) (i : ι) : Option FileOp :=
  match r.scripts i with
  | .done _ => none
  | .step op _ => some op

variable [DecidableEq ι]

/-- The race after a turn. -/
def step (r : Race ι α) (i : ι) : Race ι α where
  files := ((r.scripts i).turn r.files).2
  scripts := Function.update r.scripts i ((r.scripts i).turn r.files).1

theorem scripts_step_self (r : Race ι α) (i : ι) :
    (r.step i).scripts i = ((r.scripts i).turn r.files).1 :=
  Function.update_self ..

/-- A turn of one script does not change the others. -/
theorem scripts_step_of_ne (r : Race ι α) {i j : ι} (other : j ≠ i) :
    (r.step i).scripts j = r.scripts j :=
  Function.update_of_ne other ..

/-- A script that has ended stays as it is. -/
theorem result?_step {r : Race ι α} {i : ι} {a : α} (h : r.result? i = some a) (j : ι) :
    (r.step j).result? i = some a := by
  by_cases own : i = j
  · subst own
    rw [result?] at h ⊢
    rw [scripts_step_self]
    cases script : r.scripts i with
    | done b => rwa [script] at h
    | step op next => rw [script] at h; cases h
  · rw [result?, scripts_step_of_ne r own]
    exact h

/-- The race after some turns. -/
def run (r : Race ι α) (turns : List ι) : Race ι α :=
  turns.foldl step r

theorem result?_run {r : Race ι α} {i : ι} {a : α} (h : r.result? i = some a) (turns : List ι) :
    (r.run turns).result? i = some a := by
  induction turns generalizing r with
  | nil => exact h
  | cons j turns ih => exact ih (result?_step h j)

/-- The operations that are carried out in some turns. -/
def ops : Race ι α → List ι → List FileOp
  | _, [] => []
  | r, i :: turns => (r.next? i).toList ++ (r.step i).ops turns

variable (r : Race ι α)

@[simp] theorem run_cons (i : ι) (turns : List ι) : r.run (i :: turns) = (r.step i).run turns := rfl

/-- Where nobody else has a turn, a script runs as it does alone. -/
theorem run_alone (r : Race ι α) (i : ι) :
    ∃ n, r.run (List.replicate n i) = {
      files := ((r.scripts i).run r.files).2
      scripts := Function.update r.scripts i (.done ((r.scripts i).run r.files).1) } := by
  generalize same : r.scripts i = script
  induction script generalizing r with
  | done a =>
      refine ⟨0, ?_⟩
      show r = _
      rw [FileScript.run_done, ← same, Function.update_eq_self]
  | step op next ih =>
      have after : (r.step i).scripts i = next (op.run r.files).1 := by
        rw [scripts_step_self, same]
        rfl
      obtain ⟨n, ran⟩ := ih _ (r.step i) after
      refine ⟨n + 1, ?_⟩
      rw [List.replicate_succ, run_cons, ran, FileScript.run_step]
      simp only [step, same, FileScript.turn, Function.update_idem]

theorem run_append (turns later : List ι) : r.run (turns ++ later) = (r.run turns).run later :=
  List.foldl_append

@[simp] theorem ops_cons (i : ι) (turns : List ι) :
    r.ops (i :: turns) = (r.next? i).toList ++ (r.step i).ops turns := rfl

end Race

end LabelForge
