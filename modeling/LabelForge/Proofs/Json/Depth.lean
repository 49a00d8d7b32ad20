import LabelForge.Json.Decoder
import LabelForge.Proofs.Json.Spelling

/-!
# LabelForge.Proofs.Json.Depth

**What a strict look at a document finds.** A document passes exactly if it is complete, no number
in it is beyond the range of doubles, and it is not nested deeper than is allowed. An array or an
object adds one level to its parts, so what is nested as deep as is allowed is not accepted inside
of another.
-/

namespace LabelForge.Json

mutual

/-- How many arrays and objects are open at once. -/
def depth : Json → Nat
  | .array items => items.depth + 1
  | .object members => members.depth + 1
  | _ => 0

/-- The depth of the deepest item. -/
def Items.depth : Items → Nat
  | .cons j rest => max j.depth rest.depth
  | _ => 0

/-- The depth of the deepest member. -/
def Members.depth : Members → Nat
  | .cons _ j rest => max j.depth rest.depth
  | _ => 0

end

/-- A document that says all it has to say, with all numbers within the range of doubles. -/
abbrev Sound (j : Json) : Prop := j.Complete fun n => n ≠ .overflow

theorem error_ne_ok {f : Fault} {p : Prop} (no : ¬p) :
    (Except.error f : Except Fault Unit) = .ok () ↔ p :=
  iff_of_false nofun no

theorem seq_eq_ok {x y : Except Fault Unit} : (do x; y) = .ok () ↔ x = .ok () ∧ y = .ok () := by
  cases x with
  | error f => exact ⟨nofun, nofun⟩
  | ok => exact ⟨fun h => ⟨rfl, h⟩, And.right⟩

mutual

/-- What passes a strict look. -/
theorem verify_eq_ok (allowed : Nat) (j : Json) :
    verify allowed j = .ok () ↔ j.Sound ∧ j.depth ≤ allowed := by
  cases j with
  | null => exact iff_of_true rfl ⟨trivial, Nat.zero_le _⟩
  | bool b => exact iff_of_true rfl ⟨trivial, Nat.zero_le _⟩
  | broken stop => exact error_ne_ok And.left
  | number n =>
      cases n with
      | overflow => exact error_ne_ok fun h => h.1 rfl
      | int i => exact iff_of_true rfl ⟨nofun, Nat.zero_le _⟩
      | real x => exact iff_of_true rfl ⟨nofun, Nat.zero_le _⟩
  | text content =>
      cases content with
      | none => exact error_ne_ok fun h => nomatch h.1
      | some s => exact iff_of_true rfl ⟨rfl, Nat.zero_le _⟩
  | array items =>
      cases allowed with
      | zero => exact error_ne_ok fun h => Nat.not_succ_le_zero _ h.2
      | succ allowed =>
          refine (verifyItems_eq_ok allowed items).trans ?_
          exact and_congr Iff.rfl Nat.succ_le_succ_iff.symm
  | object members =>
      cases allowed with
      | zero => exact error_ne_ok fun h => Nat.not_succ_le_zero _ h.2
      | succ allowed =>
          refine (verifyMembers_eq_ok allowed members).trans ?_
          exact and_congr Iff.rfl Nat.succ_le_succ_iff.symm

theorem verifyItems_eq_ok (allowed : Nat) (items : Items) :
    verifyItems allowed items = .ok () ↔
      (items.Complete fun n => n ≠ .overflow) ∧ items.depth ≤ allowed := by
  cases items with
  | done => exact iff_of_true rfl ⟨trivial, Nat.zero_le _⟩
  | stopped stop => exact error_ne_ok And.left
  | cons j rest =>
      rw [verifyItems, seq_eq_ok, verify_eq_ok allowed j, verifyItems_eq_ok allowed rest,
        Items.depth, Items.Complete, Nat.max_le]
      exact and_and_and_comm

theorem verifyMembers_eq_ok (allowed : Nat) (members : Members) :
    verifyMembers allowed members = .ok () ↔
      (members.Complete fun n => n ≠ .overflow) ∧ members.depth ≤ allowed := by
  cases members with
  | done => exact iff_of_true rfl ⟨trivial, Nat.zero_le _⟩
  | stopped stop => exact error_ne_ok And.left
  | cons key j rest =>
      cases key with
      | none => exact error_ne_ok fun h => nomatch h.1.1
      | some key =>
          rw [verifyMembers, seq_eq_ok, verify_eq_ok allowed j, verifyMembers_eq_ok allowed rest,
            Members.depth, Members.Complete, Nat.max_le]
          simp only [Option.isSome_some, true_and]
          exact and_and_and_comm

end

/-! ### Documents of lists and records -/

theorem depth_ofItems_le {js : List Json} {n : Nat} :
    (ofItems js).depth ≤ n + 1 ↔ ∀ j ∈ js, j.depth ≤ n := by
  show (Items.ofList js).depth + 1 ≤ n + 1 ↔ _
  rw [Nat.succ_le_succ_iff]
  induction js with
  | nil => exact iff_of_true (Nat.zero_le _) nofun
  | cons j js ih => rw [Items.ofList, Items.depth, Nat.max_le, ih, List.forall_mem_cons]

theorem depth_ofMembers_le {ms : List (String × Json)} {n : Nat} :
    (ofMembers ms).depth ≤ n + 1 ↔ ∀ m ∈ ms, m.2.depth ≤ n := by
  show (Members.ofList ms).depth + 1 ≤ n + 1 ↔ _
  rw [Nat.succ_le_succ_iff]
  induction ms with
  | nil => exact iff_of_true (Nat.zero_le _) nofun
  | cons m ms ih => rw [Members.ofList, Members.depth, Nat.max_le, ih, List.forall_mem_cons]

end LabelForge.Json
