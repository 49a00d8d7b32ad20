import LabelForge.Plan.Labelling
import LabelForge.Proofs.Ranking
import Mathlib.Data.List.Nodup
import Mathlib.Logic.Equiv.Fin.Rotate

/-!
# LabelForge.Proofs.Reordering

**Only tied rules are told apart by their positions.** If rules are declared in another order, in
which those that are tied still follow each other as before, they are ranked as before. Their plan
is the same, and so is what it does to a table (`compile_reordered`).

Design points:

* A reordering says where each position goes, so that rules which are equal need no special case.
* The ranked rules, each carried to its new position, list the reordered rules so that every one
  beats those behind it. There is only one such list.
-/

namespace LabelForge

/-- Two rules that only their positions can rank. -/
def Rule.Tied (a b : Rule) : Prop :=
  a.specificity = b.specificity ∧ a.priority = b.priority

instance (a b : Rule) : Decidable (a.Tied b) := inferInstanceAs (Decidable (_ ∧ _))

/-- Rules in another order, in which those that are tied follow each other as before. -/
structure Reordering (rules rules' : List Rule) where
  /-- Where the rule at a position goes. -/
  place : Fin rules.length ≃ Fin rules'.length
  same : ∀ i, rules'[place i] = rules[i]
  keeps : ∀ i j, rules[i].Tied rules[j] → i < j → place i < place j

namespace Reordering

variable {rules rules' : List Rule} {p : TieBreak} {a b : Rule × Nat}

/-- A rule with its new position. -/
def carry (r : Reordering rules rules') (a : Rule × Nat) : Rule × Nat :=
  (a.1, if h : a.2 < rules.length then r.place ⟨a.2, h⟩ else a.2)

@[simp] theorem carry_position (r : Reordering rules rules') (i : Fin rules.length) :
    r.carry (rules[i], i) = (rules[i], (r.place i).1) := by
  simp [carry]

/-- What is listed at its position is the rule at that position. -/
theorem exists_position (listed : rules[a.2]? = some a.1) :
    ∃ i : Fin rules.length, a = (rules[i], i.1) := by
  obtain ⟨bound, at_position⟩ := List.getElem?_eq_some_iff.1 listed
  exact ⟨⟨a.2, bound⟩, Prod.ext at_position.symm rfl⟩

/-- Carried to their new positions, rules beat each other as before. -/
theorem beats_carry (r : Reordering rules rules') (ha : rules[a.2]? = some a.1)
    (hb : rules[b.2]? = some b.1) (h : p.Beats a b) : p.Beats (r.carry a) (r.carry b) := by
  obtain ⟨i, rfl⟩ := exists_position ha
  obtain ⟨j, rfl⟩ := exists_position hb
  rw [carry_position, carry_position]
  have keeps := r.keeps i j
  cases p <;> simp only [TieBreak.Beats, Rule.Tied, Fin.lt_def] at * <;> omega

theorem nodup_zipIdx (rules : List Rule) : rules.zipIdx.Nodup := by
  refine List.Nodup.of_map Prod.snd ?_
  rw [List.zipIdx_map_snd]
  exact List.nodup_range'

theorem carry_injOn (r : Reordering rules rules') (ha : a ∈ rules.zipIdx) (hb : b ∈ rules.zipIdx)
    (h : r.carry a = r.carry b) : a = b := by
  obtain ⟨i, rfl⟩ := exists_position (List.mem_zipIdx_iff_getElem?.1 ha)
  obtain ⟨j, rfl⟩ := exists_position (List.mem_zipIdx_iff_getElem?.1 hb)
  rw [carry_position, carry_position, Prod.mk.injEq] at h
  have same : i = j := r.place.injective (Fin.ext h.2)
  rw [same]

/-- Carried to their new positions, the rules are the reordered ones. -/
theorem carry_perm (r : Reordering rules rules') :
    (rules.zipIdx.map r.carry).Perm rules'.zipIdx := by
  have distinct : (rules.zipIdx.map r.carry).Nodup :=
    (nodup_zipIdx rules).map_on fun a ha b hb => r.carry_injOn ha hb
  rw [List.perm_ext_iff_of_nodup distinct (nodup_zipIdx rules')]
  intro a
  constructor
  · intro mem
    obtain ⟨b, listed, rfl⟩ := List.mem_map.1 mem
    obtain ⟨i, rfl⟩ := exists_position (List.mem_zipIdx_iff_getElem?.1 listed)
    rw [List.mem_zipIdx_iff_getElem?, carry_position, ← r.same i]
    exact List.getElem?_eq_getElem _
  · intro mem
    obtain ⟨k, rfl⟩ := exists_position (List.mem_zipIdx_iff_getElem?.1 mem)
    obtain ⟨i, rfl⟩ := r.place.surjective k
    refine List.mem_map.2 ⟨(rules[i], i.1), ?_, ?_⟩
    · exact List.mem_zipIdx_iff_getElem?.2 (List.getElem?_eq_getElem _)
    · rw [carry_position, r.same i]

/-- Rules are ranked as they were before. -/
theorem ranked_carry (r : Reordering rules rules') (p : TieBreak) :
    p.ranked rules' = (p.ranked rules).map r.carry := by
  have sorted : ((p.ranked rules).map r.carry).Pairwise p.Beats := by
    rw [List.pairwise_map]
    refine (TieBreak.ranked_pairwise_beats p rules).imp_of_mem ?_
    intro a b ha hb h
    exact r.beats_carry (TieBreak.mem_ranked.1 ha) (TieBreak.mem_ranked.1 hb) h
  have perm : (p.ranked rules').Perm ((p.ranked rules).map r.carry) := by
    have carried := (TieBreak.ranked_perm p rules).map r.carry
    exact (TieBreak.ranked_perm p rules').trans (carried.trans r.carry_perm).symm
  refine perm.eq_of_pairwise ?_ (TieBreak.ranked_pairwise_beats p rules') sorted
  intro a b _ _ h h'
  exact absurd h' h.asymm

end Reordering

/-- Rules in another order, in which those that are tied follow each other as before, have the same
plan, which does the same to every table. -/
theorem compile_reordered {s s' : RuleSet} (r : Reordering s.rules s'.rules) (policy : TieBreak)
    (labels : Labels) :
    Plan.compile s' policy labels = Plan.compile s policy labels ∧
      ∀ f, (Plan.compile s' policy labels).apply f = (Plan.compile s policy labels).apply f := by
  have same : Plan.compile s' policy labels = Plan.compile s policy labels := by
    simp only [Plan.compile, r.ranked_carry policy, List.map_map]
    rfl
  refine ⟨same, ?_⟩
  intro f
  rw [same]

/-- Two tied rules, and a stronger one behind them. -/
def siteRules : List Rule :=
  [⟨"north", "Northern site", ⟨[⟨"site", .eq, .text "north"⟩]⟩, "sell", 1, none⟩,
    ⟨"others", "Other sites", ⟨[⟨"site", .ne, .text "south"⟩]⟩, "keep", 1, none⟩,
    ⟨"recall", "Recall", .always, "hold", 0, none⟩]

/-- The rule that is not tied comes first. -/
def siteReordering : Reordering siteRules (siteRules.rotateRight 1) where
  place := finRotate 3
  same := by decide
  keeps := by decide

theorem compile_reordered_siteRules :
    Plan.compile ⟨siteRules.rotateRight 1⟩ .priorityFirst {} =
        Plan.compile ⟨siteRules⟩ .priorityFirst {} ∧
      ∀ f, (Plan.compile ⟨siteRules.rotateRight 1⟩ .priorityFirst {}).apply f =
        (Plan.compile ⟨siteRules⟩ .priorityFirst {}).apply f :=
  compile_reordered siteReordering .priorityFirst {}

end LabelForge
