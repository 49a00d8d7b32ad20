import LabelForge.Policy

/-!
# LabelForge.Proofs.Ranking

**The order in which rules win.** `Beats` spells the two policies out key by key. The comparison
of a policy decides it, so it is a strict total order on rules at different positions, and
`ranked` lists all rules so that every rule beats those behind it. The list of their positions is
the only one in which each rule stands before those that it beats (`order_unique`).
-/

namespace LabelForge.TieBreak

variable {p : TieBreak} {a b c : Rule × Nat} {rules : List Rule}

/-- Whether the first of two rules, each with its position, is the stronger one: by the number of
clauses, the priority and the position, in the order of the policy. -/
def Beats (p : TieBreak) (a b : Rule × Nat) : Prop :=
  match p with
  | .specificityFirst =>
    b.1.specificity < a.1.specificity ∨
      b.1.specificity = a.1.specificity ∧
        (a.1.priority < b.1.priority ∨ a.1.priority = b.1.priority ∧ a.2 < b.2)
  | .priorityFirst =>
    a.1.priority < b.1.priority ∨
      a.1.priority = b.1.priority ∧
        (b.1.specificity < a.1.specificity ∨ b.1.specificity = a.1.specificity ∧ a.2 < b.2)

/-! ### The comparison decides which rule is stronger -/

/-- A rule compares as smaller exactly if it is the stronger one. -/
theorem compare_eq_lt_iff : p.compare a b = .lt ↔ p.Beats a b := by
  cases p <;>
    simp only [compare, Beats, Ordering.then_eq_lt, Ordering.then_eq_eq, Std.compare_eq_lt,
      Nat.compare_eq_eq, Int.compare_eq_eq] <;>
    omega

/-- A rule compares as greater exactly if the other one is the stronger one. -/
theorem compare_eq_gt_iff : p.compare a b = .gt ↔ p.Beats b a := by
  cases p <;>
    simp only [compare, Beats, Ordering.then_eq_gt, Ordering.then_eq_eq, Std.compare_eq_gt,
      Nat.compare_eq_eq, Int.compare_eq_eq] <;>
    omega

/-- Two rules compare as equal only at one position. -/
theorem compare_eq_eq_iff : p.compare a b = .eq ↔
    a.1.specificity = b.1.specificity ∧ a.1.priority = b.1.priority ∧ a.2 = b.2 := by
  cases p <;>
    simp only [compare, Ordering.then_eq_eq, Nat.compare_eq_eq, Int.compare_eq_eq] <;>
    omega

/-- What the sorting goes by: a rule stands before another one if that one does not beat it. -/
theorem isLE_compare_iff : (p.compare a b).isLE ↔ ¬ p.Beats b a := by
  rw [Ordering.isLE_iff_eq_lt_or_eq_eq, compare_eq_lt_iff, compare_eq_eq_iff]
  cases p <;> simp only [Beats] <;> omega

/-- Of two rules at different positions one beats the other. -/
theorem beats_or_beats (h : a.2 ≠ b.2) : p.Beats a b ∨ p.Beats b a := by
  cases p <;> simp only [Beats] <;> omega

/-- No two rules beat each other. -/
theorem Beats.asymm (h : p.Beats a b) : ¬ p.Beats b a := by
  cases p <;> simp only [Beats] at * <;> omega

theorem Beats.trans (h : p.Beats a b) (h' : p.Beats b c) : p.Beats a c := by
  cases p <;> simp only [Beats] at * <;> omega

/-- The other way round, rules compare the other way round. -/
theorem compare_swap (p : TieBreak) (a b : Rule × Nat) :
    p.compare b a = (p.compare a b).swap := by
  cases order : p.compare a b with
  | lt => exact compare_eq_gt_iff.2 (compare_eq_lt_iff.1 order)
  | gt => exact compare_eq_lt_iff.2 (compare_eq_gt_iff.1 order)
  | eq =>
      obtain ⟨specificity, priority, position⟩ := compare_eq_eq_iff.1 order
      exact compare_eq_eq_iff.2 ⟨specificity.symm, priority.symm, position.symm⟩

/-! ### The sorted rules -/

/-- Sorting keeps every rule at its position. -/
theorem ranked_perm (p : TieBreak) (rules : List Rule) :
    (p.ranked rules).Perm rules.zipIdx :=
  List.mergeSort_perm _ _

theorem mem_ranked : a ∈ p.ranked rules ↔ rules[a.2]? = some a.1 := by
  rw [(ranked_perm p rules).mem_iff, List.mem_zipIdx_iff_getElem?]

/-- The positions of the sorted rules are all different. -/
theorem ranked_positions (p : TieBreak) (rules : List Rule) :
    (p.ranked rules).Pairwise fun a b => a.2 ≠ b.2 := by
  rw [← List.pairwise_map (R := (· ≠ ·))]
  have h : ((p.ranked rules).map Prod.snd).Perm (rules.zipIdx.map Prod.snd) :=
    (ranked_perm p rules).map _
  rw [List.zipIdx_map_snd] at h
  exact h.nodup_iff.2 List.nodup_range'

/-- Every rule beats those behind it. -/
theorem ranked_pairwise_beats (p : TieBreak) (rules : List Rule) :
    (p.ranked rules).Pairwise p.Beats := by
  have sorted : (p.ranked rules).Pairwise fun a b => (p.compare a b).isLE := by
    apply List.pairwise_mergeSort
    · intro a b c
      simp only [isLE_compare_iff]
      cases p <;> simp only [Beats] <;> omega
    · intro a b
      simp only [Bool.or_eq_true, isLE_compare_iff]
      cases p <;> simp only [Beats] <;> omega
  -- sorted means not beaten; as the positions differ, one of the two does beat the other
  refine sorted.imp₂ (fun a b le ne => ?_) (ranked_positions p rules)
  exact (beats_or_beats ne).resolve_right (isLE_compare_iff.1 le)

/-! ### The strongest of the rules that match -/

/-- Whether a rule, with its position, is the strongest of those that meet a condition. -/
structure Strongest (p : TieBreak) (rules : List Rule) (meets : Rule → Prop) (a : Rule × Nat) :
    Prop where
  /-- It is one of the rules. -/
  listed : rules[a.2]? = some a.1
  met : meets a.1
  /-- It beats every other rule that meets the condition. -/
  beats : ∀ b : Rule × Nat, rules[b.2]? = some b.1 → meets b.1 → b.2 ≠ a.2 → p.Beats a b

/-- There is at most one strongest rule. -/
theorem Strongest.eq {meets : Rule → Prop} (ha : p.Strongest rules meets a)
    (hb : p.Strongest rules meets b) : a = b := by
  by_cases same : a.2 = b.2
  · have listed := ha.listed
    rw [same, hb.listed, Option.some.injEq] at listed
    exact Prod.ext listed.symm same
  · have beats : p.Beats a b := ha.beats b hb.listed hb.met (Ne.symm same)
    exact absurd (hb.beats a ha.listed ha.met same) beats.asymm

/-- The first of the sorted rules that meets a condition is the strongest one that does. -/
theorem strongest_of_find?_ranked (q : Rule → Bool)
    (h : (p.ranked rules).find? (fun r => q r.1) = some a) :
    p.Strongest rules (fun r => q r = true) a := by
  obtain ⟨met, before, behind, split, unmet⟩ := List.find?_eq_some_iff_append.1 h
  have sorted : (before ++ a :: behind).Pairwise p.Beats := split ▸ ranked_pairwise_beats p rules
  have listed : a ∈ p.ranked rules := by simp [split]
  refine ⟨mem_ranked.1 listed, met, fun b listed hb ne => ?_⟩
  have mem : b ∈ before ++ a :: behind := split ▸ mem_ranked.2 listed
  -- a rule in front does not meet the condition, and the rules behind are beaten
  rcases List.mem_append.1 mem with hb' | hb'
  · exact absurd hb (by simpa using unmet b hb')
  · rcases List.mem_cons.1 hb' with rfl | hb'
    · exact absurd rfl ne
    · exact List.rel_of_pairwise_cons (List.pairwise_append.1 sorted).2.1 hb'

/-- Where no sorted rule meets a condition, no rule does. -/
theorem not_of_find?_ranked_eq_none (q : Rule → Bool)
    (h : (p.ranked rules).find? (fun r => q r.1) = none) (r : Rule) (hr : r ∈ rules) :
    ¬ q r = true := by
  obtain ⟨i, hi⟩ := List.mem_iff_getElem?.1 hr
  exact List.find?_eq_none.1 h (r, i) (mem_ranked.2 hi)

/-! ### The positions in order -/

variable {s : RuleSet} {l : List Nat}

/-- The rule of a set at a position, with that position. -/
def placed (s : RuleSet) (i : Fin s.rules.length) : Rule × Nat := (s.rules[i], i)

/-- What the sorting lists are the placed rules. -/
theorem exists_placed (listed : a ∈ p.ranked s.rules) : ∃ i, placed s i = a := by
  obtain ⟨bound, at_position⟩ := List.getElem?_eq_some_iff.1 (mem_ranked.1 listed)
  exact ⟨⟨a.2, bound⟩, Prod.ext at_position rfl⟩

/-- The comparison is a strict total order on the rules of a set. -/
structure OrdersStrictly (p : TieBreak) (s : RuleSet) : Prop where
  irreflexive : ∀ i, p.compare (placed s i) (placed s i) = .eq
  antisymmetric : ∀ i j, p.compare (placed s j) (placed s i) =
    (p.compare (placed s i) (placed s j)).swap
  transitive : ∀ i j k, p.compare (placed s i) (placed s j) = .lt →
    p.compare (placed s j) (placed s k) = .lt → p.compare (placed s i) (placed s k) = .lt
  total : ∀ i j, i ≠ j → p.compare (placed s i) (placed s j) = .lt ∨
    p.compare (placed s j) (placed s i) = .lt

theorem ordersStrictly (p : TieBreak) (s : RuleSet) : p.OrdersStrictly s where
  irreflexive i := compare_eq_eq_iff.2 ⟨rfl, rfl, rfl⟩
  antisymmetric i j := compare_swap p _ _
  transitive i j k h h' :=
    compare_eq_lt_iff.2 ((compare_eq_lt_iff.1 h).trans (compare_eq_lt_iff.1 h'))
  total i j other := by
    rw [compare_eq_lt_iff, compare_eq_lt_iff]
    exact beats_or_beats (Fin.val_ne_of_ne other)

/-- A list of positions in which every rule of a set stands once, before those that it beats. -/
structure Listing (p : TieBreak) (s : RuleSet) (l : List Nat) : Prop where
  /-- No position is lost or repeated. -/
  perm : l.Perm (List.range s.rules.length)
  before_iff : ∀ i j : Fin s.rules.length,
    l.idxOf i.1 < l.idxOf j.1 ↔ p.compare (placed s i) (placed s j) = .lt

/-- Whether the rule at the first of two positions beats that at the second one. -/
def BeatsAt (p : TieBreak) (s : RuleSet) (i j : Nat) : Prop :=
  ∃ a b : Fin s.rules.length, a.1 = i ∧ b.1 = j ∧ p.Beats (placed s a) (placed s b)

theorem BeatsAt.asymm {i j : Nat} (h : p.BeatsAt s i j) : ¬ p.BeatsAt s j i := by
  obtain ⟨a, b, rfl, rfl, beats⟩ := h
  rintro ⟨b', a', same', same, beats'⟩
  rw [Fin.ext same, Fin.ext same'] at beats'
  exact beats.asymm beats'

/-- In such a list, of two positions the first one beats the second one, and this is enough. -/
theorem listing_iff : p.Listing s l ↔
    l.Perm (List.range s.rules.length) ∧ l.Pairwise (p.BeatsAt s) := by
  refine ⟨fun h => ⟨h.perm, ?_⟩, fun ⟨perm, sorted⟩ => ⟨perm, fun i j => ?_⟩⟩
  · have nodup : l.Nodup := h.perm.nodup_iff.2 List.nodup_range
    have bound {i : Nat} (inside : i < l.length) : l[i] < s.rules.length :=
      List.mem_range.1 (h.perm.mem_iff.1 (List.getElem_mem inside))
    refine List.pairwise_iff_getElem.2 fun i j hi hj before => ?_
    refine ⟨⟨l[i], bound hi⟩, ⟨l[j], bound hj⟩, rfl, rfl, ?_⟩
    rw [← compare_eq_lt_iff, ← h.before_iff, nodup.idxOf_getElem, nodup.idxOf_getElem]
    exact before
  · have inside (i : Fin s.rules.length) : l.idxOf i.1 < l.length :=
      List.idxOf_lt_length_of_mem (perm.mem_iff.2 (List.mem_range.2 i.2))
    have beats {i j : Fin s.rules.length} (before : l.idxOf i.1 < l.idxOf j.1) :
        p.Beats (placed s i) (placed s j) := by
      obtain ⟨a, b, same, same', beats⟩ :=
        List.pairwise_iff_getElem.1 sorted _ _ (inside i) (inside j) before
      rw [List.getElem_idxOf] at same same'
      rwa [Fin.ext same, Fin.ext same'] at beats
    rw [compare_eq_lt_iff]
    refine ⟨beats, fun h => Nat.lt_of_not_le fun behind => ?_⟩
    rcases Nat.lt_or_eq_of_le behind with before | same
    · exact h.asymm (beats before)
    · have position : i.1 = j.1 := by
        rw [← List.getElem_idxOf (inside i), ← List.getElem_idxOf (inside j)]
        simp only [same]
      rw [Fin.ext position] at h
      exact h.asymm h

theorem listing_order (p : TieBreak) (s : RuleSet) : p.Listing s (p.order s) := by
  refine listing_iff.2 ⟨?_, ?_⟩
  · have perm := (ranked_perm p s.rules).map Prod.snd
    rwa [List.zipIdx_map_snd, ← List.range_eq_range'] at perm
  · refine List.pairwise_map.2 ((ranked_pairwise_beats p s.rules).imp_of_mem ?_)
    intro a b ha hb beats
    obtain ⟨i, rfl⟩ := exists_placed ha
    obtain ⟨j, rfl⟩ := exists_placed hb
    exact ⟨i, j, rfl, rfl, beats⟩

/-- **The order of the rules.** The comparison orders the rules of a set strictly, and `order` is
the only list of all positions in which one stands before another exactly if its rule beats that of
the other. -/
theorem order_unique (p : TieBreak) (s : RuleSet) :
    p.OrdersStrictly s ∧ ∀ l, p.Listing s l ↔ l = p.order s := by
  refine ⟨ordersStrictly p s, fun l => ⟨fun h => ?_, fun same => same ▸ listing_order p s⟩⟩
  obtain ⟨perm, sorted⟩ := listing_iff.1 h
  obtain ⟨perm', sorted'⟩ := listing_iff.1 (listing_order p s)
  refine List.Perm.eq_of_pairwise ?_ sorted sorted' (perm.trans perm'.symm)
  intro i j _ _ beats beats'
  exact absurd beats' beats.asymm

end LabelForge.TieBreak
