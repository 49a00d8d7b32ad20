import LabelForge.Proofs.Text.Trim
import LabelForge.Rule.Basic

/-!
# LabelForge.Proofs.Defect

**The first defect of a rule set.** A rule set may be used exactly if it has rules, all of them have
ids, labels and columns that are not blank, and no two ids are the same text. Otherwise the defect
that is reported belongs to the first rule that breaks a requirement, and to the first requirement
that this rule breaks (`defect_exact`).

Design points:

* A requirement is broken by a rule *behind others*, since an id is compared with those before it.
  What is reported is the least pair of a position and a requirement that is broken there.
* The loop carries the ids it has seen. That these are the ids of the rules in front is its
  invariant; the order and the number of times in which they were collected do not matter.
-/

namespace LabelForge.RuleSet

/-! ### What is required of a rule -/

/-- What is required of a rule. -/
inductive Requirement where
  /-- The id is not blank. -/
  | givenId
  /-- No rule in front has the id. -/
  | newId
  /-- The label is not blank. -/
  | givenAction
  /-- No clause names a blank column. -/
  | givenColumns
  deriving DecidableEq, Repr

namespace Requirement

/-- The place of a requirement in the order in which they are tried. -/
def rank : Requirement → Nat
  | givenId => 0
  | newId => 1
  | givenAction => 2
  | givenColumns => 3

/-- Whether a rule behind others breaks a requirement. -/
def BrokenBy (earlier : List Rule) (r : Rule) : Requirement → Prop
  | givenId => Text.trim r.id = ""
  | newId => ∃ e ∈ earlier, e.id = r.id
  | givenAction => Text.trim r.action = ""
  | givenColumns => ∃ c ∈ r.condition.all, Text.trim c.column = ""

/-- What is wrong with the rule at a position that breaks a requirement. -/
def defect (index : Nat) (r : Rule) : Requirement → Defect
  | givenId => .blankId index
  | newId => .duplicateId r.id
  | givenAction => .blankAction r.id
  | givenColumns => .blankColumn r.id

theorem rank_injective {q q' : Requirement} (same : q.rank = q'.rank) : q = q' := by
  cases q <;> cases q' <;> simp [rank] at *

end Requirement

variable {rules earlier : List Rule} {ids : List String} {r : Rule} {q : Requirement} {i : Nat}

/-- The ids are those of the rules. -/
def Lists (ids : List String) (rules : List Rule) : Prop :=
  ∀ id, id ∈ ids ↔ ∃ r ∈ rules, r.id = id

theorem Lists.concat (h : Lists ids earlier) (r : Rule) : Lists (r.id :: ids) (earlier ++ [r]) := by
  intro id
  simp only [List.mem_cons, h id, List.mem_append, List.not_mem_nil, or_false, or_and_right,
    exists_or, exists_eq_left]
  exact or_comm.trans (or_congr_right eq_comm)

/-! ### The tests of a rule -/

theorem brokenBy_givenId :
    Requirement.givenId.BrokenBy earlier r ↔ Text.isBlankText r.id = true :=
  Text.isBlankText_iff.symm

theorem brokenBy_newId (seen : Lists ids earlier) :
    Requirement.newId.BrokenBy earlier r ↔ ids.contains r.id = true := by
  rw [List.contains_iff_mem]
  exact (seen r.id).symm

theorem brokenBy_givenAction :
    Requirement.givenAction.BrokenBy earlier r ↔ Text.isBlankText r.action = true :=
  Text.isBlankText_iff.symm

theorem brokenBy_givenColumns : Requirement.givenColumns.BrokenBy earlier r ↔
    (r.condition.all.any fun c => Text.isBlankText c.column) = true := by
  simp only [Requirement.BrokenBy, List.any_eq_true, Text.isBlankText_iff]

/-- A rule that breaks no requirement has no defect. -/
theorem ruleDefect?_sound (seen : Lists ids earlier)
    (sound : ∀ q : Requirement, ¬ q.BrokenBy earlier r) (index : Nat) :
    ruleDefect? index ids r = none := by
  rw [ruleDefect?, if_neg (mt brokenBy_givenId.2 (sound _)),
    if_neg (mt (brokenBy_newId seen).2 (sound _)), if_neg (mt brokenBy_givenAction.2 (sound _)),
    if_neg (mt brokenBy_givenColumns.2 (sound _))]

/-- The defect of a rule is told by the first requirement that it breaks. -/
theorem ruleDefect?_broken (seen : Lists ids earlier) (broken : q.BrokenBy earlier r)
    (sooner : ∀ q' : Requirement, q'.rank < q.rank → ¬ q'.BrokenBy earlier r) (index : Nat) :
    ruleDefect? index ids r = some (q.defect index r) := by
  cases q with
  | givenId =>
      rw [ruleDefect?, if_pos (brokenBy_givenId.1 broken)]
      rfl
  | newId =>
      rw [ruleDefect?, if_neg (mt brokenBy_givenId.2 (sooner _ (by decide))),
        if_pos ((brokenBy_newId seen).1 broken)]
      rfl
  | givenAction =>
      rw [ruleDefect?, if_neg (mt brokenBy_givenId.2 (sooner _ (by decide))),
        if_neg (mt (brokenBy_newId seen).2 (sooner _ (by decide))),
        if_pos (brokenBy_givenAction.1 broken)]
      rfl
  | givenColumns =>
      rw [ruleDefect?, if_neg (mt brokenBy_givenId.2 (sooner _ (by decide))),
        if_neg (mt (brokenBy_newId seen).2 (sooner _ (by decide))),
        if_neg (mt brokenBy_givenAction.2 (sooner _ (by decide))),
        if_pos (brokenBy_givenColumns.1 broken)]
      rfl

/-- Of the requirements that a rule breaks, one is tried first. -/
theorem exists_first (broken : q.BrokenBy earlier r) : ∃ q : Requirement, q.BrokenBy earlier r ∧
    ∀ q' : Requirement, q'.rank < q.rank → ¬ q'.BrokenBy earlier r := by
  induction rank : q.rank using Nat.strongRecOn generalizing q with
  | ind n ih =>
      by_cases sooner : ∃ q' : Requirement, q'.rank < q.rank ∧ q'.BrokenBy earlier r
      · obtain ⟨q', lower, broken'⟩ := sooner
        exact ih _ (rank ▸ lower) broken' rfl
      · exact ⟨q, broken, fun q' lower broken' => sooner ⟨q', lower, broken'⟩⟩

/-! ### The rules one after the other -/

/-- Whether the rule at a position breaks a requirement. -/
def Breaks (rules : List Rule) (i : Nat) (q : Requirement) : Prop :=
  ∃ r, rules[i]? = some r ∧ q.BrokenBy (rules.take i) r

theorem breaks_iff (listed : rules[i]? = some r) :
    Breaks rules i q ↔ q.BrokenBy (rules.take i) r := by
  simp [Breaks, listed]

/-- Whether a rule is the first one that breaks a requirement, and this is the first requirement
that it breaks. -/
structure FirstBroken (rules : List Rule) (i : Nat) (r : Rule) (q : Requirement) : Prop where
  listed : rules[i]? = some r
  broken : q.BrokenBy (rules.take i) r
  /-- No rule in front of it breaks any requirement. -/
  front : ∀ j < i, ∀ q', ¬ Breaks rules j q'
  /-- It breaks no requirement that is tried sooner. -/
  sooner : ∀ q' : Requirement, q'.rank < q.rank → ¬ q'.BrokenBy (rules.take i) r

/-- The loop over the rules behind others that break no requirement, by induction on these rules. -/
theorem defectFrom?_cases {rest : List Rule} (behind : rules.drop i = rest)
    (seen : Lists ids (rules.take i)) (front : ∀ j < i, ∀ q, ¬ Breaks rules j q) :
    (defectFrom? i ids rest = none ∧ ∀ j q, ¬ Breaks rules j q) ∨
      ∃ j r q, FirstBroken rules j r q ∧ defectFrom? i ids rest = some (q.defect j r) := by
  induction rest generalizing i ids with
  | nil =>
      have bound : rules.length ≤ i := List.drop_eq_nil_iff.1 behind
      refine .inl ⟨rfl, ?_⟩
      rintro j q ⟨r, listed, broken⟩
      have inside : j < rules.length := (List.getElem?_eq_some_iff.1 listed).1
      exact front j (by omega) q ⟨r, listed, broken⟩
  | cons r rest ih =>
      have listed : rules[i]? = some r := by
        rw [← List.head?_drop, behind]
        rfl
      by_cases faulty : ∃ q : Requirement, q.BrokenBy (rules.take i) r
      · obtain ⟨q, broken⟩ := faulty
        obtain ⟨q, broken, sooner⟩ := exists_first broken
        refine .inr ⟨i, r, q, ⟨listed, broken, front, sooner⟩, ?_⟩
        rw [defectFrom?, ruleDefect?_broken seen broken sooner]
      · have sound (q : Requirement) : ¬ q.BrokenBy (rules.take i) r :=
          fun broken => faulty ⟨q, broken⟩
        have others : rules.drop (i + 1) = rest := by
          rw [← List.tail_drop, behind]
          rfl
        have next : Lists (r.id :: ids) (rules.take (i + 1)) := by
          rw [List.take_add_one, listed]
          exact seen.concat r
        rw [defectFrom?, ruleDefect?_sound seen sound]
        refine ih others next ?_
        intro j before q
        rcases Nat.lt_succ_iff_lt_or_eq.1 before with earlier | rfl
        · exact front j earlier q
        · rw [breaks_iff listed]
          exact sound q

/-! ### Rule sets that may be used -/

/-- Whether a rule set may be used. -/
structure Usable (s : RuleSet) : Prop where
  /-- There is a rule. -/
  rules : s.rules ≠ []
  /-- The ids are not blank. -/
  ids : ∀ r ∈ s.rules, Text.trim r.id ≠ ""
  /-- The ids are different, as they are written. -/
  distinct : s.rules.Pairwise fun r r' => r.id ≠ r'.id
  /-- The labels are not blank. -/
  actions : ∀ r ∈ s.rules, Text.trim r.action ≠ ""
  /-- No clause names a blank column. -/
  columns : ∀ r ∈ s.rules, ∀ c ∈ r.condition.all, Text.trim c.column ≠ ""

/-- The ids are different if each of them is new where it stands. -/
theorem pairwise_ids_iff :
    rules.Pairwise (fun r r' => r.id ≠ r'.id) ↔ ∀ i, ¬ Breaks rules i .newId := by
  rw [List.pairwise_iff_getElem]
  constructor
  · rintro distinct j ⟨r, listed, e, front, same⟩
    obtain ⟨bound, rfl⟩ := List.getElem?_eq_some_iff.1 listed
    obtain ⟨i, before, rfl⟩ := List.mem_take_iff_getElem.1 front
    exact distinct i j (by omega) bound (by omega) same
  · intro fresh i j inside bound before same
    have front : rules[i] ∈ rules.take j := List.mem_take_iff_getElem.2 ⟨i, by omega, rfl⟩
    exact fresh j ⟨rules[j], List.getElem?_eq_getElem bound, rules[i], front, same⟩

/-- A rule set may be used if there are rules and none of them breaks a requirement. -/
theorem usable_iff {s : RuleSet} : s.Usable ↔ s.rules ≠ [] ∧ ∀ i q, ¬ Breaks s.rules i q := by
  constructor
  · intro h
    refine ⟨h.rules, ?_⟩
    intro i q breaks
    obtain ⟨r, listed, broken⟩ := breaks
    have mem : r ∈ s.rules := List.mem_of_getElem? listed
    cases q with
    | givenId => exact h.ids r mem broken
    | newId => exact pairwise_ids_iff.1 h.distinct i ⟨r, listed, broken⟩
    | givenAction => exact h.actions r mem broken
    | givenColumns =>
        obtain ⟨c, clause, blank⟩ := broken
        exact h.columns r mem c clause blank
  · rintro ⟨rules, sound⟩
    have meets {r : Rule} (mem : r ∈ s.rules) :
        ∃ earlier, ∀ q : Requirement, ¬ q.BrokenBy earlier r := by
      obtain ⟨i, listed⟩ := List.mem_iff_getElem?.1 mem
      exact ⟨s.rules.take i, fun q broken => sound i q ⟨r, listed, broken⟩⟩
    refine ⟨rules, ?_, pairwise_ids_iff.2 fun i => sound i .newId, ?_, ?_⟩
    · intro r mem
      obtain ⟨_, met⟩ := meets mem
      exact met .givenId
    · intro r mem
      obtain ⟨_, met⟩ := meets mem
      exact met .givenAction
    · intro r mem c clause blank
      obtain ⟨_, met⟩ := meets mem
      exact met .givenColumns ⟨c, clause, blank⟩

/-! ### What is reported -/

/-- What is reported of a rule set that may not be used. -/
inductive FirstDefect (s : RuleSet) : Defect → Prop
  /-- There is no rule. -/
  | noRules (none : s.rules = []) : FirstDefect s .noRules
  /-- The first rule that breaks a requirement breaks this one first. -/
  | broken {i : Nat} {r : Rule} {q : Requirement} (first : FirstBroken s.rules i r q) :
      FirstDefect s (q.defect i r)

theorem FirstBroken.breaks (h : FirstBroken rules i r q) : Breaks rules i q :=
  ⟨r, h.listed, h.broken⟩

theorem FirstBroken.ne_nil (h : FirstBroken rules i r q) : rules ≠ [] :=
  List.ne_nil_of_mem (List.mem_of_getElem? h.listed)

/-- Only one requirement is the first one that is broken. -/
theorem FirstBroken.unique {i' : Nat} {r' : Rule} {q' : Requirement} (h : FirstBroken rules i r q)
    (h' : FirstBroken rules i' r' q') : i = i' ∧ r = r' ∧ q = q' := by
  obtain rfl : i = i' := by
    refine Nat.le_antisymm ?_ ?_
    · exact Nat.le_of_not_lt fun before => h.front i' before q' h'.breaks
    · exact Nat.le_of_not_lt fun before => h'.front i before q h.breaks
  cases h.listed.symm.trans h'.listed
  refine ⟨rfl, rfl, Requirement.rank_injective (Nat.le_antisymm ?_ ?_)⟩
  · exact Nat.le_of_not_lt fun lower => h.sooner q' lower h'.broken
  · exact Nat.le_of_not_lt fun lower => h'.sooner q lower h.broken

variable {s : RuleSet} {d d' : Defect}

theorem FirstDefect.unique (h : s.FirstDefect d) (h' : s.FirstDefect d') : d = d' := by
  cases h with
  | noRules none =>
      cases h' with
      | noRules => rfl
      | broken first => exact absurd none first.ne_nil
  | broken first =>
      cases h' with
      | noRules none => exact absurd none first.ne_nil
      | broken first' =>
          obtain ⟨rfl, rfl, rfl⟩ := first.unique first'
          rfl

theorem FirstDefect.not_usable (h : s.FirstDefect d) : ¬ s.Usable := by
  intro usable
  cases h with
  | noRules none => exact usable.rules none
  | broken first => exact (usable_iff.1 usable).2 _ _ first.breaks

/-- A rule set may be used, or its first defect is found. -/
theorem defect?_cases (s : RuleSet) :
    (s.defect? = none ∧ s.Usable) ∨ ∃ d, s.defect? = some d ∧ s.FirstDefect d := by
  unfold defect?
  split
  · rename_i empty
    exact .inr ⟨_, rfl, .noRules (List.isEmpty_iff.1 empty)⟩
  · rename_i full
    have start : Lists [] (s.rules.take 0) := fun id => by simp
    rcases defectFrom?_cases List.drop_zero start nofun with
      ⟨none, sound⟩ | ⟨i, r, q, first, found⟩
    · exact .inl ⟨none, usable_iff.2 ⟨fun empty => full (List.isEmpty_iff.2 empty), sound⟩⟩
    · exact .inr ⟨_, found, .broken first⟩

/-- **The first defect.** A rule set has no defect exactly if it may be used, and otherwise its
defect is that of the first rule that breaks a requirement. -/
theorem defect_exact (s : RuleSet) :
    (s.defect? = none ↔ s.Usable) ∧ ∀ d, s.defect? = some d ↔ s.FirstDefect d := by
  rcases defect?_cases s with ⟨none, usable⟩ | ⟨found, some, first⟩
  · rw [none]
    refine ⟨iff_of_true rfl usable, fun d => iff_of_false nofun ?_⟩
    exact fun first => first.not_usable usable
  · rw [some]
    refine ⟨iff_of_false nofun first.not_usable, fun d => ⟨?_, ?_⟩⟩
    · intro same
      exact Option.some.inj same ▸ first
    · intro first'
      rw [first.unique first']

/-- Ids that differ in a blank are different, and a duplicate is reported before a blank label. -/
example : defect? ⟨[⟨"A", "", .always, "keep", 0, none⟩, ⟨"A ", "", .always, "keep", 0, none⟩,
    ⟨"A", "", .always, " ", 0, none⟩]⟩ = some (.duplicateId "A") := by
  decide

end LabelForge.RuleSet
