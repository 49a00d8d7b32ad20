import LabelForge.Proofs.StatusColumn
import Mathlib.Data.List.InsertIdx

/-!
# LabelForge.Proofs.Insertion

**One more rule changes only the rows that it matches.** Wherever a rule is inserted, the rules that
were there keep their order, so they beat each other as before. On a row the new rule wins, or the
one wins that won before (`label_insert`).

Design points:

* A rule is known by its position. `raise` tells where each position has gone, and every position
  but that of the new rule is one of these.
* Other columns may be cast for the sake of the new rule. Labels do not depend on that: they are
  those that the rules assign to the original cells.
-/

namespace LabelForge

namespace TieBreak

variable {p : TieBreak} {rules : List Rule} {r : Rule} {i j : Nat} {a b : Rule × Nat}

/-- Where a position goes when a rule is inserted at position `i`. -/
def raise (i position : Nat) : Nat :=
  if position < i then position else position + 1

theorem raise_strictMono (i : Nat) : StrictMono (raise i) := by
  intro j k before
  unfold raise
  split <;> split <;> omega

/-- Nothing but the new rule stands at its position. -/
theorem exists_raise (other : j ≠ i) : ∃ position, j = raise i position := by
  by_cases before : j < i
  · exact ⟨j, (if_pos before).symm⟩
  · refine ⟨j - 1, ?_⟩
    rw [raise, if_neg (by omega)]
    omega

theorem getElem?_raise (rules : List Rule) (r : Rule) (i position : Nat) :
    (rules.insertIdx i r)[raise i position]? = rules[position]? := by
  rw [raise]
  split
  · exact List.getElem?_insertIdx_of_lt ‹_›
  · rw [List.getElem?_insertIdx_of_gt (by omega), Nat.add_sub_cancel]

/-- The rules that were there beat each other as before. -/
theorem beats_raise : p.Beats (a.1, raise i a.2) (b.1, raise i b.2) ↔ p.Beats a b := by
  cases p <;> simp only [Beats, (raise_strictMono i).lt_iff_lt]

/-- With one more rule, the strongest of those that meet a condition is the new one, or the one that
was the strongest before. -/
theorem Strongest.of_insertIdx {meets : Rule → Prop}
    (h : p.Strongest (rules.insertIdx i r) meets a) :
    a.1 = r ∨ ∃ b, p.Strongest rules meets b ∧ a.1 = b.1 := by
  obtain ⟨rule, j⟩ := a
  have listed := h.listed
  by_cases new : j = i
  · rw [new, List.getElem?_insertIdx_self] at listed
    split at listed
    · exact .inl (Option.some.inj listed).symm
    · cases listed
  · obtain ⟨position, rfl⟩ := exists_raise new
    rw [getElem?_raise] at listed
    refine .inr ⟨(rule, position), ⟨listed, h.met, ?_⟩, rfl⟩
    intro b there met ne
    have raised : (rules.insertIdx i r)[raise i b.2]? = some b.1 :=
      (getElem?_raise rules r i b.2).trans there
    have other : raise i b.2 ≠ raise i position := (raise_strictMono i).injective.ne ne
    exact beats_raise.1 (h.beats (b.1, raise i b.2) raised met other)

end TieBreak

/-- The rule set with another rule at a position; behind the end there is no position. -/
def RuleSet.insert (s : RuleSet) (i : Nat) (r : Rule) : RuleSet :=
  ⟨s.rules.insertIdx i r⟩

variable {s : RuleSet} {i : Nat} {r : Rule} {policy : TieBreak} {labels : Labels} {f : Frame}

/-- With one more rule, a row is assigned the label from before or the action of that rule. -/
theorem RuleSet.Assigns.of_insert {row : Nat} {label : String}
    (h : (s.insert i r).Assigns policy labels f row label) :
    s.Assigns policy labels f row label ∨ r.Meets f row ∧ label = r.action := by
  cases h with
  | won strongest =>
      rcases strongest.of_insertIdx with new | ⟨b, before, old⟩
      · exact .inr ⟨new ▸ strongest.met, congrArg Rule.action new⟩
      · rw [old]
        exact .inl (.won before)
  | unmatched none =>
      have fewer : ∀ r' ∈ s.rules, ¬ r'.Meets f row := fun r' mem =>
        none r' (List.subset_insertIdx s.rules i r mem)
      exact .inl (.unmatched fewer)

/-- A labelled table has as many rows as the table, and one if there was no column to count them
in. -/
theorem Plan.rows_of_apply {p : Plan} {out : Frame} (h : p.apply f = .ok out) :
    out.rows = if f.columns = [] then 1 else f.rows := by
  obtain ⟨sound, -⟩ := apply_eq_ok h
  split
  · rename_i bare
    cases h.symm.trans (apply_of_no_columns sound bare)
    rfl
  · rename_i wide
    cases h.symm.trans (apply_of_columns sound wide)
    rfl

/-- **One more rule.** If a table can be labelled both without and with another rule, then every row
has the same label in both, or all clauses of that rule hold on the row and its label is the action
of the rule. The two labelled tables have the same rows. -/
theorem Frame.label_insert {out out' : Frame} (before : f.label s policy labels = .ok out)
    (after : f.label (s.insert i r) policy labels = .ok out') :
    out'.rows = out.rows ∧ ∀ row < out.rows, ∃ old new,
      out.cell labels.statusColumn row = .text old ∧
        out'.cell labels.statusColumn row = .text new ∧
          (new = old ∨ r.Meets f row ∧ new = r.action) := by
  have rows : out'.rows = out.rows :=
    (Plan.rows_of_apply after).trans (Plan.rows_of_apply before).symm
  refine ⟨rows, ?_⟩
  intro row bound
  refine ⟨_, _, Plan.cell_apply before bound, Plan.cell_apply after (rows ▸ bound), ?_⟩
  rw [Plan.eval_choice_prepared, Plan.eval_choice_prepared]
  have old := s.assigns_choice policy labels f row
  have new := (s.insert i r).assigns_choice policy labels f row
  rcases new.of_insert with same | won
  · exact .inl (same.unique old)
  · exact .inr won

/-- The second of the rules that overlap, added behind the first one, wins where both match. -/
theorem Frame.label_insert_overlap : ∃ out out' : Frame,
    agedStock.label ⟨overlappingRules.rules.take 1⟩ .specificityFirst {} = .ok out ∧
      agedStock.label (RuleSet.insert ⟨overlappingRules.rules.take 1⟩ 1 overlappingRules.rules[1])
        .specificityFirst {} = .ok out' ∧
      out'.rows = out.rows ∧ ∀ row < out.rows, ∃ old new,
        out.cell "Status" row = .text old ∧ out'.cell "Status" row = .text new ∧
          (new = old ∨ overlappingRules.rules[1].Meets agedStock row ∧
            new = overlappingRules.rules[1].action) := by
  have single : TieBreak.specificityFirst.ranked (overlappingRules.rules.take 1) =
      (overlappingRules.rules.take 1).zipIdx := by
    simp [TieBreak.ranked, overlappingRules]
  have first :
      (Plan.compile ⟨overlappingRules.rules.take 1⟩ .specificityFirst {}).fault? agedStock =
        none := by
    rw [Plan.compile, single]
    decide +kernel
  have both : (Plan.compile overlappingRules .specificityFirst {}).fault? agedStock = none := by
    rw [Plan.compile, ranked_overlappingRules]
    decide +kernel
  have before : agedStock.label _ _ _ = _ := Plan.apply_of_columns first (by decide)
  have after : agedStock.label (RuleSet.insert ⟨overlappingRules.rules.take 1⟩ 1
      overlappingRules.rules[1]) _ _ = _ := Plan.apply_of_columns both (by decide)
  exact ⟨_, _, before, after, Frame.label_insert before after⟩

end LabelForge
