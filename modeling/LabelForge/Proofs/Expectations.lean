import LabelForge.Proofs.Labelling
import LabelForge.Proofs.Validation

/-!
# LabelForge.Proofs.Expectations

**Expectations against the labelling they are derived from.** The labels that must occur and the
expected counts are read off the labels that were counted, so the labelling meets them. The labels
that may occur are those of the rules as they are written, while labels are counted without the
blanks at their ends: a label that is not its own trim must then occur as a text that may not, and
no output at all is accepted.
-/

namespace LabelForge

/-- The labels of a column are the trims of its texts that are not blank. -/
theorem Frame.mem_labels_iff {f : Frame} {name label : String} {c : Column}
    (h : f.column? name = some c) :
    label ∈ c.labels ↔ ∃ row < f.rows, Text.isBlankText (f.cell name row).render = false ∧
      Text.trim (f.cell name row).render = label := by
  have aligned := f.aligned c (List.mem_of_find?_eq_some h)
  have at_ : ∀ row, f.cell name row = c.cells.getD row .missing := fun row => by
    rw [cell, h]
  simp only [Column.labels, List.mem_map, List.mem_filter, at_, Bool.not_eq_true', ← aligned]
  constructor
  · rintro ⟨cell, ⟨mem, filled⟩, rfl⟩
    obtain ⟨row, bound, rfl⟩ := List.mem_iff_getElem.1 mem
    have same : c.cells.getD row .missing = c.cells[row] := by
      rw [List.getD_eq_getElem?_getD, List.getElem?_eq_getElem bound, Option.getD_some]
    exact ⟨row, bound, same ▸ filled, same ▸ rfl⟩
  · rintro ⟨row, bound, filled, rfl⟩
    refine ⟨_, ⟨?_, filled⟩, rfl⟩
    rw [List.getD_eq_getElem?_getD, List.getElem?_eq_getElem bound, Option.getD_some]
    exact List.getElem_mem bound

/-! ### The labels that are counted -/

namespace Plan

variable {p : Plan} {f out : Frame} {d : Tally}

/-- A table to which a plan was applied has the column of the labels. -/
theorem column?_apply (h : p.apply f = .ok out) : ∃ c, out.column? p.statusColumn = some c := by
  obtain ⟨-, ⟨-, rfl⟩ | ⟨-, rfl⟩⟩ := apply_eq_ok h
  · exact ⟨_, by simp [Frame.column?, Frame.ofColumn, statusOf]; rfl⟩
  · exact ⟨_, Frame.column?_place (p.statusColumnOf (p.prepared f)) f.columns⟩

/-- What is counted is the column of the labels. -/
theorem winningLabels_eq_ok (h : p.winningLabels f = .ok d) :
    ∃ out c, p.apply f = .ok out ∧ out.column? p.statusColumn = some c ∧ d = c.counts := by
  unfold winningLabels at h
  cases applied : p.apply f with
  | error e => rw [applied] at h; cases h
  | ok out =>
      obtain ⟨c, found⟩ := column?_apply applied
      rw [applied] at h
      simp only [bind, Except.bind, found, pure, Except.pure, Except.ok.injEq] at h
      exact ⟨out, c, rfl, found, h.symm⟩

/-- A label is counted if it is the trim of a label that a row got and that is not blank. -/
theorem mem_labels_winningLabels (applied : p.apply f = .ok out) (h : p.winningLabels f = .ok d)
    (label : String) :
    label ∈ d.labels ↔ ∃ row < out.rows, ∃ assigned, out.cell p.statusColumn row = .text assigned ∧
      Text.isBlankText assigned = false ∧ Text.trim assigned = label := by
  obtain ⟨_, c, again, found, rfl⟩ := winningLabels_eq_ok h
  cases applied.symm.trans again
  rw [Column.counts, Tally.mem_labels_ofLabels, Frame.mem_labels_iff found]
  refine exists_congr fun row => and_congr_right fun bound => ?_
  rw [cell_apply applied bound]
  simp [Cell.render]

end Plan

/-- A label that a rule set assigns is the default label or that of a rule. -/
theorem RuleSet.Assigns.listed {s : RuleSet} {policy : TieBreak} {labels : Labels} {f : Frame}
    {row : Nat} {label : String} (h : s.Assigns policy labels f row label) :
    label ∈ labels.defaultLabel :: s.vocabulary := by
  cases h with
  | won strongest =>
      refine List.mem_cons_of_mem _ (List.mem_eraseDups.2 ?_)
      exact List.mem_map_of_mem (List.mem_of_getElem? strongest.listed)
  | unmatched _ => exact List.mem_cons_self ..

/-! ### What is derived -/

namespace Expectations

variable {f : Frame} {s : RuleSet} {settings : Settings} {e : Expectations}

theorem derive_eq_ok (h : derive f s settings = .ok e) :
    ∃ d, (Plan.compile s settings.tieBreak settings.labels).winningLabels f = .ok d ∧
      e = { ofRules s settings.labels f.names with
        required := .ofTexts (d.labels.filter (· != settings.labels.defaultLabel))
        counts := if settings.strictCounts then some d else none } := by
  unfold derive at h
  cases won : (Plan.compile s settings.tieBreak settings.labels).winningLabels f with
  | error e => rw [won] at h; cases h
  | ok d =>
      rw [won] at h
      cases h
      exact ⟨d, rfl, rfl⟩

/-- What may occur is the default label and the labels of the rules. -/
theorem allows_derive (h : derive f s settings = .ok e) {label : String} :
    e.allows label = true ↔ label ∈ settings.labels.defaultLabel :: s.vocabulary := by
  obtain ⟨d, -, rfl⟩ := derive_eq_ok h
  simp only [allows, ofRules, Bool.or_eq_true, beq_iff_eq, List.contains_iff_mem,
    OrderedSet.mem_ofTexts, List.mem_cons]

/-- What must occur is what was counted, except for the default label. -/
theorem mem_required_derive (h : derive f s settings = .ok e) {d : Tally}
    (won : (Plan.compile s settings.tieBreak settings.labels).winningLabels f = .ok d)
    {label : String} :
    label ∈ e.required ↔ label ∈ d.labels ∧ label ≠ settings.labels.defaultLabel := by
  obtain ⟨_, again, rfl⟩ := derive_eq_ok h
  cases won.symm.trans again
  simp only [OrderedSet.mem_ofTexts, List.mem_filter, bne_iff_ne]

/-- **The labelling meets the expectations derived from it, but for blanks at the ends of labels.**
What is counted are the trims of the labels that the rows got. Every label that must occur does, and
as often as expected; the only failure there can be lists the labels that may not occur. If every
label is its own trim there is none, and where there is one, no output is ever accepted. -/
theorem labels_reference (h : derive f s settings = .ok e) :
    ∃ out d, f.label s settings.tieBreak settings.labels = .ok out ∧
      (Plan.compile s settings.tieBreak settings.labels).winningLabels f = .ok d ∧
      (∀ label, label ∈ d.labels ↔ ∃ row < out.rows, ∃ assigned,
        out.cell settings.labels.statusColumn row = .text assigned ∧
          Text.isBlankText assigned = false ∧ Text.trim assigned = label) ∧
      (∀ label ∈ e.required, d.has label = true) ∧
      (∀ p ∈ e.counts.getD [], d.get p.1 = p.2) ∧
      Validation.labels d e = (if d.labels.all e.allows then []
        else [.unknownLabels (d.labels.filter fun label => !e.allows label)]) ∧
      ((∀ label ∈ settings.labels.defaultLabel :: s.vocabulary, Text.trim label = label) →
        Validation.labels d e = []) ∧
      (Validation.labels d e ≠ [] →
        ∀ disk run rows, (Validation.check disk run e rows).passed = false) := by
  obtain ⟨d, won, shape⟩ := derive_eq_ok h
  obtain ⟨out, c, applied, -, counted⟩ := Plan.winningLabels_eq_ok won
  have labels := Plan.mem_labels_winningLabels applied won
  have required : ∀ label ∈ e.required, d.has label = true := by
    intro label mem
    exact Tally.has_iff_mem.2 ((mem_required_derive h won).1 mem).1
  have counts : ∀ p ∈ e.counts.getD [], d.get p.1 = p.2 := by
    intro p mem
    have sorted : d.Sorted := counted ▸ Tally.sorted_ofLabels _
    refine sorted.get ?_
    rw [shape] at mem
    dsimp only at mem
    split at mem
    · exact mem
    · cases mem
  have failures : Validation.labels d e = (if d.labels.all e.allows then []
      else [.unknownLabels (d.labels.filter fun label => !e.allows label)]) := by
    have unassigned : e.required.filter (fun label => !d.has label) = [] :=
      List.filter_eq_nil_iff.2 fun label mem => by simp [required label mem]
    have miscounted : (e.counts.getD []).filter (fun p => d.get p.1 != p.2) = [] :=
      List.filter_eq_nil_iff.2 fun p mem => by simp [counts p mem]
    have unknown : (d.labels.filter fun label => !e.allows label).isEmpty =
        d.labels.all e.allows := by
      rw [Bool.eq_iff_iff, List.isEmpty_iff, List.filter_eq_nil_iff, List.all_eq_true]
      simp
    rw [Validation.labels, unassigned, miscounted, unknown, List.map_nil, List.map_nil,
      List.nil_append, List.append_nil]
  refine ⟨out, d, applied, won, labels, required, counts, failures, ?_, ?_⟩
  · intro trimmed
    rw [failures, if_pos]
    refine List.all_eq_true.2 fun label mem => (allows_derive h).2 ?_
    obtain ⟨row, bound, assigned, cell, -, rfl⟩ := (labels label).1 mem
    have chosen : assigned = _ := Cell.text.inj (cell.symm.trans (Plan.cell_apply applied bound))
    rw [Plan.eval_choice_prepared] at chosen
    have listed : assigned ∈ settings.labels.defaultLabel :: s.vocabulary :=
      chosen ▸ (s.assigns_choice settings.tieBreak settings.labels f row).listed
    rwa [trimmed assigned listed]
  · intro failing disk run rows
    rw [Bool.eq_false_iff]
    intro passed
    have accepted := Validation.accepted_of_passed passed
    -- a label that may not occur is not the default label, so it must occur in what was accepted
    refine failing ?_
    rw [failures, if_pos]
    refine List.all_eq_true.2 fun label mem => ?_
    by_cases default : label = settings.labels.defaultLabel
    · exact (allows_derive h).2 (default ▸ List.mem_cons_self ..)
    · exact accepted.allowed label
        (accepted.required label ((mem_required_derive h won).2 ⟨mem, default⟩))

/-- A rule that holds of every record and whose label has blanks at its ends. -/
def paddedRules : RuleSet := ⟨[⟨"held", "On hold", .always, " keep ", 0, none⟩]⟩

/-- What is expected of a table that `paddedRules` labels: `keep` must occur but may not. -/
def paddedExpectations : Expectations where
  statusColumn := "Status"
  defaultLabel := "Normal"
  inputColumns := ["age"]
  vocabulary := [" keep "]
  required := ["keep"]

theorem ranked_paddedRules :
    TieBreak.specificityFirst.ranked paddedRules.rules = paddedRules.rules.zipIdx :=
  List.mergeSort_singleton _

theorem winningLabels_paddedRules :
    (Plan.compile paddedRules .specificityFirst {}).winningLabels agedStock =
      .ok [("keep", 3)] := by
  rw [Plan.compile, ranked_paddedRules]
  rfl

theorem derive_paddedRules : derive agedStock paddedRules {} = .ok paddedExpectations := by
  rw [derive, winningLabels_paddedRules]
  rfl

/-- No rule of `paddedRules` is defective, and still its own labelling does not meet what is derived
from it. -/
theorem unmet_paddedRules : paddedRules.defect? = none ∧
    ∃ e d, derive agedStock paddedRules {} = .ok e ∧
      (Plan.compile paddedRules .specificityFirst {}).winningLabels agedStock = .ok d ∧
      Validation.labels d e = [.unknownLabels ["keep"]] :=
  ⟨by decide, _, _, derive_paddedRules, winningLabels_paddedRules, by decide⟩

/-- With `paddedRules` no output is accepted. -/
theorem labels_reference_paddedRules :
    derive agedStock paddedRules {} = .ok paddedExpectations ∧
      ∀ disk run rows, (Validation.check disk run paddedExpectations rows).passed = false := by
  obtain ⟨_, d, -, won, -, -, -, -, -, rejected⟩ := labels_reference derive_paddedRules
  cases winningLabels_paddedRules.symm.trans won
  exact ⟨derive_paddedRules, rejected (by decide)⟩

end Expectations

end LabelForge
