import LabelForge.Tally

/-!
# LabelForge.Proofs.Tally

**Counting loses nothing.** The counts of a tally add up to the number of labels that were
counted, its labels are those that occur, each with the number of its occurrences, and they stand in
ascending order, each once. A sorted tally is therefore the only tally with its pairs, and so it is
read back from them. An ordered set is sorted, too, and so it is told by its texts.
-/

namespace LabelForge

/-- Texts in ascending order are different. -/
theorem ne_of_compare_lt {a b : String} (order : compare a b = .lt) : a ≠ b := by
  rintro rfl
  rw [Std.ReflOrd.compare_self] at order
  cases order

end LabelForge

namespace LabelForge.Tally

open Std

variable {label : String} {f : Option Nat → Nat} {t : Tally}

/-- A tally with its labels in ascending order. -/
def Sorted (t : Tally) : Prop :=
  t.labels.Pairwise fun a b => compare a b = .lt

/-! ### Changing one count -/

/-- The labels after a change are the labels before and the changed one. -/
theorem mem_labels_alter {other : String} :
    other ∈ (t.alter label f).labels ↔ other = label ∨ other ∈ t.labels := by
  induction t with
  | nil => simp [alter, labels]
  | cons p t ih =>
      obtain ⟨first, n⟩ := p
      simp only [labels, List.map_cons, List.mem_cons, alter] at ih ⊢
      cases h : compare label first with
      | lt => simp
      | eq =>
          rw [LawfulEqOrd.compare_eq_iff_eq.mp h]
          simp
      | gt => simp [ih, or_left_comm]

/-- A change keeps the labels in order. -/
theorem Sorted.alter (h : t.Sorted) : (t.alter label f).Sorted := by
  induction t with
  | nil => exact List.pairwise_singleton _ _
  | cons p t ih =>
      obtain ⟨first, n⟩ := p
      obtain ⟨least, rest⟩ := List.pairwise_cons.mp h
      simp only [Tally.alter]
      cases order : compare label first with
      | lt =>
          refine List.pairwise_cons.mpr ⟨?_, h⟩
          intro other mem
          rcases List.mem_cons.mp mem with rfl | later
          · exact order
          · exact TransCmp.lt_trans order (least other later)
      | eq => exact List.pairwise_cons.mpr ⟨least, rest⟩
      | gt =>
          refine List.pairwise_cons.mpr ⟨?_, ih rest⟩
          intro other mem
          rcases mem_labels_alter.mp mem with rfl | later
          · exact OrientedCmp.gt_iff_lt.mp order
          · exact least other later

/-- Counting a label adds one to the sum. -/
theorem total_count (t : Tally) (label : String) : (t.count label).total = t.total + 1 := by
  induction t with
  | nil => rfl
  | cons p t ih =>
      obtain ⟨first, n⟩ := p
      rw [count] at ih ⊢
      simp only [alter]
      cases compare label first with
      | lt => simp only [total_cons, Option.getD_none]; omega
      | eq => simp only [total_cons, Option.getD_some]; omega
      | gt => simp only [total_cons, ih]; omega

/-! ### Counting all labels -/

/-- The sum of the counts is the number of labels. -/
theorem total_ofLabels (ls : List String) : (ofLabels ls).total = ls.length := by
  -- the tally is an accumulator, so the induction is on a count that has already begun
  have from_ : ∀ t : Tally, (ls.foldl count t).total = t.total + ls.length := by
    induction ls with
    | nil => exact fun _ => rfl
    | cons label ls ih =>
        intro t
        rw [List.foldl_cons, ih, total_count, List.length_cons]
        omega
  rw [ofLabels, from_, total_nil, Nat.zero_add]

/-- No count is larger than the sum. -/
theorem le_total {p : String × Nat} (mem : p ∈ t) : p.2 ≤ t.total := by
  induction t with
  | nil => cases mem
  | cons q t ih =>
      rw [total_cons]
      rcases List.mem_cons.mp mem with rfl | later
      · exact Nat.le_add_right ..
      · exact Nat.le_add_left_of_le (ih later)

/-- A tally of labels is sorted. -/
theorem sorted_ofLabels (ls : List String) : (ofLabels ls).Sorted := by
  have from_ : ∀ t : Tally, t.Sorted → (ls.foldl count t).Sorted := by
    induction ls with
    | nil => exact fun _ h => h
    | cons label ls ih => exact fun t h => ih (t.count label) h.alter
  exact from_ [] List.Pairwise.nil

/-- The labels of a tally are those that were counted. -/
theorem mem_labels_ofLabels {ls : List String} : label ∈ (ofLabels ls).labels ↔ label ∈ ls := by
  have from_ : ∀ t : Tally, label ∈ (ls.foldl count t).labels ↔ label ∈ t.labels ∨ label ∈ ls := by
    induction ls with
    | nil => simp
    | cons first ls ih =>
        intro t
        rw [List.foldl_cons, ih, count, mem_labels_alter, List.mem_cons, or_assoc, or_left_comm]
  rw [ofLabels, from_]
  exact or_iff_right List.not_mem_nil

theorem has_iff_mem : t.has label = true ↔ label ∈ t.labels := by
  rw [has, List.lookup_isSome_iff, labels, List.mem_map]
  constructor
  · rintro ⟨p, mem, same⟩
    exact ⟨p, mem, (eq_of_beq same).symm⟩
  · rintro ⟨p, mem, rfl⟩
    exact ⟨p, mem, beq_self_eq_true _⟩

/-- A sorted tally has the count of each of its pairs. -/
theorem Sorted.get (h : t.Sorted) {n : Nat} (mem : (label, n) ∈ t) : t.get label = n := by
  induction t with
  | nil => cases mem
  | cons p t ih =>
      obtain ⟨least, rest⟩ := List.pairwise_cons.mp h
      rcases List.mem_cons.mp mem with rfl | later
      · simp [Tally.get]
      · have order := least label (List.mem_map_of_mem later)
        have other : (label == p.1) = false := beq_false_of_ne (ne_of_compare_lt order).symm
        rw [Tally.get, List.lookup_cons, other]
        exact ih rest later

theorem get_cons (first : String) (n : Nat) (t : Tally) (label : String) :
    Tally.get ((first, n) :: t) label = if label = first then n else t.get label := by
  by_cases same : label = first
  · simp [Tally.get, same]
  · simp [Tally.get, List.lookup_cons, beq_false_of_ne same, same]

/-- A label that does not occur has no count. -/
theorem get_eq_zero (absent : label ∉ t.labels) : t.get label = 0 := by
  rw [get]
  cases found : t.lookup label with
  | none => rfl
  | some n =>
      have occurs : t.has label = true := by rw [has, found]; rfl
      exact absurd (has_iff_mem.mp occurs) absent

/-- Counting a label adds one to its count and leaves the others alone. -/
theorem Sorted.get_count (h : t.Sorted) (label other : String) :
    (t.count label).get other = t.get other + if other = label then 1 else 0 := by
  induction t with
  | nil =>
      rw [count, Tally.alter, get_cons]
      by_cases same : other = label <;> simp [same, Tally.get]
  | cons p t ih =>
      obtain ⟨first, n⟩ := p
      obtain ⟨least, rest⟩ := List.pairwise_cons.mp h
      have later := ih rest
      rw [count] at later ⊢
      simp only [Tally.alter]
      cases order : compare label first with
      | lt =>
          -- the label stands in front of all others, so it had no count
          have absent : label ∉ labels ((first, n) :: t) := by
            intro mem
            have behind : compare label label = .lt := by
              rcases List.mem_cons.mp mem with same | mem
              · rw [show first = label from same.symm] at order
                exact order
              · exact TransCmp.lt_trans order (least label mem)
            exact ne_of_compare_lt behind rfl
          rw [get_cons]
          by_cases same : other = label
          · simp [same, get_eq_zero absent]
          · simp [same]
      | eq =>
          obtain rfl := LawfulEqOrd.compare_eq_iff_eq.mp order
          simp only [get_cons]
          by_cases same : other = label <;> simp [same]
      | gt =>
          have ne : first ≠ label := ne_of_compare_lt (OrientedCmp.gt_iff_lt.mp order)
          simp only [get_cons, later]
          by_cases same : other = first <;> simp [same, ne]

/-- The count of a label is how often it was counted. -/
theorem get_ofLabels (ls : List String) (label : String) :
    (ofLabels ls).get label = ls.count label := by
  have from_ : ∀ t : Tally, t.Sorted →
      (ls.foldl count t).get label = t.get label + ls.count label := by
    induction ls with
    | nil => exact fun _ _ => rfl
    | cons first ls ih =>
        intro t sorted
        rw [List.foldl_cons, ih (t.count first) sorted.alter, sorted.get_count, List.count_cons]
        by_cases same : label = first
        · simp only [same, beq_self_eq_true, if_true]
          omega
        · simp [same, Ne.symm same]
  rw [ofLabels, from_ [] List.Pairwise.nil]
  exact Nat.zero_add _

/-- A label that has a count occurs with it. -/
theorem mem_of_get_pos (h : 0 < t.get label) : (label, t.get label) ∈ t := by
  induction t with
  | nil => cases h
  | cons p t ih =>
      obtain ⟨first, n⟩ := p
      rw [get_cons] at h ⊢
      split at h
      · rename_i same
        rw [if_pos same, same]
        exact List.mem_cons_self ..
      · rename_i other
        rw [if_neg other]
        exact List.mem_cons_of_mem _ (ih h)

/-- Only labels that occur are counted. -/
theorem pos_of_mem_ofLabels {ls : List String} {p : String × Nat} (mem : p ∈ ofLabels ls) :
    0 < p.2 := by
  have occurs : p.1 ∈ ls := mem_labels_ofLabels.mp (List.mem_map_of_mem mem)
  have times : (ofLabels ls).get p.1 = p.2 := (sorted_ofLabels ls).get mem
  rw [← times, get_ofLabels]
  exact List.count_pos_iff.mpr occurs

/-! ### Tallies with one sum

The counts of a tally add up to its sum, so whoever knows some of them, and that they make up the
whole sum, knows all. -/

/-- Of two sorted tallies one is a part of the other one if all its pairs are in that. -/
theorem Sorted.sublist {part : Tally} (hp : part.Sorted) (ht : t.Sorted)
    (mem : ∀ p ∈ part, p ∈ t) : part.Sublist t := by
  induction t generalizing part with
  | nil =>
      obtain rfl := List.eq_nil_iff_forall_not_mem.mpr fun p h => List.not_mem_nil (mem p h)
      exact .slnil
  | cons q t ih =>
      obtain ⟨least, rest⟩ := List.pairwise_cons.mp ht
      cases part with
      | nil => exact List.nil_sublist _
      | cons p part =>
          obtain ⟨first, later⟩ := List.pairwise_cons.mp hp
          -- what stands behind another pair has a larger label, so it is not that pair
          have differs {a b : String × Nat} (order : compare a.1 b.1 = .lt) : b ≠ a :=
            fun same => ne_of_compare_lt order (congrArg Prod.fst same.symm)
          rcases List.mem_cons.mp (mem p (List.mem_cons_self ..)) with rfl | behind
          · refine (ih later rest fun r h => ?_).cons_cons p
            exact (List.mem_cons.mp (mem r (List.mem_cons_of_mem _ h))).resolve_left
              (differs (first r.1 (List.mem_map_of_mem h)))
          · have order := least p.1 (List.mem_map_of_mem behind)
            refine (ih hp rest fun r h => ?_).cons q
            refine (List.mem_cons.mp (mem r h)).resolve_left (differs ?_)
            rcases List.mem_cons.mp h with rfl | h
            · exact order
            · exact TransCmp.lt_trans order (first r.1 (List.mem_map_of_mem h))

/-- A part of a tally without zeros has a smaller sum, or it is the tally. -/
theorem total_lt_or_eq {part : Tally} (positive : ∀ p ∈ t, 0 < p.2) (h : part.Sublist t) :
    part.total < t.total ∨ part = t := by
  induction h with
  | slnil => exact .inr rfl
  | cons q _ ih =>
      have some := positive q (List.mem_cons_self ..)
      rw [total_cons]
      rcases ih fun p mem => positive p (List.mem_cons_of_mem _ mem) with less | rfl
      · exact .inl (by omega)
      · exact .inl (by omega)
  | cons_cons q _ ih =>
      rw [total_cons, total_cons]
      rcases ih fun p mem => positive p (List.mem_cons_of_mem _ mem) with less | rfl
      · exact .inl (by omega)
      · exact .inr rfl

/-- Zeros add nothing to the sum. -/
theorem total_positive (t : Tally) : total (t.filter fun p => 0 < p.2) = t.total := by
  induction t with
  | nil => rfl
  | cons p t ih =>
      rw [List.filter_cons, total_cons]
      split
      · rw [total_cons, ih]
      · rename_i none
        rw [ih]
        have zero : p.2 = 0 := by simpa using none
        omega

/-- A tally without zeros that has the counts of another one, and the same sum, has no other
labels. -/
theorem Sorted.eq_positive {counts : Tally} (ht : t.Sorted) (hc : counts.Sorted)
    (positive : ∀ p ∈ t, 0 < p.2) (met : ∀ p ∈ counts, t.get p.1 = p.2)
    (sum : counts.total = t.total) : t = counts.filter fun p => 0 < p.2 := by
  have part : List.Sublist (counts.filter fun p => 0 < p.2) t := by
    refine Sorted.sublist ?_ ht fun p mem => ?_
    · exact List.Pairwise.sublist (List.Sublist.map _ List.filter_sublist) hc
    · obtain ⟨mem, counted⟩ := List.mem_filter.mp mem
      have counted : 0 < t.get p.1 := by simpa [met p mem] using counted
      have occurs := mem_of_get_pos counted
      rwa [met p mem] at occurs
  rcases total_lt_or_eq positive part with less | same
  · rw [total_positive, sum] at less
    exact absurd less (Nat.lt_irrefl _)
  · exact same.symm

/-! ### Reading pairs -/

/-- A label behind all others is set at the end. -/
theorem set_last (n : Nat) (behind : ∀ other ∈ t.labels, compare other label = .lt) :
    t.set label n = t ++ [(label, n)] := by
  induction t with
  | nil => rfl
  | cons p t ih =>
      obtain ⟨first, m⟩ := p
      have order : compare label first = .gt :=
        OrientedCmp.gt_of_lt (behind first (List.mem_cons_self ..))
      rw [set] at ih ⊢
      simp only [Tally.alter, order, List.cons_append]
      rw [ih fun other mem => behind other (List.mem_cons_of_mem _ mem)]

/-- A tally of pairs is sorted. -/
theorem sorted_ofPairs (pairs : List (String × Nat)) : (Tally.ofPairs pairs).Sorted := by
  have from_ : ∀ t : Tally, t.Sorted → Sorted (pairs.foldl (fun t p => t.set p.1 p.2) t) := by
    induction pairs with
    | nil => exact fun _ h => h
    | cons p pairs ih => exact fun t h => ih (t.set p.1 p.2) h.alter
  exact from_ [] List.Pairwise.nil

/-- A sorted tally is the tally of its pairs. -/
theorem Sorted.ofPairs (h : t.Sorted) : Tally.ofPairs t = t := by
  have from_ : ∀ rest done : Tally, Sorted (done ++ rest) →
      rest.foldl (fun t p => t.set p.1 p.2) done = done ++ rest := by
    intro rest
    induction rest with
    | nil => simp
    | cons p rest ih =>
        intro done sorted
        have behind : ∀ other ∈ labels done, compare other p.1 = .lt := by
          intro other mem
          rw [Sorted, labels, List.map_append, List.pairwise_append] at sorted
          exact sorted.2.2 other mem p.1 (by simp)
        rw [List.foldl_cons, set_last p.2 behind, ih _ (by simpa using sorted), List.append_assoc,
          List.singleton_append]
  exact from_ t [] h

end LabelForge.Tally

namespace LabelForge.OrderedSet

variable {label : String}

theorem mem_insert {s : String} {set : OrderedSet} :
    label ∈ insert s set ↔ label = s ∨ label ∈ set := by
  induction set with
  | nil => simp [insert]
  | cons other rest ih =>
      rw [insert]
      cases order : compare s other with
      | lt => simp
      | eq =>
          rw [Std.LawfulEqOrd.compare_eq_iff_eq.mp order]
          simp
      | gt => simp [ih, or_left_comm]

/-- An ordered set has the texts it was made of. -/
theorem mem_ofTexts {texts : List String} : label ∈ ofTexts texts ↔ label ∈ texts := by
  have from_ : ∀ set : OrderedSet,
      label ∈ texts.foldl (fun acc s => insert s acc) set ↔ label ∈ set ∨ label ∈ texts := by
    induction texts with
    | nil => simp
    | cons first texts ih =>
        intro set
        rw [List.foldl_cons, ih, mem_insert, List.mem_cons, or_assoc, or_left_comm]
  rw [ofTexts, from_]
  exact or_iff_right List.not_mem_nil

/-- A set with its texts in ascending order. -/
def Sorted (set : OrderedSet) : Prop :=
  set.Pairwise fun a b => compare a b = .lt

theorem Sorted.insert {set : OrderedSet} (h : set.Sorted) (s : String) : Sorted (insert s set) := by
  induction set with
  | nil => exact List.pairwise_singleton _ _
  | cons other rest ih =>
      obtain ⟨least, ordered⟩ := List.pairwise_cons.mp h
      rw [OrderedSet.insert]
      cases order : compare s other with
      | lt =>
          refine List.pairwise_cons.mpr ⟨fun text mem => ?_, h⟩
          rcases List.mem_cons.mp mem with rfl | later
          · exact order
          · exact Std.TransCmp.lt_trans order (least text later)
      | eq => exact h
      | gt =>
          refine List.pairwise_cons.mpr ⟨fun text mem => ?_, ih ordered⟩
          rcases mem_insert.mp mem with rfl | later
          · exact Std.OrientedCmp.gt_iff_lt.mp order
          · exact least text later

/-- An ordered set is sorted. -/
theorem sorted_ofTexts (texts : List String) : Sorted (ofTexts texts) := by
  have from_ : ∀ set : OrderedSet, set.Sorted →
      Sorted (texts.foldl (fun acc s => insert s acc) set) := by
    induction texts with
    | nil => exact fun _ h => h
    | cons first texts ih => exact fun set h => ih _ (h.insert first)
  exact from_ [] List.Pairwise.nil

/-- Sorted sets with the same texts are equal. -/
theorem Sorted.ext {a b : OrderedSet} (ha : a.Sorted) (hb : b.Sorted)
    (same : ∀ text, text ∈ a ↔ text ∈ b) : a = b := by
  have distinct {set : OrderedSet} (h : set.Sorted) : set.Nodup := h.imp ne_of_compare_lt
  refine ((List.perm_ext_iff_of_nodup (distinct ha) (distinct hb)).mpr same).eq_of_pairwise ?_ ha hb
  intro x y _ _ order back
  exact absurd rfl (ne_of_compare_lt (Std.TransCmp.lt_trans order back))

end LabelForge.OrderedSet
