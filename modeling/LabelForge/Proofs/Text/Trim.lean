import LabelForge.Text.Blank

/-!
# LabelForge.Proofs.Text.Trim

**Trimming.** Blanks around a text do not matter to trimming, and a text that begins and ends with
other characters is left as it is. So is every text that has been trimmed already.
-/

namespace LabelForge.Text

/-! ### Blanks at the ends -/

theorem trimEndChars_concat {c : Char} (blank : isBlank c = true) (cs : List Char) :
    trimEndChars (cs ++ [c]) = trimEndChars cs := by
  rw [trimEndChars, trimEndChars, List.reverse_concat, List.dropWhile_cons_of_pos blank]

/-- A blank at the end is trimmed away. -/
theorem trimChars_concat {c : Char} (blank : isBlank c = true) (cs : List Char) :
    trimChars (cs ++ [c]) = trimChars cs := by
  rw [trimChars, trimChars, trimStartChars, trimStartChars, List.dropWhile_append]
  split
  · rename_i empty
    rw [List.isEmpty_iff.1 empty, List.dropWhile_cons_of_pos blank, List.dropWhile_nil]
  · exact trimEndChars_concat blank _

theorem trimChars_sublist (cs : List Char) : (trimChars cs).Sublist cs := by
  have start : (trimStartChars cs).Sublist cs := List.dropWhile_sublist _
  have both : (trimChars cs).reverse.Sublist (trimStartChars cs).reverse := by
    rw [trimChars, trimEndChars, List.reverse_reverse]
    exact List.dropWhile_sublist _
  exact (List.reverse_sublist.1 both).trans start

/-- Blanks in front of a text do not matter. -/
theorem trimChars_blank_append {ws : List Char} (blank : ∀ c ∈ ws, isBlank c = true)
    (cs : List Char) : trimChars (ws ++ cs) = trimChars cs := by
  rw [trimChars, trimChars, trimStartChars, trimStartChars, List.dropWhile_append_of_pos blank]

/-- Nor do blanks behind it. -/
theorem trimChars_append_blank {ws : List Char} (blank : ∀ c ∈ ws, isBlank c = true)
    (cs : List Char) : trimChars (cs ++ ws) = trimChars cs := by
  induction ws generalizing cs with
  | nil => rw [List.append_nil]
  | cons c ws ih =>
      rw [List.append_cons, ih fun d mem => blank d (List.mem_cons_of_mem _ mem),
        trimChars_concat (blank c (List.mem_cons_self ..))]

/-! ### Trimmed texts -/

theorem trimStartChars_eq_self {cs : List Char} (first : ∀ c ∈ cs.head?, isBlank c = false) :
    trimStartChars cs = cs := by
  cases cs with
  | nil => rfl
  | cons c cs => exact List.dropWhile_cons_of_neg (by simp [first c rfl])

theorem trimEndChars_eq_self {cs : List Char} (last : ∀ c ∈ cs.getLast?, isBlank c = false) :
    trimEndChars cs = cs := by
  rw [← List.head?_reverse] at last
  have same : trimStartChars cs.reverse = cs.reverse := trimStartChars_eq_self last
  rw [trimStartChars] at same
  rw [trimEndChars, same, List.reverse_reverse]

theorem trimStartChars_head (cs : List Char) :
    ∀ c ∈ (trimStartChars cs).head?, isBlank c = false := by
  intro c mem
  have first := List.head?_dropWhile_not isBlank cs
  rw [Option.mem_def, trimStartChars] at mem
  rw [mem] at first
  simpa using first

theorem trimEndChars_getLast (cs : List Char) :
    ∀ c ∈ (trimEndChars cs).getLast?, isBlank c = false := by
  rw [trimEndChars, List.getLast?_reverse]
  exact trimStartChars_head _

theorem trimEndChars_prefix (cs : List Char) : trimEndChars cs <+: cs := by
  rw [← List.reverse_suffix, trimEndChars, List.reverse_reverse]
  exact List.dropWhile_suffix _

/-- What is trimmed begins and ends with characters that are no blanks. -/
theorem trimChars_ends (cs : List Char) :
    (∀ c ∈ (trimChars cs).head?, isBlank c = false) ∧
      ∀ c ∈ (trimChars cs).getLast?, isBlank c = false := by
  refine ⟨fun c mem => trimStartChars_head cs c ?_, trimEndChars_getLast _⟩
  obtain ⟨rest, whole⟩ := trimEndChars_prefix (trimStartChars cs)
  obtain ⟨tail, begins⟩ := List.head?_eq_some_iff.1 mem
  rw [Option.mem_def, ← whole]
  rw [trimChars] at begins
  rw [begins]
  rfl

/-- A text that begins and ends with other characters is left as it is. -/
theorem trimChars_eq_self {cs : List Char} (first : ∀ c ∈ cs.head?, isBlank c = false)
    (last : ∀ c ∈ cs.getLast?, isBlank c = false) : trimChars cs = cs := by
  rw [trimChars, trimStartChars_eq_self first, trimEndChars_eq_self last]

@[simp] theorem trimChars_trimChars (cs : List Char) : trimChars (trimChars cs) = trimChars cs :=
  trimChars_eq_self (trimChars_ends cs).1 (trimChars_ends cs).2

@[simp] theorem trimEndChars_trimChars (cs : List Char) :
    trimEndChars (trimChars cs) = trimChars cs :=
  trimEndChars_eq_self (trimChars_ends cs).2

/-! ### Blank texts -/

theorem trimStartChars_eq_nil_iff (cs : List Char) :
    trimStartChars cs = [] ↔ ∀ c ∈ cs, isBlank c = true := by
  constructor
  · intro nothing
    have whole : cs.takeWhile isBlank = cs := by
      have parts := List.takeWhile_append_dropWhile (p := isBlank) (l := cs)
      rwa [show cs.dropWhile isBlank = [] from nothing, List.append_nil] at parts
    exact List.all_eq_true.1 (whole ▸ List.all_takeWhile)
  · intro blank
    rw [trimStartChars, ← List.append_nil cs, List.dropWhile_append_of_pos blank]
    rfl

theorem trimEndChars_eq_nil_iff {cs : List Char} :
    trimEndChars cs = [] ↔ ∀ c ∈ cs, isBlank c = true := by
  rw [trimEndChars, List.reverse_eq_nil_iff]
  exact (trimStartChars_eq_nil_iff _).trans (forall_congr' fun c => by rw [List.mem_reverse])

/-- Trimming leaves nothing of blanks, and something of everything else. -/
theorem trimChars_eq_nil_iff {cs : List Char} :
    trimChars cs = [] ↔ ∀ c ∈ cs, isBlank c = true := by
  rw [trimChars, trimEndChars_eq_nil_iff, ← trimStartChars_eq_nil_iff cs]
  constructor
  · intro blank
    -- what is left begins with a character that is no blank, so nothing is left
    cases start : trimStartChars cs with
    | nil => rfl
    | cons c rest =>
        have first := trimStartChars_head cs c (by rw [start]; rfl)
        rw [blank c (by rw [start]; exact List.mem_cons_self)] at first
        cases first
  · intro nothing
    rw [nothing]
    nofun

/-- A text is blank exactly if trimming leaves nothing of it. -/
theorem isBlankText_iff {s : String} : isBlankText s = true ↔ trim s = "" := by
  rw [isBlankText, List.all_eq_true, ← trimChars_eq_nil_iff, trim, ← String.toList_inj,
    String.toList_ofList, String.toList_empty]

end LabelForge.Text
