import LabelForge.Proofs.Text.Trim
import LabelForge.Synthesis.Reply
import Mathlib.Data.List.Infix

/-!
# LabelForge.Proofs.Synthesis.Fence

**Taking fences off.** A program that is wrapped in a fence is found again, whatever its text is and
whatever the language tag (`stripChars_wrap`). A text without a fence in front of it is trimmed, but
it also loses a fence at its end, which then is no part of a pair (`stripFences_unfenced`).

Design points:

* What is taken off is one fence in front and one behind. A program that itself begins or ends with
  a fence keeps that one.
-/

namespace LabelForge.Reply

open Text

/-! ### Beginnings and endings -/

theorem dropStart?_append (start rest : List Char) :
    dropStart? start (start ++ rest) = some rest := by
  simp [dropStart?]

theorem dropStart?_eq_none {start cs : List Char} (other : ¬ start <+: cs) :
    dropStart? start cs = none := by
  simp [dropStart?, other]

theorem dropEnd?_append (ending front : List Char) :
    dropEnd? ending (front ++ ending) = some front := by
  rw [dropEnd?, List.reverse_append, dropStart?_append, Option.map_some, List.reverse_reverse]

theorem dropEnd?_eq_none {ending cs : List Char} (other : ¬ ending <:+ cs) :
    dropEnd? ending cs = none := by
  rw [dropEnd?, dropStart?_eq_none (by rwa [List.reverse_prefix]), Option.map_none]

theorem isBlank_of_mem_fence {c : Char} (mem : c ∈ fence) : isBlank c = false := by
  rw [List.eq_of_mem_replicate mem]
  decide

/-- A fence is not trimmed away. -/
theorem trimEndChars_fence (front : List Char) :
    trimEndChars (front ++ fence) = front ++ fence := by
  refine trimEndChars_eq_self ?_
  intro c mem
  rw [List.getLast?_append_of_ne_nil _ (by decide)] at mem
  exact isBlank_of_mem_fence (List.mem_of_getLast? mem)

theorem trimChars_fences (inner : List Char) :
    trimChars (fence ++ (inner ++ fence)) = fence ++ (inner ++ fence) := by
  refine trimChars_eq_self ?_ ?_
  · intro c mem
    rw [List.head?_append_of_ne_nil _ (by decide)] at mem
    exact isBlank_of_mem_fence (List.mem_of_head? mem)
  · intro c mem
    rw [← List.append_assoc, List.getLast?_append_of_ne_nil _ (by decide)] at mem
    exact isBlank_of_mem_fence (List.mem_of_getLast? mem)

/-! ### A program in a fence -/

/-- The end of a line. -/
inductive LineEnd where
  | feed
  | returnFeed
  deriving DecidableEq, Repr

/-- What stands in front of the line feed. -/
def LineEnd.gap : LineEnd → List Char
  | .feed => []
  | .returnFeed => ['\r']

def LineEnd.chars (e : LineEnd) : List Char :=
  e.gap ++ ['\n']

/-- What stands around a program in a fence. -/
structure Fencing where
  /-- The language tag, which may be empty. -/
  tag : List Char
  /-- The end of the line with the tag. -/
  opening : LineEnd
  /-- The end of the last line of the program. -/
  closing : LineEnd
  /-- What stands in front of the opening fence. -/
  before : List Char
  /-- What stands behind the closing fence. -/
  after : List Char
  isTag : ∀ c ∈ tag, isTagChar c = true
  before_blank : ∀ c ∈ before, isBlank c = true
  after_blank : ∀ c ∈ after, isBlank c = true

/-- A program in its fence, from the tag to the closing fence. -/
def Fencing.inner (f : Fencing) (program : List Char) : List Char :=
  f.tag ++ (f.opening.chars ++ (program ++ (f.closing.chars ++ fence)))

/-- A program in its fence. -/
def Fencing.wrap (f : Fencing) (program : List Char) : List Char :=
  f.before ++ (fence ++ f.inner program ++ f.after)

theorem LineEnd.gap_ne_feed (e : LineEnd) : ∀ c ∈ e.gap, c ≠ '\n' := by
  cases e <;> simp [gap]

theorem LineEnd.gap_blank (e : LineEnd) : ∀ c ∈ e.gap, isBlank c = true := by
  cases e <;> exact List.all_eq_true.1 (by decide)

theorem LineEnd.blank (e : LineEnd) : ∀ c ∈ e.chars, isBlank c = true := by
  cases e <;> exact List.all_eq_true.1 (by decide)

/-- A tag has no line feed. -/
theorem ne_feed_of_isTagChar {c : Char} (tag : isTagChar c = true) : c ≠ '\n' := by
  rintro rfl
  cases tag

/-- The tag goes with its line. -/
theorem dropTag_line {tag : List Char} (isTag : ∀ c ∈ tag, isTagChar c = true) (e : LineEnd)
    (body : List Char) : dropTag (tag ++ (e.chars ++ body)) = body := by
  have line : tag ++ (e.chars ++ body) = (tag ++ e.gap) ++ '\n' :: body := by
    simp [LineEnd.chars]
  have unbroken : ∀ c ∈ tag ++ e.gap, (c != '\n') = true := by
    intro c mem
    rw [bne_iff_ne]
    rcases List.mem_append.1 mem with mem | mem
    · exact ne_feed_of_isTagChar (isTag c mem)
    · exact e.gap_ne_feed c mem
  have front : (tag ++ (e.chars ++ body)).takeWhile (· != '\n') = tag ++ e.gap := by
    rw [line, List.takeWhile_append_of_pos unbroken]
    simp
  have behind : (tag ++ (e.chars ++ body)).dropWhile (· != '\n') = '\n' :: body := by
    rw [line, List.dropWhile_append_of_pos unbroken]
    simp
  have isTag' : (trimChars (tag ++ e.gap)).all isTagChar = true := by
    rw [trimChars_append_blank e.gap_blank, List.all_eq_true]
    intro c mem
    exact isTag c ((trimChars_sublist tag).mem mem)
  rw [dropTag, behind]
  simp only [front, isTag', if_true]

/-- A fence is taken off with its tag, and with the blanks around it. -/
theorem dropOpening_wrap (f : Fencing) (program : List Char) :
    dropOpening (trimChars (f.wrap program)) = program ++ (f.closing.chars ++ fence) := by
  have inner : fence ++ f.inner program =
      fence ++ ((f.tag ++ (f.opening.chars ++ (program ++ f.closing.chars))) ++ fence) := by
    simp [Fencing.inner]
  have trimmed : trimChars (f.wrap program) = fence ++ f.inner program := by
    rw [Fencing.wrap, trimChars_blank_append f.before_blank, trimChars_append_blank f.after_blank,
      inner, trimChars_fences]
  rw [trimmed, dropOpening, dropStart?_append]
  exact dropTag_line f.isTag f.opening _

/-- A program without blanks around it is what is found in its fence. -/
theorem stripChars_wrap (f : Fencing) {program : List Char}
    (trimmed : trimChars program = program) : stripChars (f.wrap program) = program := by
  rw [stripChars, dropOpening_wrap, ← List.append_assoc, dropClosing, trimEndChars_fence,
    dropEnd?_append]
  exact (trimChars_append_blank f.closing.blank program).trans trimmed

/-! ### A text without a fence in front -/

/-- Where no fence stands in front, only the other end matters. -/
theorem stripChars_eq {cs : List Char} (unfenced : ¬ fence <+: trimChars cs) :
    stripChars cs = trimChars (dropClosing (trimChars cs)) := by
  rw [stripChars, dropOpening, dropStart?_eq_none unfenced]

/-- A fence at the end is taken off. -/
theorem dropClosing_append {cs code : List Char} (closed : trimChars cs = code ++ fence) :
    dropClosing (trimChars cs) = code := by
  rw [dropClosing, closed, trimEndChars_fence, dropEnd?_append]

theorem dropClosing_open {cs : List Char} (closed : ¬ fence <:+ trimChars cs) :
    dropClosing (trimChars cs) = trimChars cs := by
  rw [dropClosing, trimEndChars_trimChars, dropEnd?_eq_none closed]

/-- A text that does not begin with a fence is trimmed exactly if it does not end with one either.
Otherwise it loses the fence at its end. -/
theorem stripFences_unfenced (s : String) (unfenced : ¬ fence <+: (trim s).toList) :
    (stripFences s = trim s ↔ ¬ fence <:+ (trim s).toList) ∧
      ∀ code, (trim s).toList = code ++ fence → stripFences s = trim (.ofList code) := by
  rw [trim, String.toList_ofList] at unfenced ⊢
  have loses : ∀ code, trimChars s.toList = code ++ fence →
      stripFences s = trim (.ofList code) := by
    intro code closed
    rw [stripFences, stripChars_eq unfenced, dropClosing_append closed, trim, String.toList_ofList]
  refine ⟨⟨?_, ?_⟩, loses⟩
  · rintro kept ⟨code, closed⟩
    -- what is left is shorter by a fence at least
    have same : trimChars code = trimChars s.toList := by
      rw [loses code closed.symm, trim, String.toList_ofList] at kept
      exact String.ofList_inj.1 kept
    have shorter : (trimChars code).length ≤ code.length := (trimChars_sublist code).length_le
    have longer : code.length + fence.length = (trimChars s.toList).length := by
      rw [← closed, List.length_append]
    rw [same] at shorter
    have some : fence.length = 3 := rfl
    omega
  · intro ending
    rw [stripFences, stripChars_eq unfenced, dropClosing_open ending, trimChars_trimChars]

/-- A program whose last line is a comment that ends with a fence. -/
def commented : String := "print(1)\n# \x60\x60\x60"

theorem stripFences_unfenced_commented :
    ¬ fence <+: (trim commented).toList ∧
      (stripFences commented = trim commented ↔ ¬ fence <:+ (trim commented).toList) ∧
      stripFences commented = trim "print(1)\n# " := by
  have unfenced : ¬ fence <+: (trim commented).toList := by decide
  obtain ⟨kept, loses⟩ := stripFences_unfenced commented unfenced
  exact ⟨unfenced, kept, loses "print(1)\n# ".toList (by decide)⟩

/-- The program does not begin with a fence, and it is not left as it is. -/
theorem cut_commented :
    ¬ fence <+: (trim commented).toList ∧ trim commented = commented ∧
      stripFences commented = "print(1)\n#" := by
  decide

end LabelForge.Reply
