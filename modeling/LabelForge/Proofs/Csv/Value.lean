import LabelForge.Csv.Writer
import LabelForge.Proofs.Text.Digits

/-!
# LabelForge.Proofs.Csv.Value

**Printed values need no quotes.** Integers, numbers, truth values and dates are printed in digits,
letters, points and signs. So only texts are ever quoted.
-/

namespace LabelForge

open Number

namespace Csv

/-- No character of a text makes quotes necessary. -/
def Unquoted (cs : List Char) : Prop := ∀ c ∈ cs, needsQuotes c = false

instance (cs : List Char) : Decidable (Unquoted cs) :=
  decidable_of_iff (cs.all (fun c => !needsQuotes c) = true) (by simp [Unquoted])

namespace Unquoted

variable {a b : List Char} {c : Char}

theorem nil : Unquoted [] := fun _ mem => nomatch mem

theorem cons (h : needsQuotes c = false) (rest : Unquoted a) : Unquoted (c :: a) :=
  List.forall_mem_cons.2 ⟨h, rest⟩

theorem append (left : Unquoted a) (right : Unquoted b) : Unquoted (a ++ b) :=
  List.forall_mem_append.2 ⟨left, right⟩

theorem subset (h : Unquoted b) (sub : a ⊆ b) : Unquoted a := fun c mem => h c (sub mem)

theorem replicate (h : needsQuotes c = false) (n : Nat) : Unquoted (List.replicate n c) :=
  fun _ mem => List.eq_of_mem_replicate mem ▸ h

theorem digits (h : ∀ c ∈ a, c.isDigit = true) : Unquoted a := by
  intro c mem
  have digit := h c mem
  rw [needsQuotes]
  simp only [Bool.or_eq_false_iff, beq_eq_false_iff_ne]
  refine ⟨⟨⟨?_, ?_⟩, ?_⟩, ?_⟩ <;> (rintro rfl; simp at digit)

theorem natDigits (n : Nat) : Unquoted (natDigits n) :=
  digits fun _ => isDigit_of_mem_natDigits

theorem intText (i : Int) : Unquoted (intText i).toList := by
  rw [Number.intText, String.toList_ofList]
  split
  · exact .cons (by decide) (.natDigits _)
  · exact .natDigits _

end Unquoted

end Csv

open Csv (Unquoted)

/-! ### Numbers -/

namespace Number

namespace Digits

theorem unquoted_strip (n : Nat) : Unquoted (strip (natDigits n)) := by
  unfold strip
  split
  · exact .cons (by decide) .nil
  · refine (Unquoted.natDigits n).subset fun c mem => ?_
    rw [List.mem_reverse] at mem
    exact List.mem_reverse.1 ((List.dropWhile_sublist _).subset mem)

theorem unquoted_shortest (tie : Tie) (f : Format) (units : Nat) :
    Unquoted (shortest tie f units).digits := by
  unfold shortest
  split
  · rename_i found h
    obtain ⟨i, -, made⟩ := List.exists_of_findSome?_eq_some h
    rw [candidate] at made
    obtain ⟨d, -, rfl⟩ := Option.map_eq_some_iff.1 made
    exact unquoted_strip d
  · exact unquoted_strip _

theorem unquoted_positional {d : Digits} (h : Unquoted d.digits) : Unquoted d.positional := by
  have zeros (n : Nat) : Unquoted (List.replicate n '0') := .replicate (by decide) n
  unfold positional
  split
  · exact .append (.cons (by decide) (.cons (by decide) (zeros _))) h
  · dsimp only
    split
    · exact h.append (zeros _)
    · exact .append (h.subset (List.take_subset _ _))
        (.cons (by decide) (h.subset (List.drop_subset _ _)))

theorem unquoted_scientific {d : Digits} (h : Unquoted d.digits) (plusSign : Bool) :
    Unquoted (d.scientific plusSign) := by
  have sign : Unquoted (if (plusSign && decide (0 ≤ d.exponent)) = true then ['+'] else []) := by
    split
    · exact .cons (by decide) .nil
    · exact .nil
  unfold scientific
  refine .append (.append ?_ (.cons (by decide) sign)) (.intText d.exponent)
  split
  · decide
  · rename_i single
    exact single ▸ h
  · rename_i several
    rw [several] at h
    obtain ⟨first, others⟩ := List.forall_mem_cons.1 h
    exact .cons first (.cons (by decide) others)

end Digits

theorem NumberStyle.unquoted_layOut (style : NumberStyle) {d : Digits} (h : Unquoted d.digits) :
    Unquoted (style.layOut d) := by
  have positional := Digits.unquoted_positional h
  unfold layOut
  split
  · dsimp only
    split
    · exact positional
    · exact positional.append (.cons (by decide) (.cons (by decide) .nil))
  · exact Digits.unquoted_scientific h _

namespace Double

theorem unquoted_signText (negative : Bool) {body : List Char} (h : Unquoted body) :
    Unquoted (String.ofList (signText negative body)).toList := by
  rw [String.toList_ofList, signText]
  split
  · exact .cons (by decide) h
  · exact h

theorem unquoted_styledText (style : NumberStyle) (f : Format) (x : Double) :
    Unquoted (x.styledText style f).toList := by
  unfold styledText
  split
  · decide
  · exact unquoted_signText _ (by decide)
  · exact unquoted_signText _ (by decide)
  · exact unquoted_signText _ (style.unquoted_layOut (Digits.unquoted_shortest _ _ _))

theorem unquoted_plainTextIn (f : Format) (x : Double) : Unquoted (x.plainTextIn f).toList := by
  unfold plainTextIn
  split
  · decide
  · exact unquoted_signText _ (by decide)
  · exact unquoted_signText _ (by decide)
  · exact unquoted_signText _ (Digits.unquoted_positional (Digits.unquoted_shortest _ _ _))

/-- The text of a number in a table cell is a part of its positional text. -/
theorem unquoted_cellText (x : Double) : Unquoted x.cellText.toList := by
  have plain : Unquoted x.plainText.toList := unquoted_plainTextIn .double x
  rw [cellText, withoutTrailingZeros]
  split
  · rw [String.toList_ofList]
    refine plain.subset fun c mem => ?_
    rw [List.mem_reverse] at mem
    have kept := (List.dropWhile_sublist _).subset ((List.dropWhile_sublist _).subset mem)
    exact List.mem_reverse.1 kept
  · exact plain

end Double

end Number

/-! ### Dates -/

namespace Moment

theorem unquoted_zeroPadded (width n : Nat) : Unquoted (zeroPadded width n).toList := by
  rw [zeroPadded, String.toList_ofList]
  exact .append (.replicate (by decide) _) (.natDigits n)

theorem unquoted_yearText (year : Int) : Unquoted (yearText year).toList := by
  unfold yearText
  split
  · exact unquoted_zeroPadded _ _
  · rw [String.toList_append]
    refine .append ?_ (unquoted_zeroPadded _ _)
    split <;> decide

theorem unquoted_dateText (m : Moment) : Unquoted m.dateText.toList := by
  simp only [dateText, String.toList_append]
  have dash : Unquoted "-".toList := by decide
  exact ((((unquoted_yearText _).append dash).append (unquoted_zeroPadded _ _)).append dash).append
    (unquoted_zeroPadded _ _)

end Moment

end LabelForge
