import LabelForge.Proofs.Json.Scalar
import LabelForge.Proofs.Number.Layout

/-!
# LabelForge.Proofs.Json.Real

**Doubles in documents.** The reader goes over the text of a double up to its end, whatever stands
behind it, and what it makes of the text depends on the text alone. A double that is read back on
its own is therefore read back wherever it stands.

Design points:

* The reader rounds up to three times, so there are doubles that it reads as their neighbour.
  `Double.Rereads` says of a double that it is not one of these.
-/

namespace LabelForge

open Json Number

deriving instance DecidableEq for Json.Document

/-- A finite double that is read back from its text. -/
structure Number.Double.Rereads (x : Double) : Prop where
  finite : x.isFinite = true
  read : Json.read x.documentText = ⟨.number (.real x), false⟩

/-- What the reader makes of a text with the given parts. -/
def Number.Layout.numeral (negative : Bool) (l : Layout) : Numeral :=
  match l.exponent with
  | none => realNumeral negative l.whole l.fraction 0
  | some e => exponentNumeral negative l.whole l.fraction (e < 0) e.natAbs

namespace Json

theorem figures_natDigits (n : Nat) : Figures (natDigits n) :=
  ⟨Nat.toDigits_ne_nil, fun _ => isDigit_of_mem_natDigits⟩

theorem spellsExponent_layout (e : Int) :
    SpellsExponent (Layout.exponentChars (some e)) (e < 0) e.natAbs := by
  have figures := figures_natDigits e.natAbs
  rw [Layout.exponentChars]
  by_cases down : e < 0
  · have spelled := SpellsExponent.down (.inl rfl) figures
    rw [digitsValue_natDigits] at spelled
    simpa [down] using spelled
  · have spelled := SpellsExponent.up (.inl rfl) figures
    rw [digitsValue_natDigits] at spelled
    simpa [down] using spelled

/-- What stands behind the digits in front of the point, if the number is no integer. -/
theorem spellsTail_layout {l : Layout} (proper : l.Proper) (negative : Bool) :
    SpellsTail negative l.whole
      (Layout.fractionChars l.fraction ++ Layout.exponentChars l.exponent)
      (l.numeral negative) := by
  obtain ⟨whole, fraction, exponent⟩ := l
  have digits := proper.digits
  simp only [List.forall_mem_append] at digits
  cases fraction with
  | cons d ds =>
      have figures : Figures (d :: ds) := ⟨List.cons_ne_nil d ds, digits.2⟩
      cases exponent with
      | none =>
          show SpellsTail negative whole ('.' :: (d :: ds ++ [])) _
          rw [List.append_nil]
          exact .fraction figures
      | some e => exact .both figures (spellsExponent_layout e)
  | nil =>
      cases exponent with
      | none => simpa using proper.marked
      | some e => exact .exponent (spellsExponent_layout e)

/-- A decimal text that is no integer is a text of a number. -/
theorem spellsNumber_layout {l : Layout} (proper : l.Proper) (negative : Bool) :
    SpellsNumber (Double.signText negative l.chars) (l.numeral negative) := by
  have tail := spellsTail_layout proper negative
  have leading : Leading l.whole :=
    ⟨proper.whole, fun c mem => proper.digits c (List.mem_append_left _ mem)⟩
  cases negative with
  | true => exact .negative leading tail
  | false => exact .positive leading tail

/-- A double that is read back on its own is read back in every document. -/
theorem Numeral.Legible.real {x : Double} (h : x.Rereads) : (Numeral.real x).Legible := by
  cases x with
  | finite negative units =>
      have chars : (Numeral.real (.finite negative units)).chars =
          Double.signText negative (Double.unitsLayout units).chars :=
        Double.documentText_finite negative units
      have spelled := spellsNumber_layout (Double.unitsLayout_proper units) negative
      have alone : Json.read (Double.finite negative units).documentText =
          ⟨.number ((Double.unitsLayout units).numeral negative), false⟩ := by
        have ends : Ends [] := nofun
        rw [Json.read, Double.documentText_finite]
        have value := spelled.read (3 * (Double.signText negative
          (Double.unitsLayout units).chars).length + 3) ends
        rw [List.append_nil] at value
        simp only [value]
        rfl
      have numeral : (Double.unitsLayout units).numeral negative =
          .real (.finite negative units) := by
        have same := alone.symm.trans h.read
        simpa using same
      rw [Legible, chars, ← numeral]
      exact spelled
  | _ => cases h.finite

end Json

end LabelForge
