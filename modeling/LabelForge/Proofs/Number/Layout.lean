import LabelForge.Proofs.Number.Shortest

/-!
# LabelForge.Proofs.Number.Layout

**The text of a number determines it.** A `Layout` is a decimal text in its parts: the digits in
front of the point, those behind it, and the exponent. Every finite double is written in such a
layout, and its decimal rounds to the double; so no two doubles have the same text.

Design points:

* The parts are found again in the text, because each ends where a character of another kind
  begins (`span_unique`).
* Which of the layouts is chosen does not matter for the decimal: the three positional ones and
  the one with an exponent all denote what their digits denote (`Digits.layout_denotes`).
-/

namespace LabelForge.Number

/-- A decimal text in its parts. -/
structure Layout where
  /-- The digits in front of the point. -/
  whole : List Char
  /-- The digits behind the point; without any there is no point. -/
  fraction : List Char
  /-- The exponent, if one is written. -/
  exponent : Option Int

namespace Layout

/-- The point and the digits behind it. -/
def fractionChars : List Char → List Char
  | [] => []
  | ds => '.' :: ds

/-- The exponent with its sign. -/
def exponentChars : Option Int → List Char
  | none => []
  | some e => 'e' :: (if e < 0 then '-' else '+') :: natDigits e.natAbs

/-- The text of a layout. -/
def chars (l : Layout) : List Char :=
  l.whole ++ (fractionChars l.fraction ++ exponentChars l.exponent)

/-- A text that is a number and not an integer: no digit is missing, none is in front of which a
zero stands, and there is a point or an exponent. -/
structure Proper (l : Layout) : Prop where
  whole : l.whole = ['0'] ∨ ∃ c cs, l.whole = c :: cs ∧ c ≠ '0'
  digits : ∀ c ∈ l.whole ++ l.fraction, c.isDigit = true
  marked : l.fraction ≠ [] ∨ l.exponent ≠ none

/-- Whether the decimal of a layout rounds to a number. -/
def Denotes (l : Layout) (f : Format) (units : Nat) : Prop :=
  Digits.readsBack f units (digitsValue (l.whole ++ l.fraction))
    (l.exponent.getD 0 - l.fraction.length) = true

/-! ### The parts of a text -/

theorem fractionChars_cons {ds : List Char} (some : ds ≠ []) : fractionChars ds = '.' :: ds := by
  cases ds with
  | nil => exact absurd rfl some
  | cons d ds => rfl

/-- No digit begins what stands behind the digits in front of the point. -/
theorem tail_stops (fraction : List Char) (exponent : Option Int) :
    ∀ c ∈ (fractionChars fraction ++ exponentChars exponent).head?, c.isDigit = false := by
  cases fraction with
  | cons d ds =>
      rintro _ ⟨⟩
      rfl
  | nil =>
      cases exponent with
      | none => nofun
      | some e =>
          rintro _ ⟨⟩
          rfl

theorem exponent_stops (exponent : Option Int) :
    ∀ c ∈ (exponentChars exponent).head?, c.isDigit = false :=
  tail_stops [] exponent

theorem exponentChars_injective {e e' : Option Int} (h : exponentChars e = exponentChars e') :
    e = e' := by
  cases e with
  | none => cases e' <;> trivial
  | some e =>
      cases e' with
      | none => cases h
      | some e' =>
          simp only [exponentChars, List.cons.injEq, true_and] at h
          obtain ⟨sign, digits⟩ := h
          have size := natDigits_injective digits
          have negative : e < 0 ↔ e' < 0 := by
            by_cases down : e < 0 <;> by_cases down' : e' < 0 <;> simp [down, down'] at sign ⊢
          congr 1
          omega

/-- The parts of a text are found again in it. -/
theorem chars_injective {l l' : Layout} (proper : l.Proper) (proper' : l'.Proper)
    (same : l.chars = l'.chars) : l = l' := by
  obtain ⟨whole, fraction, exponent⟩ := l
  obtain ⟨whole', fraction', exponent'⟩ := l'
  have digits := proper.digits
  have digits' := proper'.digits
  simp only [List.forall_mem_append] at digits digits'
  obtain ⟨rfl, tails⟩ := span_unique digits.1 digits'.1 (tail_stops _ _) (tail_stops _ _) same
  obtain ⟨rfl, exponents⟩ :
      fraction = fraction' ∧ exponentChars exponent = exponentChars exponent' := by
    cases fraction with
    | nil =>
        cases fraction' with
        | nil => exact ⟨rfl, tails⟩
        | cons d ds => cases exponent <;> cases tails
    | cons d ds =>
        cases fraction' with
        | nil => cases exponent' <;> cases tails
        | cons d' ds' =>
            exact span_unique digits.2 digits'.2 (exponent_stops _) (exponent_stops _)
              (List.cons.inj tails).2
  rw [exponentChars_injective exponents]

/-- A text begins with a digit. -/
theorem Proper.begins {l : Layout} (h : l.Proper) :
    ∃ c cs, l.chars = c :: cs ∧ c.isDigit = true := by
  obtain ⟨c, cs, cons⟩ : ∃ c cs, l.whole = c :: cs := by
    rcases h.whole with zero | ⟨c, cs, cons, -⟩
    · exact ⟨_, _, zero⟩
    · exact ⟨c, cs, cons⟩
  refine ⟨c, _, by rw [chars, cons, List.cons_append], h.digits c ?_⟩
  rw [cons]
  exact List.mem_cons_self ..

theorem Proper.digit {l : Layout} (h : l.Proper) : ∀ c ∈ l.chars.head?, c.isDigit = true := by
  obtain ⟨c, cs, cons, digit⟩ := h.begins
  rw [cons]
  rintro _ ⟨⟩
  exact digit

end Layout

/-! ### The layout of a double -/

namespace Digits

/-- The parts of a positional text, with a zero behind the point of a whole number. -/
def pointLayout (d : Digits) : Layout :=
  if d.exponent < 0 then
    ⟨['0'], List.replicate ((-d.exponent).toNat - 1) '0' ++ d.digits, none⟩
  else if d.digits.length ≤ d.exponent.toNat + 1 then
    ⟨d.digits ++ List.replicate (d.exponent.toNat + 1 - d.digits.length) '0', ['0'], none⟩
  else ⟨d.digits.take (d.exponent.toNat + 1), d.digits.drop (d.exponent.toNat + 1), none⟩

/-- The parts of the text of some digits in a style. -/
def layout (style : NumberStyle) (d : Digits) : Layout :=
  if style.lowest ≤ d.exponent && d.exponent < style.highest then d.pointLayout
  else ⟨d.digits.take 1, d.digits.drop 1, some d.exponent⟩

variable {d : Digits}

theorem Proper.pointLayout (h : d.Proper) : d.pointLayout.Proper := by
  obtain ⟨c, cs, cons, significant⟩ := h.begins
  have zeros (k : Nat) : ∀ z ∈ List.replicate k '0', z.isDigit = true := fun z mem =>
    List.eq_of_mem_replicate mem ▸ rfl
  unfold Digits.pointLayout
  split
  · refine ⟨.inl rfl, ?_, .inl (by simp [cons])⟩
    simp only [List.forall_mem_append]
    exact ⟨zeros 1, zeros _, h.digits⟩
  split
  · refine ⟨.inr ⟨c, _, by rw [cons, List.cons_append], significant⟩, ?_, .inl nofun⟩
    simp only [List.forall_mem_append]
    exact ⟨⟨h.digits, zeros _⟩, zeros 1⟩
  · rename_i long
    refine ⟨.inr ⟨c, _, by rw [cons, List.take_succ_cons], significant⟩, ?_, .inl ?_⟩
    · rw [List.take_append_drop]
      exact h.digits
    · simpa using long

theorem Proper.layout (style : NumberStyle) (h : d.Proper) : (d.layout style).Proper := by
  unfold Digits.layout
  split
  · exact h.pointLayout
  · obtain ⟨c, cs, cons, significant⟩ := h.begins
    have first : d.digits.take 1 = [c] := by rw [cons, List.take_succ_cons, List.take_zero]
    refine ⟨.inr ⟨c, [], first, significant⟩, ?_, .inr nofun⟩
    rw [List.take_append_drop]
    exact h.digits

/-- A positional text has its parts. -/
theorem Proper.pointChars (h : d.Proper) :
    (if d.positional.contains '.' then d.positional else d.positional ++ ['.', '0']) =
      d.pointLayout.chars := by
  have pointless : ∀ ds : List Char, (∀ c ∈ ds, c.isDigit = true) → ds.contains '.' = false := by
    intro ds digits
    rw [List.contains_eq_mem, decide_eq_false_iff_not]
    exact fun mem => Bool.false_ne_true (digits '.' mem)
  unfold Digits.positional Digits.pointLayout
  split
  · obtain ⟨c, cs, cons, -⟩ := h.begins
    rw [if_pos (by simp), Layout.chars, Layout.fractionChars_cons (by simp [cons])]
    simp [Layout.exponentChars]
  simp only
  split
  · have digits : ∀ c ∈ d.digits ++ List.replicate (d.exponent.toNat + 1 - d.digits.length) '0',
        c.isDigit = true := by
      simp only [List.forall_mem_append]
      exact ⟨h.digits, fun z mem => List.eq_of_mem_replicate mem ▸ rfl⟩
    rw [if_neg (by rw [pointless _ digits]; decide), Layout.chars]
    rfl
  · rename_i long
    rw [if_pos (by simp), Layout.chars, Layout.fractionChars_cons (by simpa using long)]
    simp [Layout.exponentChars]

/-- A text has its parts. -/
theorem Proper.layOut {style : NumberStyle} (plus : style.plusSign = true) (h : d.Proper) :
    style.layOut d = (d.layout style).chars := by
  unfold NumberStyle.layOut Digits.layout
  split
  · exact h.pointChars
  · obtain ⟨c, cs, cons, -⟩ := h.begins
    have exponent : 'e' :: (if style.plusSign && 0 ≤ d.exponent then ['+'] else []) ++
        (intText d.exponent).toList = Layout.exponentChars (some d.exponent) := by
      by_cases down : d.exponent < 0
      · simp [Layout.exponentChars, intText, down, Int.not_le.mpr down]
      · simp [Layout.exponentChars, intText, plus, down, Int.not_lt.mp down]
    simp only [scientific, Layout.chars, cons, List.append_assoc, exponent]
    cases cs <;> rfl

/-- Where the point stands makes no difference to the decimal. -/
theorem Proper.pointLayout_denotes (h : d.Proper) {f : Format} {units : Nat}
    (denotes : d.Denotes f units) : d.pointLayout.Denotes f units := by
  obtain ⟨c, cs, cons, -⟩ := h.begins
  have some : 0 < d.digits.length := by simp [cons]
  unfold Digits.pointLayout
  split
  · have value (k : Nat) : digitsValue (['0'] ++ (List.replicate k '0' ++ d.digits)) =
        digitsValue d.digits :=
      (digitsValue_zeros_append 1 _).trans (digitsValue_zeros_append k _)
    have exponent : (none : Option Int).getD 0 -
        (List.replicate ((-d.exponent).toNat - 1) '0' ++ d.digits).length =
          d.exponent - (d.digits.length - 1 : Int) := by
      simp only [Option.getD_none, List.length_append, List.length_replicate]
      omega
    rw [Layout.Denotes, value, exponent]
    exact denotes
  split
  · have value (k : Nat) : digitsValue (d.digits ++ List.replicate k '0' ++ ['0']) =
        digitsValue d.digits * 10 ^ (k + 1) := by
      rw [← digitsValue_append_zeros, List.append_assoc, ← List.replicate_succ']
    have exponent (k : Nat) (fill : d.digits.length + k = d.exponent.toNat + 1) :
        (none : Option Int).getD 0 - ['0'].length + (k + 1 : Nat) =
          d.exponent - (d.digits.length - 1 : Int) := by
      simp only [Option.getD_none, List.length_singleton]
      omega
    rw [Layout.Denotes, value, readsBack_shift, exponent _ (by omega)]
    exact denotes
  · have exponent : (none : Option Int).getD 0 - (d.digits.drop (d.exponent.toNat + 1)).length =
        d.exponent - (d.digits.length - 1 : Int) := by
      simp only [Option.getD_none, List.length_drop]
      omega
    rw [Layout.Denotes, List.take_append_drop, exponent]
    exact denotes

/-- A text denotes what its digits denote. -/
theorem Proper.layout_denotes (style : NumberStyle) (h : d.Proper) {f : Format} {units : Nat}
    (denotes : d.Denotes f units) : (d.layout style).Denotes f units := by
  unfold Digits.layout
  split
  · exact h.pointLayout_denotes denotes
  · obtain ⟨c, cs, cons, -⟩ := h.begins
    have exponent : (some d.exponent).getD 0 - (d.digits.drop 1).length =
        d.exponent - (d.digits.length - 1 : Int) := by
      simp [cons]
    rw [Layout.Denotes, List.take_append_drop, exponent]
    exact denotes

end Digits

/-! ### The text of a double -/

namespace Double

/-- The parts of the text of a magnitude in a document. -/
def unitsLayout (units : Nat) : Layout :=
  if units = 0 then ⟨['0'], ['0'], none⟩
  else (Digits.shortest .toEven .double units).layout .document

/-- Whether a double is finite and one that double precision has. -/
def Representable : Double → Prop
  | .finite _ units => Format.double.round units 1 = some units
  | _ => False

instance : DecidablePred Representable
  | .nan => .isFalse id
  | .infinite _ => .isFalse id
  | .finite _ units => inferInstanceAs (Decidable (Format.double.round units 1 = some units))

/-- Whatever is rounded to a finite double is one that double precision has. -/
theorem representable_ofUnits {negative : Bool} {num den : Nat}
    (finite : (ofUnits negative num den).isFinite = true) :
    (ofUnits negative num den).Representable := by
  unfold ofUnits at finite ⊢
  cases rounded : Format.double.round num den with
  | some units => exact Format.round_round (by decide) rounded
  | none =>
      rw [rounded] at finite
      cases finite

theorem unitsLayout_proper (units : Nat) : (unitsLayout units).Proper := by
  unfold unitsLayout
  split
  · refine ⟨.inl rfl, ?_, .inl nofun⟩
    simp only [List.forall_mem_append, List.forall_mem_singleton]
    exact ⟨rfl, rfl⟩
  · rename_i nonzero
    exact (Digits.shortest_proper _ _ (Nat.pos_of_ne_zero nonzero)).layout _

/-- A finite double is written in its layout, behind its sign. -/
theorem documentText_finite (negative : Bool) (units : Nat) :
    (Double.finite negative units).documentText.toList =
      signText negative (unitsLayout units).chars := by
  unfold documentText styledText unitsLayout
  cases units with
  | zero => cases negative <;> rfl
  | succ units =>
      have proper := Digits.shortest_proper .toEven .double (Nat.succ_pos units)
      rw [if_neg (Nat.succ_ne_zero units), ← proper.layOut rfl]
      exact String.toList_ofList

/-- The text of a double denotes it. -/
theorem unitsLayout_denotes {units : Nat} (fits : Format.double.round units 1 = some units) :
    (unitsLayout units).Denotes .double units := by
  unfold unitsLayout
  split
  · rename_i zero
    have value : digitsValue (['0'] ++ ['0']) = 0 := rfl
    rw [zero, Layout.Denotes, value]
    exact (Digits.readsBack_zero _ _ _).mpr rfl
  · rename_i nonzero
    have pos := Nat.pos_of_ne_zero nonzero
    exact (Digits.shortest_proper _ _ pos).layout_denotes _ (Digits.shortest_denotes _ pos fits)

theorem unitsLayout_injective {m n : Nat} (fits : Format.double.round m 1 = some m)
    (fits' : Format.double.round n 1 = some n) (same : unitsLayout m = unitsLayout n) : m = n := by
  have left := unitsLayout_denotes fits
  have right := unitsLayout_denotes fits'
  rw [← same] at right
  simp only [Layout.Denotes, Digits.readsBack, beq_iff_eq] at left right
  exact Option.some.inj (left.symm.trans right)

/-- No digit is taken for a sign. -/
theorem signText_injective {s t : Bool} {body body' : List Char}
    (left : ∀ c ∈ body.head?, c.isDigit = true) (right : ∀ c ∈ body'.head?, c.isDigit = true)
    (same : signText s body = signText t body') : s = t ∧ body = body' := by
  cases s <;> cases t
  · exact ⟨rfl, same⟩
  · rw [signText, signText] at same
    rw [if_neg Bool.false_ne_true] at same
    exact absurd (left '-' (by rw [same]; rfl)) (by decide)
  · rw [signText, signText] at same
    rw [if_neg Bool.false_ne_true] at same
    exact absurd (right '-' (by rw [← same]; rfl)) (by decide)
  · exact ⟨rfl, (List.cons.inj same).2⟩

/-- Doubles that differ have different texts in documents. -/
theorem documentText_injective {x y : Double} (fits : x.Representable) (fits' : y.Representable)
    (same : x.documentText = y.documentText) : x = y := by
  cases x with
  | finite s m =>
      cases y with
      | finite t n =>
          have chars := congrArg String.toList same
          rw [documentText_finite, documentText_finite] at chars
          have proper := unitsLayout_proper
          obtain ⟨rfl, bodies⟩ := signText_injective (proper m).digit (proper n).digit chars
          have layouts := Layout.chars_injective (proper m) (proper n) bodies
          rw [unitsLayout_injective fits fits' layouts]
      | _ => exact fits'.elim
  | _ => exact fits.elim

end Double

end LabelForge.Number
