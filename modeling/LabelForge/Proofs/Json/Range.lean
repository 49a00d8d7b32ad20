import LabelForge.Proofs.Json.Field
import LabelForge.Proofs.Number.Layout
import LabelForge.Proofs.Number.Rounding

/-!
# LabelForge.Proofs.Json.Range

**Which numbers a reader makes.** A number of a document becomes an integer of 64 bits, a double
that double precision has, or an overflow; nothing is ever read as an infinity or as no number at
all, however long its text is and wherever the document is broken off.

Design points:

* A double is reached from at most 64 bits of digits by a few divisions and one multiplication by
  powers of ten. A division by a power of ten stays within the range of doubles, and after the
  multiplication the range is checked.
-/

namespace LabelForge

open Number

namespace Number.Double

theorem largest_eq : Format.double.largest = (2 ^ 53 - 1) * 2 ^ 2045 := by
  simp only [Format.double]

theorem ofUnits_of_round {negative : Bool} {num den units : Nat}
    (rounded : Format.double.round num den = some units) :
    ofUnits negative num den = .finite negative units := by
  unfold ofUnits
  generalize Format.double.round num den = result at rounded
  rw [rounded]

/-- What is no more than the largest double is rounded to a double. -/
theorem exists_round {num den : Nat} (le : num ≤ Format.double.largest * den) :
    ∃ units, Format.double.round num den = some units :=
  Format.exists_round (by decide) largest_eq (by decide) (Nat.zero_le _) le

theorem representable_ofUnits_of_le (negative : Bool) {num den : Nat}
    (le : num ≤ Format.double.largest * den) : (ofUnits negative num den).Representable := by
  obtain ⟨units, rounded⟩ := exists_round le
  refine representable_ofUnits ?_
  rw [ofUnits_of_round rounded]
  rfl

theorem Representable.le_largest {negative : Bool} {units : Nat}
    (h : (finite negative units).Representable) : units ≤ Format.double.largest := by
  have rounded : Format.double.round units 1 = some units := h
  simp only [Format.round] at rounded
  obtain ⟨fits, same⟩ := (Option.ite_none_right_eq_some ..).mp rounded
  rwa [Option.some.inj same] at fits

theorem Representable.isFinite {x : Double} (h : x.Representable) : x.isFinite = true := by
  cases x with
  | finite negative units => rfl
  | _ => exact h.elim

theorem Representable.neg {x : Double} (h : x.Representable) : x.neg.Representable := by
  cases x with
  | finite negative units => exact h
  | _ => exact h.elim

theorem representable_zero (negative : Bool) : (finite negative 0).Representable := by
  have rounded := round_integer (Nat.zero_le _)
  rwa [Nat.zero_mul] at rounded

/-- A product that is not beyond the range is a double. -/
theorem Representable.mul {x : Double} (h : x.Representable) {units : Nat}
    (within : (x.mul (.finite false units)).isFinite = true) :
    (x.mul (.finite false units)).Representable := by
  cases x with
  | finite s m => exact representable_ofUnits within
  | _ => exact h.elim

/-- A quotient is within the range if the divisor is not less than one. -/
theorem Representable.div {x : Double} (h : x.Representable) {units : Nat} (large : one ≤ units) :
    (x.div (.finite false units)).Representable := by
  cases x with
  | finite s m =>
      have nonzero : (units == 0) = false := by
        have := one_pos
        exact beq_eq_false_iff_ne.mpr (by omega)
      simp only [Double.div, nonzero, Bool.false_eq_true, if_false]
      exact representable_ofUnits_of_le _ (Nat.mul_le_mul h.le_largest large)
  | _ => exact h.elim

/-- An integer of 64 bits is within the range. -/
theorem mul_one_le_largest_of_lt {n : Nat} (short : n ≤ 2 ^ 64) :
    n * one ≤ Format.double.largest * 1 := by
  have fits : 64 + 1074 ≤ 2045 := by decide
  rw [Nat.mul_one]
  simp only [one, Format.double]
  -- exponents of this size are not to be computed with
  generalize 1074 = s at fits ⊢
  generalize 2045 = e at fits ⊢
  exact Nat.le_trans (mul_two_pow_le short fits) (Nat.le_mul_of_pos_left _ (by decide))

theorem representable_ofNat {n : Nat} (short : n ≤ 2 ^ 64) : (ofNat n).Representable :=
  representable_ofUnits_of_le _ (mul_one_le_largest_of_lt short)

theorem representable_ofInt {i : Int} (short : i.natAbs ≤ 2 ^ 64) : (ofInt i).Representable :=
  representable_ofUnits_of_le _ (mul_one_le_largest_of_lt short)

/-- A power of ten that is multiplied or divided by is a double, and not less than one. -/
theorem ofDecimal_power {n : Nat} (small : n ≤ 308) :
    ∃ units, ofDecimal false 1 n = .finite false units ∧ one ≤ units := by
  have quotient : ofDecimal false 1 n = ofUnits false (10 ^ n * one) 1 := by
    have digits : (natDigits 1).length = 1 := by decide
    simp only [ofDecimal, digits, ofQuotient, Int.toNat_natCast, Nat.one_mul]
    rw [if_neg (by decide), if_neg (by omega), if_neg (by omega), if_pos (by omega)]
  have within : 10 ^ n * one ≤ Format.double.largest * 1 := by
    have highest : 10 ^ 308 * one ≤ Format.double.largest := by decide +kernel
    have mono (k : Nat) (le : n ≤ k) : 10 ^ n ≤ 10 ^ k := Nat.pow_le_pow_right (by decide) le
    rw [Nat.mul_one]
    exact Nat.le_trans (Nat.mul_le_mul_right one (mono 308 small)) highest
  obtain ⟨units, rounded⟩ := exists_round within
  refine ⟨units, quotient.trans (ofUnits_of_round rounded), ?_⟩
  -- one is on the grid and is not rounded, so nothing above it is rounded below it
  have least : one ≤ 10 ^ n * one := Nat.le_mul_of_pos_left _ (Nat.pow_pos (by decide))
  obtain ⟨lower, below, round⟩ := Format.round_mono (by decide) least rounded
  have whole := round_integer (m := 1) (by decide)
  rw [Nat.one_mul, round] at whole
  rwa [Option.some.inj whole] at below

end Number.Double

namespace Json

/-- An integer of 64 bits, a double that double precision has, or an overflow. -/
def Numeral.InRange : Numeral → Prop
  | .int i => i.natAbs ≤ 2 ^ 64
  | .real x => x.Representable
  | .overflow => True

/-! ### Numbers -/

theorem Gathered.value_whole {g : Gathered} (h : g.value ≤ maxInteger) (c : Char) :
    (g.whole c).value ≤ maxInteger := by
  simp only [Gathered.whole]
  split
  · exact h
  · rename_i fits
    simp only [Bool.or_eq_true, decide_eq_true_eq, not_or] at fits
    exact Nat.not_lt.mp fits.2

theorem Gathered.value_fraction {g : Gathered} (h : g.value ≤ maxInteger) (c : Char) :
    (g.fraction c).value ≤ maxInteger := by
  simp only [Gathered.fraction]
  split
  · exact h
  · rename_i fits
    simp only [Bool.or_eq_true, decide_eq_true_eq, not_or] at fits
    exact Nat.not_lt.mp fits.2

/-- As many digits are gathered as 64 bits hold. -/
theorem Gathered.value_foldl {step : Gathered → Char → Gathered}
    (keeps : ∀ {g : Gathered}, g.value ≤ maxInteger → ∀ c, (step g c).value ≤ maxInteger)
    (cs : List Char) {g : Gathered} (h : g.value ≤ maxInteger) :
    (cs.foldl step g).value ≤ maxInteger := by
  induction cs generalizing g with
  | nil => exact h
  | cons c cs ih => exact ih (keeps h c)

/-- Powers of ten keep a double within the range, or it overflows. -/
theorem scaled_inRange (fuel : Nat) {x : Double} (h : x.Representable) (e : Int) :
    (scaled fuel x e).InRange := by
  induction fuel generalizing x e with
  | zero => exact h
  | succ fuel ih =>
      rw [scaled]
      split
      · rename_i small
        obtain ⟨units, power, large⟩ := Double.ofDecimal_power small
        simp only [power]
        split
        · split
          · exact h.mul ‹_›
          · trivial
        · exact h.div large
      · split
        · exact h
        · split
          · trivial
          · obtain ⟨units, power, large⟩ := Double.ofDecimal_power (Nat.le_refl 308)
            have power : Double.ofDecimal false 1 308 = .finite false units := power
            rw [power]
            exact ih (h.div large) _

theorem Numeral.InRange.signed {n : Numeral} (h : n.InRange) (negative : Bool) :
    (n.signed negative).InRange := by
  cases n with
  | real x =>
      cases negative with
      | false => exact h
      | true => exact Double.Representable.neg h
  | _ => exact h

theorem realNumeral_inRange (negative : Bool) (whole fraction : List Char) (exponent : Int) :
    (realNumeral negative whole fraction exponent).InRange := by
  have front : (whole.foldl Gathered.whole ⟨0, 0, false⟩).value ≤ maxInteger :=
    Gathered.value_foldl Gathered.value_whole whole (Nat.zero_le _)
  have gathered := Gathered.value_foldl Gathered.value_fraction fraction
    (g := { whole.foldl Gathered.whole ⟨0, 0, false⟩ with full := false }) front
  refine Numeral.InRange.signed (scaled_inRange 4 (Double.representable_ofNat ?_) _) negative
  exact Nat.le_trans gathered (by decide)

theorem integerNumeral_inRange (negative : Bool) (whole : List Char) :
    (integerNumeral negative whole).InRange := by
  simp only [integerNumeral]
  split
  · exact realNumeral_inRange ..
  · rename_i fits
    have short : digitsValue whole ≤ 2 ^ 64 := Nat.le_trans (Nat.not_lt.mp fits) (by decide)
    split
    · exact short
    · split
      · exact (Double.representable_ofNat short).neg
      · show (-(digitsValue whole : Int)).natAbs ≤ 2 ^ 64
        rwa [Int.natAbs_neg, Int.natAbs_natCast]

theorem exponentNumeral_inRange (negative : Bool) (whole fraction : List Char) (down : Bool)
    (exponent : Nat) : (exponentNumeral negative whole fraction down exponent).InRange := by
  simp only [exponentNumeral]
  split
  · split
    · trivial
    · exact Double.representable_zero negative
  · exact realNumeral_inRange ..

/-! ### Documents -/

mutual

/-- Whether a property holds of all numbers of a document, wherever it is broken off. -/
def Numbers (p : Numeral → Prop) : Json → Prop
  | .number n => p n
  | .array items => items.Numbers p
  | .object members => members.Numbers p
  | _ => True

/-- Whether it holds of all numbers of the items. -/
def Items.Numbers (p : Numeral → Prop) : Items → Prop
  | .cons j rest => j.Numbers p ∧ rest.Numbers p
  | _ => True

/-- Whether it holds of all numbers of the members. -/
def Members.Numbers (p : Numeral → Prop) : Members → Prop
  | .cons _ j rest => j.Numbers p ∧ rest.Numbers p
  | _ => True

end

section Parts

variable {p : Numeral → Prop} {j v : Json} {name : String}

theorem Items.Numbers.mem {items : Items} (h : items.Numbers p) (mem : v ∈ items.toList) :
    v.Numbers p := by
  cases items with
  | cons j rest =>
      rcases List.mem_cons.mp mem with rfl | later
      · exact h.1
      · exact Items.Numbers.mem h.2 later
  | _ => cases mem

theorem Members.Numbers.mem {members : Members} (h : members.Numbers p)
    (mem : (name, v) ∈ members.toList) : v.Numbers p := by
  cases members with
  | cons key j rest =>
      cases key with
      | none => exact Members.Numbers.mem h.2 mem
      | some key =>
          rcases List.mem_cons.mp mem with same | later
          · rw [(Prod.mk.inj same).2]
            exact h.1
          · exact Members.Numbers.mem h.2 later
  | _ => cases mem

theorem Numbers.items (h : j.Numbers p) (mem : v ∈ j.items) : v.Numbers p := by
  cases j with
  | array items => exact Items.Numbers.mem h mem
  | _ => cases mem

/-- What holds of the numbers of a record holds of those of its fields. -/
theorem Numbers.field? {names : List String} (h : j.Numbers p)
    (found : j.field? names name = some v) : v.Numbers p := by
  cases j with
  | object members =>
      obtain ⟨before, after, split, -⟩ := List.lookup_eq_some_iff.mp found
      have mem : (name, v) ∈ members.toList := by rw [split]; simp
      exact Members.Numbers.mem h mem
  | array items =>
      obtain ⟨before, after, split, -⟩ := List.lookup_eq_some_iff.mp found
      have mem : (name, v) ∈ names.zip items.toList := by rw [split]; simp
      exact Items.Numbers.mem h (List.of_mem_zip mem).2
  | _ => cases found

end Parts

/-! ### The reader -/

theorem numbers_readWord {p : Numeral → Prop} {v : Json} (h : v.Numbers p) (word cs : List Char) :
    (readWord v word cs).1.Numbers p := by
  induction word generalizing cs with
  | nil => exact h
  | cons w ws ih =>
      cases cs with
      | nil => trivial
      | cons c rest =>
          rw [readWord]
          split
          · exact ih rest
          · trivial

theorem numbers_readExponent (negative : Bool) (whole fraction cs : List Char) :
    (readExponent negative whole fraction cs).1.Numbers Numeral.InRange := by
  unfold readExponent
  split
  simp only
  split
  · trivial
  · exact exponentNumeral_inRange ..

theorem numbers_readAfterWhole (negative : Bool) (whole cs : List Char) :
    (readAfterWhole negative whole cs).1.Numbers Numeral.InRange := by
  unfold readAfterWhole
  split
  · simp only
    split
    · trivial
    · split
      · exact numbers_readExponent ..
      · exact numbers_readExponent ..
      · exact realNumeral_inRange ..
  · exact numbers_readExponent ..
  · exact numbers_readExponent ..
  · exact integerNumeral_inRange ..

theorem numbers_readNumber (negative : Bool) (cs : List Char) :
    (readNumber negative cs).1.Numbers Numeral.InRange := by
  unfold readNumber
  simp only
  split
  · trivial
  · trivial
  · exact numbers_readAfterWhole ..

mutual

theorem numbers_readValue (fuel : Nat) (cs : List Char) :
    (readValue fuel cs).1.Numbers Numeral.InRange := by
  cases fuel with
  | zero => trivial
  | succ fuel =>
      rw [readValue]
      split
      · trivial
      · exact numbers_readWord (v := .null) trivial ..
      · exact numbers_readWord (v := .bool true) trivial ..
      · exact numbers_readWord (v := .bool false) trivial ..
      · exact numbers_readNumber ..
      · split <;> trivial
      · exact numbers_readItems fuel true _
      · exact numbers_readMembers fuel true _
      · split
        · exact numbers_readNumber ..
        · trivial

theorem numbers_readItems (fuel : Nat) (first : Bool) (cs : List Char) :
    (readItems fuel first cs).1.Numbers Numeral.InRange := by
  cases fuel with
  | zero => trivial
  | succ fuel =>
      rw [readItems]
      split
      · trivial
      · trivial
      · split
        · exact numbers_readItem fuel _
        · split
          · split
            · trivial
            · exact numbers_readItem fuel _
          · trivial

theorem numbers_readItem (fuel : Nat) (cs : List Char) :
    (readItem fuel cs).1.Numbers Numeral.InRange := by
  cases fuel with
  | zero => trivial
  | succ fuel =>
      have value := numbers_readValue fuel cs
      rw [readItem]
      split
      · rename_i read
        rw [read] at value
        exact ⟨value, trivial⟩
      · rename_i read
        rw [read] at value
        exact ⟨value, numbers_readItems fuel false _⟩

theorem numbers_readMembers (fuel : Nat) (first : Bool) (cs : List Char) :
    (readMembers fuel first cs).1.Numbers Numeral.InRange := by
  cases fuel with
  | zero => trivial
  | succ fuel =>
      rw [readMembers]
      split
      · trivial
      · trivial
      · split
        · exact numbers_readMember fuel _
        · split
          · exact numbers_readMember fuel _
          · trivial

theorem numbers_readMember (fuel : Nat) (cs : List Char) :
    (readMember fuel cs).1.Numbers Numeral.InRange := by
  cases fuel with
  | zero => trivial
  | succ fuel =>
      unfold readMember
      split
      · trivial
      · split
        · trivial
        · split
          · exact ⟨trivial, trivial⟩
          · rename_i rest _
            have value := numbers_readValue fuel rest
            split
            · rename_i read
              rw [read] at value
              exact ⟨value, trivial⟩
            · rename_i read
              rw [read] at value
              exact ⟨value, numbers_readMembers fuel false _⟩
          · exact ⟨trivial, trivial⟩
      · trivial

end

/-- **Numbers are in range.** In whatever is read of a text, complete or not, a number is an integer
of 64 bits, a double of double precision, or an overflow. -/
theorem numbers_read (text : String) : (Json.read text).value.Numbers Numeral.InRange := by
  have value := numbers_readValue (3 * text.toList.length + 4) text.toList
  rw [Json.read]
  split
  · rename_i read
    rwa [read] at value
  · rename_i read
    rwa [read] at value

end Json

end LabelForge
