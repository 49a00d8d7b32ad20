import LabelForge.Number.Decimal

/-!
# LabelForge.Proofs.Text.Digits

**The decimal digits of a number.** Their value is the number, the first of them is no needless
zero, and they end where a character of another kind begins.
-/

namespace LabelForge.Number

section Span

variable {α : Type} {p : α → Bool} {xs ys t u : List α}

/-- Characters of one kind end where one of another kind begins. -/
theorem span_append (all : ∀ x ∈ xs, p x = true) (stop : ∀ x ∈ t.head?, p x = false) :
    (xs ++ t).takeWhile p = xs ∧ (xs ++ t).dropWhile p = t := by
  rw [List.takeWhile_append_of_pos all, List.dropWhile_append_of_pos all]
  cases t with
  | nil => exact ⟨List.append_nil xs, rfl⟩
  | cons x t =>
      have other : ¬p x = true := by simp [stop x rfl]
      rw [List.takeWhile_cons_of_neg other, List.dropWhile_cons_of_neg other]
      exact ⟨List.append_nil xs, rfl⟩

theorem span_unique (all : ∀ x ∈ xs, p x = true) (all' : ∀ y ∈ ys, p y = true)
    (stop : ∀ x ∈ t.head?, p x = false) (stop' : ∀ y ∈ u.head?, p y = false)
    (same : xs ++ t = ys ++ u) : xs = ys ∧ t = u := by
  have first : xs = ys := by rw [← (span_append all stop).1, same, (span_append all' stop').1]
  exact ⟨first, List.append_cancel_left (first ▸ same)⟩

end Span

/-- The digits of a number have its value. -/
theorem digitsValue_natDigits (n : Nat) : digitsValue (natDigits n) = n := by
  have value : Nat.ofDigitChars 10 (Nat.toDigits 10 n) 0 = n := Nat.ofDigitChars_ten_toDigits
  simpa only [digitsValue, natDigits, Nat.ofDigitChars, Nat.mul_comm] using value

theorem isDigit_of_mem_natDigits {n : Nat} {c : Char} (h : c ∈ natDigits n) : c.isDigit = true :=
  Nat.isDigit_of_mem_toDigits (by decide) (by decide) h

/-- The digits of a positive number do not begin with a zero. -/
theorem natDigits_eq_cons (n : Nat) :
    n = 0 ∧ natDigits n = ['0'] ∨ ∃ c cs, natDigits n = c :: cs ∧ c ≠ '0' := by
  induction n using Nat.strongRecOn with
  | ind n ih =>
      by_cases small : n < 10
      · have nonzero : ∀ d < 10, d = 0 ∨ Nat.digitChar d ≠ '0' := by decide
        have single : natDigits n = [n.digitChar] := Nat.toDigits_of_lt_base small
        rcases nonzero n small with rfl | ne
        · exact .inl ⟨rfl, single⟩
        · exact .inr ⟨_, _, single, ne⟩
      · have split : natDigits n = natDigits (n / 10) ++ [Nat.digitChar (n % 10)] :=
          Nat.toDigits_of_base_le (by decide) (by omega)
        rcases ih (n / 10) (by omega) with ⟨zero, -⟩ | ⟨c, cs, cons, ne⟩
        · omega
        · exact .inr ⟨c, cs ++ [Nat.digitChar (n % 10)], by rw [split, cons]; rfl, ne⟩

theorem natDigits_injective {m n : Nat} (h : natDigits m = natDigits n) : m = n := by
  rw [← digitsValue_natDigits m, h, digitsValue_natDigits]

/-- A zero at the end is a factor of ten. -/
theorem digitsValue_append_zeros (ds : List Char) (k : Nat) :
    digitsValue (ds ++ List.replicate k '0') = digitsValue ds * 10 ^ k := by
  induction k with
  | zero => simp
  | succ k ih =>
      rw [List.replicate_succ', ← List.append_assoc, digitsValue, List.foldl_append]
      show digitsValue (ds ++ List.replicate k '0') * 10 + 0 = _
      rw [ih, Nat.pow_succ, Nat.mul_assoc, Nat.add_zero]

/-- Zeros at the beginning do not count. -/
theorem digitsValue_zeros_append (k : Nat) (ds : List Char) :
    digitsValue (List.replicate k '0' ++ ds) = digitsValue ds := by
  induction k with
  | zero => rfl
  | succ k ih => exact ih

end LabelForge.Number
