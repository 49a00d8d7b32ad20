import LabelForge.Proofs.Text.Digits

/-!
# LabelForge.Proofs.Number.Shortest

**The shortest digits of a number round to it.** Whichever way the search for the shortest digits
ends, with a decimal that was tried or with all digits of the exact value, the decimal that it
yields rounds to the number it was asked for.

Design points:

* A decimal is a fraction with one of two denominators, depending on the sign of its exponent.
  `Format.round_congr` lets equal fractions stand for each other; `readsBack_shift` is what the
  other modules use of it: zeros at the end of the digits count like the exponent.
* Nothing is asked of the number but that the format has it.
-/

namespace LabelForge.Number

/-! ### Rounding -/

theorem nearestEven_mul {c : Nat} (pos : 0 < c) (num den : Nat) :
    nearestEven (c * num) (c * den) = nearestEven num den := by
  have less : 2 * (c * (num % den)) < c * den ↔ 2 * (num % den) < den := by
    rw [Nat.mul_left_comm]
    exact Nat.mul_lt_mul_left pos
  have half : 2 * (c * (num % den)) = c * den ↔ 2 * (num % den) = den := by
    rw [Nat.mul_left_comm]
    exact Nat.mul_right_inj (Nat.ne_of_gt pos)
  simp only [nearestEven, Nat.mul_div_mul_left _ _ pos, Nat.mul_mod_mul_left, less, beq_iff_eq,
    half]

theorem Format.round_mul (f : Format) {c : Nat} (pos : 0 < c) (num den : Nat) :
    f.round (c * num) (c * den) = f.round num den := by
  simp only [Format.round, Nat.mul_div_mul_left _ _ pos, Nat.mul_assoc, nearestEven_mul pos]

/-- Equal fractions are rounded to the same magnitude. -/
theorem Format.round_congr (f : Format) {num den num' den' : Nat} (pos : 0 < den) (pos' : 0 < den')
    (same : num * den' = num' * den) : f.round num den = f.round num' den' :=
  calc f.round num den = f.round (den' * num) (den' * den) := (f.round_mul pos' num den).symm
    _ = f.round (den * num') (den * den') := by
      rw [Nat.mul_comm den' num, same, Nat.mul_comm num', Nat.mul_comm den']
    _ = f.round num' den' := f.round_mul pos num' den'

theorem nearestEven_zero (den : Nat) : nearestEven 0 den = 0 := by
  rcases Nat.eq_zero_or_pos den with rfl | pos
  · rfl
  · simp [nearestEven, pos]

theorem Format.round_zero (f : Format) (den : Nat) : f.round 0 den = some 0 := by
  simp [Format.round, nearestEven_zero]

/-! ### Rounding twice -/

theorem nearestEven_le (num den : Nat) : nearestEven num den ≤ num / den + 1 := by
  unfold nearestEven
  simp only
  split
  · omega
  split
  · have parity := Nat.mod_lt (num / den) Nat.two_pos
    omega
  · exact Nat.le_refl _

theorem nearestEven_mul_self {c : Nat} (pos : 0 < c) (n : Nat) : nearestEven (c * n) c = n := by
  have zero : 2 * 0 < c := by omega
  simp only [nearestEven, Nat.mul_div_cancel_left n pos, Nat.mul_mod_right, if_pos zero]

/-- A magnitude on the grid that it is rounded on stays as it is. -/
theorem Format.round_of_dvd {f : Format} {units : Nat} (fits : units ≤ f.largest)
    (grid : 2 ^ max f.grid (units.log2 + 1 - f.precision) ∣ units) :
    f.round units 1 = some units := by
  obtain ⟨n, split⟩ := grid
  have whole := nearestEven_mul_self (Nat.two_pow_pos (max f.grid (units.log2 + 1 - f.precision))) n
  rw [← split] at whole
  have back : n * 2 ^ max f.grid (units.log2 + 1 - f.precision) = units := by
    rw [Nat.mul_comm, ← split]
  simp only [Format.round, Nat.div_one, Nat.one_mul, whole, back, if_pos fits]

/-- What a number was rounded to is not rounded any more. -/
theorem Format.round_round {f : Format} (precise : 0 < f.precision) {num den units : Nat}
    (h : f.round num den = some units) : f.round units 1 = some units := by
  obtain ⟨p, grid, largest⟩ := f
  simp only [Format.round] at h
  generalize finest : max grid ((num / den).log2 + 1 - p) = k at h
  generalize nearest : nearestEven num (den * 2 ^ k) = n at h
  obtain ⟨fits, same⟩ := (Option.ite_none_right_eq_some ..).mp h
  obtain rfl := Option.some.inj same
  have short : n ≤ 2 ^ p := by
    have whole : num / den < 2 ^ k * 2 ^ p := by
      rw [← Nat.pow_add]
      exact Nat.lt_of_lt_of_le Nat.lt_log2_self (Nat.pow_le_pow_right Nat.two_pos (by omega))
    have below := Nat.div_lt_of_lt_mul whole
    have above := nearestEven_le num (den * 2 ^ k)
    rw [nearest, ← Nat.div_div_eq_div_mul] at above
    omega
  refine Format.round_of_dvd fits ?_
  show 2 ^ max grid ((n * 2 ^ k).log2 + 1 - p) ∣ n * 2 ^ k
  rcases Nat.lt_or_eq_of_le short with fewer | rfl
  · -- no more bits than the format has: the grid is no coarser than before
    rcases Nat.eq_zero_or_pos n with rfl | pos
    · rw [Nat.zero_mul]
      exact Nat.dvd_zero _
    · have size : (n * 2 ^ k).log2 < p + k := by
        rw [Nat.log2_lt (Nat.ne_of_gt (Nat.mul_pos pos (Nat.two_pow_pos k))), Nat.pow_add]
        exact Nat.mul_lt_mul_of_pos_right fewer (Nat.two_pow_pos k)
      exact Nat.dvd_mul_left_of_dvd (Nat.pow_dvd_pow 2 (by omega)) n
  · -- one bit more, but all of them are zeros behind the first
    rw [← Nat.pow_add, Nat.log2_two_pow]
    exact Nat.pow_dvd_pow 2 (by simp only at precise; omega)

/-! ### Decimals -/

namespace Digits

theorem scale_den_pos (num : Nat) (e : Int) : 0 < (scale num 1 e).2 := by
  unfold scale
  split
  · exact Nat.one_pos
  · exact Nat.mul_pos Nat.one_pos (Nat.pow_pos (by decide))

/-- A power of ten may move from the number into the exponent. -/
theorem scale_shift (num k : Nat) (e : Int) :
    (scale (num * 10 ^ k) 1 e).1 * (scale num 1 (e + k)).2 =
      (scale num 1 (e + k)).1 * (scale (num * 10 ^ k) 1 e).2 := by
  by_cases up : e ≥ 0
  · have sum : (e + k).toNat = k + e.toNat := by omega
    simp only [scale, if_pos up, if_pos (by omega : e + k ≥ 0), sum, Nat.pow_add, Nat.mul_assoc]
  · by_cases cross : e + k ≥ 0
    · have sum : k = (e + k).toNat + (-e).toNat := by omega
      simp only [scale, if_neg up, if_pos cross, Nat.mul_one, Nat.one_mul, Nat.mul_assoc,
        ← Nat.pow_add, ← sum]
    · have sum : (-e).toNat = k + (-(e + k)).toNat := by omega
      simp only [scale, if_neg up, if_neg cross, Nat.one_mul, sum, Nat.pow_add, Nat.mul_assoc]

/-- Zeros at the end of the digits count like the exponent. -/
theorem readsBack_shift (f : Format) (units digits k : Nat) (e : Int) :
    readsBack f units (digits * 10 ^ k) e = readsBack f units digits (e + k) := by
  have move : digits * 10 ^ k * Double.one = digits * Double.one * 10 ^ k := Nat.mul_right_comm ..
  have round := f.round_congr (scale_den_pos (digits * Double.one * 10 ^ k) e)
    (scale_den_pos (digits * Double.one) (e + k)) (scale_shift (digits * Double.one) k e)
  simp only [readsBack, move, round]

/-- Zero is read back as zero only. -/
theorem readsBack_zero (f : Format) (units : Nat) (e : Int) :
    readsBack f units 0 e = true ↔ units = 0 := by
  have nothing : (scale (0 * Double.one) 1 e).1 = 0 := by
    unfold scale
    split <;> simp
  rw [readsBack, beq_iff_eq, nothing, f.round_zero, Option.some.injEq]
  exact eq_comm

theorem digits_pos_of_readsBack {f : Format} {units digits : Nat} {e : Int} (pos : 0 < units)
    (h : readsBack f units digits e = true) : 0 < digits := by
  rcases Nat.eq_zero_or_pos digits with rfl | found
  · exact absurd ((readsBack_zero f units e).mp h) (Nat.ne_of_gt pos)
  · exact found

/-! ### Digits -/

/-- Digits that begin with a significant one. -/
structure Proper (d : Digits) : Prop where
  begins : ∃ c cs, d.digits = c :: cs ∧ c ≠ '0'
  digits : ∀ c ∈ d.digits, c.isDigit = true

/-- Whether the decimal of some digits rounds to a number. -/
def Denotes (d : Digits) (f : Format) (units : Nat) : Prop :=
  readsBack f units (digitsValue d.digits) (d.exponent - (d.digits.length - 1 : Int)) = true

/-- Only zeros at the end are dropped. -/
theorem strip_cons {c : Char} (significant : c ≠ '0') (cs : List Char) :
    ∃ kept k, strip (c :: cs) = c :: kept ∧ cs = kept ++ List.replicate k '0' := by
  have parts : ((c :: cs).reverse.dropWhile (· == '0')).reverse ++
      ((c :: cs).reverse.takeWhile (· == '0')).reverse = c :: cs := by
    rw [← List.reverse_append, List.takeWhile_append_dropWhile, List.reverse_reverse]
  have zeros : ∀ z ∈ ((c :: cs).reverse.takeWhile (· == '0')).reverse, z = '0' := by
    intro z mem
    simpa using List.all_eq_true.mp List.all_takeWhile z (List.mem_reverse.mp mem)
  unfold strip
  split
  · rename_i none
    rw [none, List.nil_append] at parts
    rw [parts] at zeros
    exact absurd (zeros c (List.mem_cons_self ..)) significant
  · rename_i some
    obtain ⟨first, kept, cons⟩ := List.exists_cons_of_ne_nil some
    rw [cons, List.cons_append, List.eq_replicate_of_mem zeros] at parts
    obtain ⟨rfl, rest⟩ := List.cons.inj parts
    exact ⟨kept, _, cons, rest.symm⟩

section Stripped

variable {f : Format} {units n : Nat}

theorem proper_stripped (pos : 0 < n) (e : Int) : Proper ⟨strip (natDigits n), e⟩ := by
  rcases natDigits_eq_cons n with ⟨zero, -⟩ | ⟨c, cs, cons, significant⟩
  · omega
  · obtain ⟨kept, k, stripped, split⟩ := strip_cons significant cs
    have digits : ∀ d ∈ c :: cs, d.isDigit = true := fun d mem =>
      isDigit_of_mem_natDigits (cons ▸ mem)
    rw [cons, stripped]
    refine ⟨⟨c, kept, rfl, significant⟩, fun d mem => digits d ?_⟩
    rw [split, ← List.cons_append]
    exact List.mem_append_left _ mem

/-- The digits of a number without the zeros at their end are the same decimal. -/
theorem denotes_stripped {e : Int} (pos : 0 < n) (h : readsBack f units n e = true) :
    Denotes ⟨strip (natDigits n), ((natDigits n).length : Int) - 1 + e⟩ f units := by
  rcases natDigits_eq_cons n with ⟨zero, -⟩ | ⟨c, cs, cons, significant⟩
  · omega
  · obtain ⟨kept, k, stripped, split⟩ := strip_cons significant cs
    have value : n = digitsValue (c :: kept) * 10 ^ k := by
      rw [← digitsValue_append_zeros, List.cons_append, ← split, ← cons, digitsValue_natDigits]
    have exponent : ((c :: cs).length : Int) - 1 + e - ((c :: kept).length - 1 : Int) = e + k := by
      rw [split]
      simp only [List.length_cons, List.length_append, List.length_replicate]
      omega
    rw [value, readsBack_shift] at h
    simp only [Denotes, cons, stripped, exponent, h]

end Stripped

/-- A decimal that was tried with success is one. -/
theorem candidate_eq_some {tie : Tie} {f : Format} {units count : Nat} {d : Digits}
    (pos : 0 < units) (h : candidate tie f units count = some d) :
    d.Proper ∧ d.Denotes f units := by
  obtain ⟨n, found, rfl⟩ := Option.map_eq_some_iff.mp h
  have back := List.find?_some found
  have positive := digits_pos_of_readsBack pos back
  exact ⟨proper_stripped positive _, denotes_stripped positive back⟩

/-- A number of units is its exact decimal: `2^-k` is `5^k · 10^-k`. -/
theorem exact_eq (units : Nat) : ∃ k : Nat, Double.one = 2 ^ k ∧ exact units =
    ⟨strip (natDigits (units * 5 ^ k)), ((natDigits (units * 5 ^ k)).length : Int) - 1 + -k⟩ :=
  ⟨1074, Double.one.eq_1, rfl⟩

theorem exact_proper {units : Nat} (pos : 0 < units) : (exact units).Proper := by
  obtain ⟨k, -, all⟩ := exact_eq units
  rw [all]
  exact proper_stripped (Nat.mul_pos pos (Nat.pow_pos (by decide))) _

theorem exact_denotes {f : Format} {units : Nat} (pos : 0 < units)
    (fits : f.round units 1 = some units) : (exact units).Denotes f units := by
  obtain ⟨k, one, all⟩ := exact_eq units
  have tens : units * 5 ^ k * Double.one = units * 10 ^ k := by
    rw [one, Nat.mul_assoc, ← Nat.mul_pow]
  have whole : (scale (units * 10 ^ k) 1 (-k)).1 * 1 =
      units * (scale (units * 10 ^ k) 1 (-k)).2 := by
    have shift := scale_shift units k (-k)
    rw [Int.add_left_neg] at shift
    simpa [scale] using shift
  rw [all]
  refine denotes_stripped (Nat.mul_pos pos (Nat.pow_pos (by decide))) ?_
  rw [readsBack, beq_iff_eq, tens]
  exact (f.round_congr (scale_den_pos _ (-k)) Nat.one_pos whole).trans fits

theorem shortest_cases (tie : Tie) (f : Format) (units : Nat) :
    (∃ count, candidate tie f units count = some (shortest tie f units)) ∨
      shortest tie f units = exact units := by
  unfold shortest
  split
  · rename_i found
    obtain ⟨i, -, tried⟩ := List.exists_of_findSome?_eq_some found
    exact .inl ⟨i + 1, tried⟩
  · exact .inr rfl

theorem shortest_proper (tie : Tie) (f : Format) {units : Nat} (pos : 0 < units) :
    (shortest tie f units).Proper := by
  rcases shortest_cases tie f units with ⟨count, tried⟩ | all
  · exact (candidate_eq_some pos tried).1
  · exact all ▸ exact_proper pos

/-- The shortest digits of a number of the format round to it. -/
theorem shortest_denotes (tie : Tie) {f : Format} {units : Nat} (pos : 0 < units)
    (fits : f.round units 1 = some units) : (shortest tie f units).Denotes f units := by
  rcases shortest_cases tie f units with ⟨count, tried⟩ | all
  · exact (candidate_eq_some pos tried).2
  · exact all ▸ exact_denotes pos fits

end Digits

end LabelForge.Number
