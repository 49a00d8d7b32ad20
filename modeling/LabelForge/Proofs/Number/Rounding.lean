import LabelForge.Proofs.Number.Shortest

/-!
# LabelForge.Proofs.Number.Rounding

**Rounding keeps the order.** Of two numbers the smaller one is never rounded to the larger
magnitude. The doubles of two integers therefore compare like the integers, unless they are one
double; and that takes integers that need more bits than a double has.

Design points:

* Numbers of one binade are rounded on one grid, where the order is that of `nearestEven`. Between
  numbers of different binades lies a power of two, which is on the grids of both.
* Signs are dealt with by negation, so that the order is shown once, for positive numbers.
-/

namespace LabelForge.Number

/-! ### The order of magnitudes -/

theorem div_le_nearestEven (num den : Nat) : num / den ≤ nearestEven num den := by
  unfold nearestEven
  simp only
  split
  · exact Nat.le_refl _
  split
  · exact Nat.le_add_right ..
  · exact Nat.le_add_right ..

theorem nearestEven_mono {num num' den : Nat} (le : num ≤ num') :
    nearestEven num den ≤ nearestEven num' den := by
  rcases Nat.lt_or_eq_of_le (Nat.div_le_div_right (c := den) le) with less | same
  · calc nearestEven num den ≤ num / den + 1 := nearestEven_le num den
      _ ≤ num' / den := less
      _ ≤ nearestEven num' den := div_le_nearestEven num' den
  · -- the quotients agree, so the remainders are in the order of the numbers
    have remainders : num % den ≤ num' % den := by
      have whole := Nat.div_add_mod num den
      have whole' := Nat.div_add_mod num' den
      rw [← same] at whole'
      omega
    have parity := Nat.mod_lt (num / den) Nat.two_pos
    simp only [nearestEven, ← same, beq_iff_eq]
    grind

/-- What is no more than a whole number is not rounded above it. -/
theorem nearestEven_le_of_le {num den bound : Nat} (le : num ≤ bound * den) :
    nearestEven num den ≤ bound := by
  rcases Nat.eq_zero_or_pos den with rfl | pos
  · rw [Nat.mul_zero, Nat.le_zero] at le
    subst le
    exact Nat.zero_le _
  · have mono : nearestEven num den ≤ nearestEven (bound * den) den := nearestEven_mono le
    rwa [Nat.mul_comm, nearestEven_mul_self pos] at mono

namespace Format

/-- The exponent of the grid on which a number of units is rounded. -/
def exponent (f : Format) (num : Nat) : Nat :=
  max f.grid (num.log2 + 1 - f.precision)

/-- The magnitude that a whole number of units is rounded to, however large it is. -/
def magnitude (f : Format) (num : Nat) : Nat :=
  nearestEven num (2 ^ f.exponent num) * 2 ^ f.exponent num

variable {f : Format} {num num' : Nat}

theorem round_one (f : Format) (num : Nat) :
    f.round num 1 = if f.magnitude num ≤ f.largest then some (f.magnitude num) else none := by
  simp only [round, magnitude, exponent, Nat.div_one, Nat.one_mul]
  rfl

theorem log2_mono (le : num ≤ num') : num.log2 ≤ num'.log2 := by
  rcases Nat.eq_zero_or_pos num with rfl | pos
  · simp
  · rw [Nat.le_log2 (by omega)]
    exact Nat.le_trans (Nat.log2_self_le (by omega)) le

/-- A grid divides the numbers that are counted on a coarser one. -/
theorem nearestEven_two_pow {k n : Nat} (le : k ≤ n) :
    nearestEven (2 ^ n) (2 ^ k) * 2 ^ k = 2 ^ n := by
  have split : 2 ^ n = 2 ^ k * 2 ^ (n - k) := by rw [← Nat.pow_add, Nat.add_sub_cancel' le]
  rw [split, nearestEven_mul_self (Nat.two_pow_pos k), Nat.mul_comm]

/-- **Rounding is monotone.** -/
theorem magnitude_mono (precise : 0 < f.precision) (le : num ≤ num') :
    f.magnitude num ≤ f.magnitude num' := by
  have grids : f.exponent num ≤ f.exponent num' := by
    have logs := log2_mono le
    simp only [exponent]
    omega
  rcases Nat.lt_or_eq_of_le grids with finer | same
  · -- the power of two at which the binade of the larger number begins is on both grids
    have coarse : f.exponent num' ≤ num'.log2 := by
      simp only [exponent] at finer ⊢
      omega
    have below : num ≤ 2 ^ num'.log2 := by
      have less : num.log2 < num'.log2 := by
        simp only [exponent] at finer
        omega
      exact Nat.le_of_lt (Nat.lt_of_lt_of_le Nat.lt_log2_self
        (Nat.pow_le_pow_right Nat.two_pos less))
    have above : 2 ^ num'.log2 ≤ num' := by
      refine Nat.log2_self_le ?_
      rintro rfl
      rw [Nat.log2_zero] at coarse
      omega
    calc f.magnitude num
        ≤ nearestEven (2 ^ num'.log2) (2 ^ f.exponent num) * 2 ^ f.exponent num :=
          Nat.mul_le_mul_right _ (nearestEven_mono below)
      _ = 2 ^ num'.log2 := nearestEven_two_pow (Nat.le_trans grids coarse)
      _ = nearestEven (2 ^ num'.log2) (2 ^ f.exponent num') * 2 ^ f.exponent num' :=
          (nearestEven_two_pow coarse).symm
      _ ≤ f.magnitude num' := Nat.mul_le_mul_right _ (nearestEven_mono above)
  · rw [magnitude, magnitude, same]
    exact Nat.mul_le_mul_right _ (nearestEven_mono le)

/-- A smaller number is within the format if the larger one is, and is rounded no higher. -/
theorem round_mono (precise : 0 < f.precision) (le : num ≤ num') {units : Nat}
    (h : f.round num' 1 = some units) : ∃ lower ≤ units, f.round num 1 = some lower := by
  rw [round_one] at h
  obtain ⟨fits, same⟩ := (Option.ite_none_right_eq_some ..).mp h
  obtain rfl := Option.some.inj same
  have mono := magnitude_mono precise le
  exact ⟨f.magnitude num, mono, by rw [round_one, if_pos (Nat.le_trans mono fits)]⟩

/-- What is no more than the largest magnitude of a format is within the format. -/
theorem exists_round {m s den : Nat} (precise : 0 < f.precision)
    (largest : f.largest = m * 2 ^ s) (short : m < 2 ^ f.precision) (grid : f.grid ≤ s)
    (le : num ≤ f.largest * den) : ∃ units, f.round num den = some units := by
  have binade : (num / den).log2 + 1 - f.precision ≤ s := by
    have quotient : num / den ≤ f.largest := Nat.div_le_of_le_mul (Nat.mul_comm f.largest den ▸ le)
    have below : num / den < 2 ^ (f.precision + s) := by
      rw [largest] at quotient
      rw [Nat.pow_add]
      exact Nat.lt_of_le_of_lt quotient (Nat.mul_lt_mul_of_pos_right short (Nat.two_pow_pos s))
    rcases Nat.eq_zero_or_pos (num / den) with zero | pos
    · rw [zero, Nat.log2_zero]
      omega
    · have := (Nat.log2_lt (Nat.ne_of_gt pos)).mpr below
      omega
  have coarse : max f.grid ((num / den).log2 + 1 - f.precision) ≤ s :=
    Nat.max_le.mpr ⟨grid, binade⟩
  simp only [Format.round]
  generalize max f.grid ((num / den).log2 + 1 - f.precision) = k at coarse ⊢
  -- the largest magnitude is on the grid, so nothing is rounded beyond it
  have split : m * 2 ^ (s - k) * 2 ^ k = f.largest := by
    rw [largest, Nat.mul_assoc, ← Nat.pow_add, Nat.sub_add_cancel coarse]
  have nearest : nearestEven num (den * 2 ^ k) ≤ m * 2 ^ (s - k) := by
    refine nearestEven_le_of_le (Nat.le_trans le (Nat.le_of_eq ?_))
    rw [← split, Nat.mul_assoc, Nat.mul_comm (2 ^ k) den]
  have fits := Nat.mul_le_mul_right (2 ^ k) nearest
  rw [split] at fits
  exact ⟨_, if_pos fits⟩

/-! Numbers that are counted in a unit of the format: where the unit is a power of two, those of no
more bits than the format has are not rounded at all. -/

variable {unit m : Nat}

theorem round_multiple (precise : 0 < f.precision) {shift : Nat} (power : unit = 2 ^ shift)
    (grid : f.grid ≤ shift) (short : m ≤ 2 ^ f.precision) (fits : m * unit ≤ f.largest) :
    f.round (m * unit) 1 = some (m * unit) := by
  subst power
  refine Format.round_of_dvd fits ?_
  rcases Nat.lt_or_eq_of_le short with fewer | rfl
  · rcases Nat.eq_zero_or_pos m with rfl | pos
    · rw [Nat.zero_mul]
      exact Nat.dvd_zero _
    · have size : (m * 2 ^ shift).log2 < f.precision + shift := by
        rw [Nat.log2_lt (Nat.ne_of_gt (Nat.mul_pos pos (Nat.two_pow_pos _))), Nat.pow_add]
        exact Nat.mul_lt_mul_of_pos_right fewer (Nat.two_pow_pos _)
      exact Nat.dvd_mul_left_of_dvd (Nat.pow_dvd_pow 2 (by omega)) m
  · rw [← Nat.pow_add, Nat.log2_two_pow]
    exact Nat.pow_dvd_pow 2 (by omega)

/-- No number but zero is rounded to zero. -/
theorem round_multiple_pos (precise : 0 < f.precision) (unit_pos : 0 < unit)
    (unit_exact : f.round unit 1 = some unit) (pos : 0 < m) {units : Nat}
    (h : f.round (m * unit) 1 = some units) : 0 < units := by
  obtain ⟨lower, le, round⟩ := round_mono precise (Nat.le_mul_of_pos_left unit pos) h
  cases unit_exact.symm.trans round
  exact Nat.lt_of_lt_of_le unit_pos le

/-- Below the numbers that are too long, different numbers are rounded to different ones. -/
theorem round_multiple_inj (precise : 0 < f.precision) (unit_pos : 0 < unit) {limit : Nat}
    (exact_to : ∀ m ≤ limit, f.round (m * unit) 1 = some (m * unit)) (short : m < limit) {n : Nat}
    (same : f.round (n * unit) 1 = some (m * unit)) : n = m := by
  by_cases large : limit ≤ n
  · -- the larger number is not rounded below the limit, which stays where it is
    obtain ⟨lower, le, round⟩ := round_mono precise (Nat.mul_le_mul_right unit large) same
    cases (exact_to limit (Nat.le_refl _)).symm.trans round
    have bound := Nat.le_of_mul_le_mul_right le unit_pos
    omega
  · have stays := (exact_to n (by omega)).symm.trans same
    exact Nat.eq_of_mul_eq_mul_right unit_pos (Option.some.inj stays)

end Format

/-! ### The order of doubles -/

namespace Double

theorem cmp_self (d : Double) : d.cmp d = .eq := by
  cases d <;> simp [cmp]

theorem cmp_swap (d e : Double) : (d.cmp e).swap = e.cmp d := by
  cases d with
  | nan => cases e <;> rfl
  | infinite s =>
      cases e with
      | nan => rfl
      | infinite t => cases s <;> cases t <;> rfl
      | finite t n => cases s <;> rfl
  | finite s m =>
      cases e with
      | nan => rfl
      | infinite t => cases t <;> rfl
      | finite t n => exact Std.OrientedOrd.eq_swap.symm

/-- Of two magnitudes with one sign the one that was larger is not rounded to the smaller one. -/
theorem cmp_ofUnits {num num' : Nat} (le : num ≤ num') (s : Bool) :
    ofUnits s num 1 = ofUnits s num' 1 ∨
      (ofUnits s num 1).cmp (ofUnits s num' 1) = if s then .gt else .lt := by
  unfold ofUnits
  cases upper : Format.double.round num' 1 with
  | none =>
      cases Format.double.round num 1 with
      | none => exact .inl rfl
      | some lower => right; cases s <;> rfl
  | some units =>
      obtain ⟨lower, mono, round⟩ := Format.round_mono (by decide) le upper
      rw [round]
      rcases Nat.lt_or_eq_of_le mono with less | rfl
      · right
        cases s
        · exact Int.compare_eq_lt.2 (Int.ofNat_lt.2 less)
        · exact Int.compare_eq_gt.2 (Int.neg_lt_neg (Int.ofNat_lt.2 less))
      · exact .inl rfl

theorem one_pos : 0 < one := by
  simp only [one, Nat.two_pow_pos]

theorem mul_two_pow_le {m p s e : Nat} (short : m ≤ 2 ^ p) (fits : p + s ≤ e) :
    m * 2 ^ s ≤ 2 ^ e :=
  calc m * 2 ^ s ≤ 2 ^ p * 2 ^ s := Nat.mul_le_mul_right _ short
    _ = 2 ^ (p + s) := (Nat.pow_add 2 p s).symm
    _ ≤ 2 ^ e := Nat.pow_le_pow_right Nat.two_pos fits

theorem mul_one_le_largest {m : Nat} (short : m ≤ 2 ^ 53) : m * one ≤ Format.double.largest := by
  have fits : 53 + 1074 ≤ 2045 := by decide
  simp only [one, Format.double]
  -- exponents of this size are not to be computed with
  generalize 1074 = s at fits ⊢
  generalize 2045 = e at fits ⊢
  exact Nat.le_trans (mul_two_pow_le short fits) (Nat.le_mul_of_pos_left _ (by decide))

/-- An integer of at most 53 bits is a double, and so is the one after the last of them. -/
theorem round_integer {m : Nat} (short : m ≤ 2 ^ 53) :
    Format.double.round (m * one) 1 = some (m * one) :=
  Format.round_multiple (by decide) one.eq_1 (Nat.zero_le _) short (mul_one_le_largest short)

/-- No integer but zero is rounded to zero. -/
theorem units_pos {m units : Nat} (pos : 0 < m)
    (h : Format.double.round (m * one) 1 = some units) : 0 < units := by
  have exact := round_integer (m := 1) (by decide)
  rw [Nat.one_mul] at exact
  exact Format.round_multiple_pos (by decide) one_pos exact pos h

/-- A negative number is less than one that is not. -/
theorem cmp_ofUnits_of_negative {num : Nat}
    (pos : ∀ units, Format.double.round num 1 = some units → 0 < units) (num' : Nat) :
    (ofUnits true num 1).cmp (ofUnits false num' 1) = .lt := by
  unfold ofUnits
  cases lower : Format.double.round num 1 with
  | none => cases Format.double.round num' 1 <;> rfl
  | some units =>
      have positive := Int.natCast_pos.2 (pos units lower)
      cases Format.double.round num' 1 with
      | none => rfl
      | some units' =>
          exact Int.compare_eq_lt.2
            (Int.lt_of_lt_of_le (Int.neg_neg_of_pos positive) (Int.natCast_nonneg units'))

theorem ofInt_of_nonneg {i : Int} (h : 0 ≤ i) : ofInt i = ofUnits false (i.natAbs * one) 1 := by
  rw [ofInt, ofQuotient, decide_eq_false (by omega)]

theorem ofInt_of_neg {i : Int} (h : i < 0) : ofInt i = ofUnits true (i.natAbs * one) 1 := by
  rw [ofInt, ofQuotient, decide_eq_true h]

/-- Of two integers the smaller one has the smaller double, if they do not have the same. -/
theorem cmp_ofInt_of_lt {i j : Int} (less : i < j) :
    ofInt i = ofInt j ∨ (ofInt i).cmp (ofInt j) = .lt := by
  by_cases nonneg : 0 ≤ i
  · rw [ofInt_of_nonneg nonneg, ofInt_of_nonneg (i := j) (by omega)]
    have le : i.natAbs * one ≤ j.natAbs * one := Nat.mul_le_mul_right one (by omega)
    exact cmp_ofUnits le false
  rw [ofInt_of_neg (i := i) (by omega)]
  by_cases negative : j < 0
  · rw [ofInt_of_neg negative]
    have le : j.natAbs * one ≤ i.natAbs * one := Nat.mul_le_mul_right one (by omega)
    rcases cmp_ofUnits le true with same | greater
    · exact .inl same.symm
    · exact .inr (by rw [← cmp_swap, greater]; rfl)
  · rw [ofInt_of_nonneg (i := j) (by omega)]
    exact .inr (cmp_ofUnits_of_negative (fun _ => units_pos (by omega)) _)

/-- **The doubles of two integers compare like the integers**, unless they are one double. -/
theorem cmp_ofInt (i j : Int) :
    (ofInt i).cmp (ofInt j) = if ofInt i = ofInt j then .eq else compare i j := by
  split
  · rename_i same
    rw [same, cmp_self]
  rename_i other
  rcases Int.lt_trichotomy i j with less | rfl | greater
  · rw [(cmp_ofInt_of_lt less).resolve_left other, Int.compare_eq_lt.2 less]
  · exact absurd rfl other
  · rw [← cmp_swap, (cmp_ofInt_of_lt greater).resolve_left (Ne.symm other),
      Int.compare_eq_gt.2 greater]
    rfl

/-! ### Integers that are doubles -/

theorem ofUnits_eq_finite_iff {s t : Bool} {num units : Nat} :
    ofUnits s num 1 = .finite t units ↔ s = t ∧ Format.double.round num 1 = some units := by
  unfold ofUnits
  cases Format.double.round num 1 <;> simp

theorem ofUnits_zero (s : Bool) : ofUnits s 0 1 = .finite s 0 :=
  ofUnits_eq_finite_iff.2 ⟨rfl, Format.double.round_zero 1⟩

theorem ofNat_zero : ofNat 0 = .finite false 0 := by
  rw [ofNat, ofQuotient, Nat.zero_mul, ofUnits_zero]

theorem ofInt_zero : ofInt 0 = .finite false 0 := by
  rw [ofInt, ofQuotient, Int.natAbs_zero, Nat.zero_mul, ofUnits_zero]
  rfl

/-- The two zeros are compared alike. -/
theorem cmp_negative_zero (d : Double) : d.cmp (.finite true 0) = d.cmp (.ofInt 0) := by
  rw [ofInt_zero]
  cases d <;> rfl

/-- An integer of at most 53 bits is its own double. -/
theorem ofInt_eq_finite {i : Int} (short : i.natAbs ≤ 2 ^ 53) :
    ofInt i = .finite (decide (i < 0)) (i.natAbs * one) := by
  rw [ofInt, ofQuotient, ofUnits_eq_finite_iff]
  exact ⟨rfl, round_integer short⟩

/-- An integer of at most 53 bits shares its double with no other integer. -/
theorem ofInt_inj {i j : Int} (short : i.natAbs < 2 ^ 53) (same : ofInt i = ofInt j) : i = j := by
  rw [ofInt_eq_finite (Nat.le_of_lt short), eq_comm, ofInt, ofQuotient,
    ofUnits_eq_finite_iff] at same
  obtain ⟨signs, round⟩ := same
  have signs := decide_eq_decide.1 signs
  have sizes : j.natAbs = i.natAbs := Format.round_multiple_inj (by decide) one_pos
    (fun _ => round_integer) short round
  omega

end Double

end LabelForge.Number
