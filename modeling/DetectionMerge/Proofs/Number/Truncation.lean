import DetectionMerge.Proofs.Number.Nearest

/-! The integer part of a rounded number. Integers of at most 53 bits are numbers
themselves, so rounding passes none of them: a number that lies above or below one
before rounding does not lie on its other side afterwards. -/

namespace DetectionMerge

open FiniteBinary64 (unitsPerOne)

/-! ### Small integers -/

namespace FiniteBinary64

/-- A natural number of at most 53 bits is a number. -/
theorem exists_magnitude_eq {k : ℕ} (small : k < 2 ^ 53) :
    ∃ x : FiniteBinary64, x.magnitude = k * unitsPerOne := by
  rcases Nat.eq_zero_or_pos k with rfl | positive
  · exact ⟨.zero false, (Nat.zero_mul _).symm⟩
  · have low : 2 ^ k.log2 ≤ k := Nat.log2_self_le positive.ne'
    have high : k < 2 ^ (k.log2 + 1) := Nat.lt_log2_self
    have bits : k.log2 < 53 := (Nat.log2_lt positive.ne').2 small
    have split : 2 ^ k.log2 * 2 ^ (52 - k.log2) = 2 ^ 52 := by
      rw [← pow_add]
      congr 1
      omega
    have canonical : CanonicalSignificand (k * 2 ^ (52 - k.log2)) (1022 + k.log2) := by
      refine canonicalSignificand_iff.2 ⟨?_, by omega, .inr ?_⟩
      · calc k * 2 ^ (52 - k.log2) < 2 ^ (k.log2 + 1) * 2 ^ (52 - k.log2) :=
              Nat.mul_lt_mul_of_pos_right high (Nat.two_pow_pos _)
          _ = 2 ^ 53 := by
            rw [pow_succ, Nat.mul_right_comm, split, ← pow_succ]
      · exact split ▸ Nat.mul_le_mul_right _ low
    refine ⟨⟨false, _, _, canonical⟩, ?_⟩
    have exponent : 52 - k.log2 + (1022 + k.log2) = 1074 := by omega
    simp only [magnitude_eq, Nat.mul_assoc, ← pow_add, exponent, unitsPerOne, Nat.pow_eq]

end FiniteBinary64

/-! ### Rounding and order -/

namespace Binary64.IsNearest

variable {negative : Bool} {q : ℚ} {x y : FiniteBinary64}

/-- What is not below a number is not rounded to one below it. -/
theorem le_magnitude (h : IsNearest negative q (.finite x)) (le : (y.magnitude : ℚ) ≤ q) :
    y.magnitude ≤ x.magnitude := by
  by_contra below
  have below : (x.magnitude : ℚ) < y.magnitude := by exact_mod_cast not_le.1 below
  cases h with
  | finite _ _ _ near =>
    have nearer := near y
    rw [abs_of_nonpos (by linarith), abs_of_nonpos (by linarith)] at nearer
    linarith

/-- What is not above a number is not rounded to one above it. -/
theorem magnitude_le (h : IsNearest negative q (.finite x)) (le : q ≤ y.magnitude) :
    x.magnitude ≤ y.magnitude := by
  by_contra above
  have above : (y.magnitude : ℚ) < x.magnitude := by exact_mod_cast not_le.1 above
  cases h with
  | finite _ _ _ near =>
    have nearer := near y
    rw [abs_of_nonneg (by linarith), abs_of_nonneg (by linarith)] at nearer
    linarith

theorem negative_eq (h : IsNearest negative q (.finite x)) : x.negative = negative := by
  cases h with
  | finite _ sign => exact sign

/-- A natural number of at most 53 bits is rounded to itself. -/
theorem magnitude_of_small {k : ℕ} (small : k < 2 ^ 53)
    (h : IsNearest negative (unitsPerOne * k) (.finite x)) : x.magnitude = k * unitsPerOne := by
  obtain ⟨y, value⟩ := FiniteBinary64.exists_magnitude_eq small
  have same : (y.magnitude : ℚ) = unitsPerOne * k := by
    rw [value, Nat.cast_mul, mul_comm]
  rw [← value]
  exact Nat.le_antisymm (h.magnitude_le same.ge) (h.le_magnitude same.le)

/-- Above a natural number of at most 53 bits the integer part is not below it. -/
theorem mul_le_magnitude {k : ℕ} (small : k < 2 ^ 53) (le : unitsPerOne * k ≤ q)
    (h : IsNearest negative q (.finite x)) : k * unitsPerOne ≤ x.magnitude := by
  obtain ⟨y, value⟩ := FiniteBinary64.exists_magnitude_eq small
  rw [← value]
  refine h.le_magnitude (le_trans (le_of_eq ?_) le)
  rw [value, Nat.cast_mul, mul_comm]

end Binary64.IsNearest

/-! ### Integer parts -/

namespace FiniteBinary64

/-- The value in ones. -/
def value (x : FiniteBinary64) : ℚ := x.units / unitsPerOne

theorem unitsPerOne_pos : (0 : ℤ) < unitsPerOne := by exact_mod_cast Decimal.unitsPerOne_pos

theorem truncate_eq (x : FiniteBinary64) :
    x.truncate = if x.negative then -((x.magnitude / unitsPerOne : ℕ) : ℤ)
      else (x.magnitude / unitsPerOne : ℕ) := by
  rw [truncate, units]
  split_ifs
  · rw [Int.neg_tdiv, Int.ofNat_tdiv]
  · rw [Int.ofNat_tdiv]

theorem le_tdiv_iff {a b k : ℤ} (hb : 0 < b) (hk : 0 < k) : k ≤ a.tdiv b ↔ k * b ≤ a := by
  rcases le_or_gt 0 a with nonneg | negative
  · rw [Int.tdiv_eq_ediv_of_nonneg nonneg, Int.le_ediv_iff_mul_le hb]
  · have quotient : 0 ≤ (-a).tdiv b := Int.tdiv_nonneg (by omega) hb.le
    rw [Int.neg_tdiv] at quotient
    have product : 0 < k * b := mul_pos hk hb
    omega

/-- The integer part reaches a positive integer with the number. -/
theorem le_truncate_iff (x : FiniteBinary64) {k : ℤ} (positive : 0 < k) :
    k ≤ x.truncate ↔ (k : ℚ) ≤ x.value := by
  rw [truncate, le_tdiv_iff unitsPerOne_pos positive, value,
    le_div_iff₀ Decimal.unitsPerOne_pos]
  exact_mod_cast Iff.rfl

/-- Below zero the integer part reaches an integer with the number, too. -/
theorem truncate_le_iff (x : FiniteBinary64) {k : ℤ} (negative : k < 0) :
    x.truncate ≤ k ↔ x.value ≤ k := by
  have flipped : -k ≤ (-x.units).tdiv unitsPerOne ↔ -k * unitsPerOne ≤ -x.units :=
    le_tdiv_iff unitsPerOne_pos (by omega)
  rw [Int.neg_tdiv, neg_le_neg_iff, neg_mul, neg_le_neg_iff] at flipped
  rw [truncate, flipped, value, div_le_iff₀ Decimal.unitsPerOne_pos]
  exact_mod_cast Iff.rfl

end FiniteBinary64

end DetectionMerge
