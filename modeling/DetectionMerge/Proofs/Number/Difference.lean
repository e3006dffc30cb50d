import DetectionMerge.Proofs.Number.Rounding

/-! Differences that leave the range. The difference of two finite numbers is
finite exactly if the exact difference is less than half a step above the
greatest finite number. -/

namespace DetectionMerge

/-- The rounded quotient is one of the two next to the exact one. -/
theorem nearestEven_mem (a b : ℕ) : a / b ≤ nearestEven a b ∧ nearestEven a b ≤ a / b + 1 := by
  simp only [nearestEven]
  split_ifs <;> omega

namespace Binary64

/-- The least number of units that is rounded to an infinity. -/
def overflow : ℕ := (2 ^ 54 - 1) * 2 ^ 2044

theorem overflow_pos : 0 < overflow := Nat.mul_pos (by norm_num) (Nat.two_pow_pos _)

theorem ofParts_isFinite_iff {negative : Bool} {significand scale : ℕ} :
    (ofParts negative significand scale).isFinite ↔ CanonicalSignificand significand scale := by
  by_cases h : CanonicalSignificand significand scale
  · simp [ofParts, h, isFinite]
  · simp [ofParts, h, isFinite]

/-- In the last binade the significand is carried over exactly from the
overflow bound on. -/
theorem nearestEven_ne_iff {n half : ℕ} (positive : 0 < half) (high : n / (2 * half) < 2 ^ 53) :
    nearestEven n (2 * half) ≠ 2 ^ 53 ↔ n < (2 ^ 54 - 1) * half := by
  have division : 2 * half * (n / (2 * half)) + n % (2 * half) = n := Nat.div_add_mod _ _
  have remainder : n % (2 * half) < 2 * half := Nat.mod_lt _ (by omega)
  simp only [nearestEven]
  generalize n / (2 * half) = q at division high ⊢
  generalize n % (2 * half) = r at division remainder ⊢
  rcases Nat.lt_or_ge q (2 ^ 53 - 1) with small | last
  · have room : 2 * half * (q + 1) ≤ 2 * half * (2 ^ 53 - 1) := Nat.mul_le_mul_left _ (by omega)
    have next : 2 * half * (q + 1) = 2 * half * q + 2 * half := by ring
    constructor
    · intro _
      omega
    · intro _
      split_ifs <;> omega
  · obtain rfl : q = 2 ^ 53 - 1 := by omega
    split_ifs <;> omega

/-- The scale leaves 53 bits, fewer only if it is zero. -/
theorem bounds_of_log2 {num den scale : ℕ} (hden : 0 < den) (h : (num / den).log2 - 52 = scale) :
    num < 2 ^ 53 * (den * 2 ^ scale) ∧ (0 < scale → 2 ^ 52 * (den * 2 ^ scale) ≤ num) := by
  constructor
  · have most : num / den < 2 ^ (53 + scale) :=
      Nat.lt_log2_self.trans_le (Nat.pow_le_pow_right (by norm_num) (by omega))
    rw [Nat.div_lt_iff_lt_mul hden, pow_add] at most
    linarith
  · intro positive
    have least : 2 ^ (52 + scale) ≤ num / den := by
      rw [show 52 + scale = (num / den).log2 by omega]
      exact Nat.log2_self_le (by intro zero; simp [zero] at h; omega)
    rw [Nat.le_div_iff_mul_le hden, pow_add] at least
    linarith

/-- Rounding overflows if the scale is too large or grows in the last step. -/
theorem nearestUnits_isFinite_iff_scale (negative : Bool) {num den scale : ℕ} (hden : 0 < den)
    (h : (num / den).log2 - 52 = scale) :
    (nearestUnits negative num den).isFinite ↔
      scale < 2045 ∨ scale = 2045 ∧ nearestEven num (den * 2 ^ scale) ≠ 2 ^ 53 := by
  obtain ⟨high, low⟩ := bounds_of_log2 hden h
  have step : 0 < den * 2 ^ scale := by positivity
  have quotientHigh : num / (den * 2 ^ scale) < 2 ^ 53 := (Nat.div_lt_iff_lt_mul step).2 high
  have quotientLow : 0 < scale → 2 ^ 52 ≤ num / (den * 2 ^ scale) := fun positive =>
    (Nat.le_div_iff_mul_le step).2 (low positive)
  have near := nearestEven_mem num (den * 2 ^ scale)
  simp only [nearestUnits, Nat.pow_eq, h]
  split_ifs with carry
  · rw [ofParts_isFinite_iff, canonicalSignificand_iff]
    omega
  · rw [ofParts_isFinite_iff, canonicalSignificand_iff]
    omega

/-- A quotient is rounded to a finite number exactly below the overflow bound. -/
theorem nearestUnits_isFinite_iff (negative : Bool) (num : ℕ) {den : ℕ} (hden : 0 < den) :
    (nearestUnits negative num den).isFinite ↔ num < overflow * den := by
  obtain ⟨scale, hscale⟩ : ∃ scale, (num / den).log2 - 52 = scale := ⟨_, rfl⟩
  obtain ⟨high, low⟩ := bounds_of_log2 hden hscale
  have bound : overflow * den = (2 ^ 54 - 1) * (den * 2 ^ 2044) := by
    rw [overflow, Nat.mul_assoc, Nat.mul_comm (2 ^ 2044) den]
  rw [nearestUnits_isFinite_iff_scale negative hden hscale, bound]
  rcases lt_trichotomy scale 2045 with below | last | above
  · have : den * 2 ^ scale ≤ den * 2 ^ 2044 :=
      Nat.mul_le_mul_left _ (pow_le_pow_right₀ (by norm_num) (by omega))
    exact iff_of_true (.inl below) (by omega)
  · subst last
    have double : den * 2 ^ 2045 = 2 * (den * 2 ^ 2044) := by
      rw [pow_succ, ← Nat.mul_assoc, Nat.mul_comm]
    have quotient : num / (den * 2 ^ 2045) < 2 ^ 53 :=
      (Nat.div_lt_iff_lt_mul (by positivity)).2 high
    rw [double] at quotient ⊢
    rw [← nearestEven_ne_iff (by positivity) quotient]
    exact ⟨fun h => (h.resolve_left (lt_irrefl _)).2, fun h => .inr ⟨rfl, h⟩⟩
  · have : 2 ^ 2 * (den * 2 ^ 2044) ≤ den * 2 ^ scale := by
      calc 2 ^ 2 * (den * 2 ^ 2044) = den * 2 ^ (2 + 2044) := by
            rw [pow_add, Nat.mul_left_comm]
        _ ≤ den * 2 ^ scale := Nat.mul_le_mul_left _ (pow_le_pow_right₀ (by norm_num) (by omega))
    have := low (by omega)
    exact iff_of_false (by omega) (by omega)

/-- The difference of two finite numbers is finite exactly if the exact
difference is below the overflow bound. -/
theorem sub_isFinite_iff (x y : FiniteBinary64) :
    (Binary64.finite x - Binary64.finite y).isFinite ↔ (x.units - y.units).natAbs < overflow := by
  change (sub (.finite x) (.finite y)).isFinite ↔ _
  simp only [sub]
  split_ifs with same
  · rw [same, Int.natAbs_zero]
    exact iff_of_true rfl overflow_pos
  · rw [nearestUnits_isFinite_iff _ _ one_pos, Nat.mul_one]

end Binary64

end DetectionMerge
