import DetectionMerge.Proofs.Number.Difference

/-! Which double precision number is the nearest one. The numbers of a binade are
a grid, and no number of another binade comes closer to what lies in it, so the
nearest point of the grid is the nearest number. The numbers that a reader of
decimals gives are the nearest ones, and there is only one for each sign and
magnitude. -/

namespace DetectionMerge

open FiniteBinary64 (unitsPerOne)

/-- Whether a number is the nearest one to a magnitude in units, with a sign: no
finite number is nearer, of two equally near ones it has the even significand,
and from half a step above the greatest number on it is infinite. -/
inductive Binary64.IsNearest (negative : Bool) (q : ℚ) : Binary64 → Prop
  | finite (x : FiniteBinary64) (sign : x.negative = negative) (range : q < overflow)
      (near : ∀ y : FiniteBinary64, |(x.magnitude : ℚ) - q| ≤ |(y.magnitude : ℚ) - q|)
      (tie : ∀ y : FiniteBinary64, |(y.magnitude : ℚ) - q| = |(x.magnitude : ℚ) - q| →
        y.magnitude = x.magnitude ∨ x.significand % 2 = 0) : IsNearest negative q (.finite x)
  | infinite (range : overflow ≤ q) : IsNearest negative q (.infinite negative)

/-! ### Grids -/

namespace FiniteBinary64

theorem magnitude_eq (x : FiniteBinary64) : x.magnitude = x.significand * 2 ^ x.scale := rfl

theorem magnitude_lt (x : FiniteBinary64) : x.magnitude < 2 ^ 53 * 2 ^ x.scale :=
  Nat.mul_lt_mul_of_pos_right x.bounds.1 (Nat.two_pow_pos _)

theorem le_magnitude {x : FiniteBinary64} (h : 0 < x.scale) : 2 ^ 52 * 2 ^ x.scale ≤ x.magnitude :=
  Nat.mul_le_mul_right _ (x.bounds.2.2.resolve_left (by omega))

theorem two_mul_pow_le {j k : ℕ} (h : j < k) : 2 * 2 ^ j ≤ 2 ^ k := by
  rw [← pow_succ']
  exact Nat.pow_le_pow_right (by norm_num) h

/-- A number lies on a grid, or it lies below all numbers of the grid's binade. -/
theorem dvd_or_lt (x : FiniteBinary64) (k : ℕ) :
    2 ^ k ∣ x.magnitude ∨ 0 < k ∧ x.magnitude < 2 ^ 52 * 2 ^ k := by
  rcases Nat.lt_or_ge x.scale k with small | large
  · right
    have step := two_mul_pow_le small
    have := x.magnitude_lt
    omega
  · left
    exact Dvd.dvd.mul_left (Nat.pow_dvd_pow 2 large) _

/-- Above a number there is a gap of one step. -/
theorem succ_le_of_lt {x y : FiniteBinary64} (h : x.magnitude < y.magnitude) :
    (x.significand + 1) * 2 ^ x.scale ≤ y.magnitude := by
  rcases y.dvd_or_lt x.scale with ⟨m, hm⟩ | ⟨positive, below⟩
  · rw [hm, magnitude_eq, Nat.mul_comm (2 ^ x.scale) m] at h
    rw [hm, Nat.mul_comm (2 ^ x.scale) m]
    exact Nat.mul_le_mul_right _ (Nat.lt_of_mul_lt_mul_right h)
  · have := le_magnitude positive
    omega

theorem scale_le_of_magnitude {x y : FiniteBinary64} (h : x.magnitude = y.magnitude) :
    y.scale ≤ x.scale := by
  by_contra smaller
  have step := two_mul_pow_le (Nat.not_le.1 smaller)
  have below := x.magnitude_lt
  have above := le_magnitude (x := y) (by omega)
  omega

/-- Numbers of one sign are told apart by their magnitudes. -/
theorem eq_of_magnitude {x y : FiniteBinary64} (sign : x.negative = y.negative)
    (h : x.magnitude = y.magnitude) : x = y := by
  have scale : x.scale = y.scale :=
    Nat.le_antisymm (scale_le_of_magnitude h.symm) (scale_le_of_magnitude h)
  have significand : x.significand = y.significand := by
    rw [magnitude_eq, magnitude_eq, scale] at h
    exact Nat.eq_of_mul_eq_mul_right (Nat.two_pow_pos _) h
  obtain ⟨negative, significand', scale', canonical⟩ := x
  obtain ⟨negative', significand'', scale'', canonical'⟩ := y
  subst sign scale significand
  rfl

/-- Next to the nearest point of a grid, no number is nearer, and only half a
step away another one is equally near. -/
theorem grid_nearest {n k : ℕ} {q : ℚ} (close : |(n : ℚ) * 2 ^ k - q| ≤ 2 ^ k / 2)
    (binade : 0 < k → 2 ^ 52 * 2 ^ k ≤ q) (y : FiniteBinary64) (other : y.magnitude ≠ n * 2 ^ k) :
    |(n : ℚ) * 2 ^ k - q| ≤ |(y.magnitude : ℚ) - q| ∧
      (|(y.magnitude : ℚ) - q| = |(n : ℚ) * 2 ^ k - q| → |(n : ℚ) * 2 ^ k - q| = 2 ^ k / 2) := by
  have step : (0 : ℚ) < 2 ^ k := by positivity
  obtain ⟨low, high⟩ := abs_le.1 close
  have far : 2 ^ k / 2 ≤ |(y.magnitude : ℚ) - q| ∨
      |(n : ℚ) * 2 ^ k - q| < |(y.magnitude : ℚ) - q| := by
    rcases y.dvd_or_lt k with ⟨m, hm⟩ | ⟨positive, below⟩
    · left
      have value : (y.magnitude : ℚ) = m * 2 ^ k := by
        rw [hm]
        push_cast
        ring
      rw [value]
      have apart : m ≠ n := by
        rintro rfl
        exact other (by rw [hm, Nat.mul_comm])
      rcases Nat.lt_or_gt_of_ne apart with less | more
      · have gap : ((m : ℚ) + 1) * 2 ^ k ≤ n * 2 ^ k :=
          mul_le_mul_of_nonneg_right (by exact_mod_cast less) step.le
        exact le_abs.2 (.inr (by linarith))
      · have gap : ((n : ℚ) + 1) * 2 ^ k ≤ m * 2 ^ k :=
          mul_le_mul_of_nonneg_right (by exact_mod_cast more) step.le
        exact le_abs.2 (.inl (by linarith))
    · have least : (2 : ℚ) ^ 52 * 2 ^ k ≤ q := binade positive
      have below : (y.magnitude : ℚ) < 2 ^ 52 * 2 ^ k := by exact_mod_cast below
      rcases le_or_gt ((n : ℚ) * 2 ^ k) q with down | up
      · right
        have normal : 2 ^ 52 ≤ n := by
          by_contra small
          have gap : ((n : ℚ) + 1) * 2 ^ k ≤ 2 ^ 52 * 2 ^ k :=
            mul_le_mul_of_nonneg_right (by exact_mod_cast Nat.not_le.1 small) step.le
          linarith
        have gap : (2 : ℚ) ^ 52 * 2 ^ k ≤ n * 2 ^ k :=
          mul_le_mul_of_nonneg_right (by exact_mod_cast normal) step.le
        rw [abs_sub_comm, abs_of_nonneg (by linarith), abs_sub_comm, abs_of_nonneg (by linarith)]
        linarith
      · left
        have normal : 2 ^ 52 < n := by
          have := lt_of_mul_lt_mul_right (least.trans_lt up) step.le
          exact_mod_cast this
        have gap : ((2 : ℚ) ^ 52 + 1) * 2 ^ k ≤ n * 2 ^ k :=
          mul_le_mul_of_nonneg_right (by exact_mod_cast normal) step.le
        exact le_abs.2 (.inr (by linarith))
  rcases far with far | far
  · exact ⟨close.trans far, fun same => le_antisymm close (same ▸ far)⟩
  · exact ⟨far.le, fun same => absurd same far.ne'⟩

end FiniteBinary64

/-! ### Rounding -/

/-- The rounded quotient is within half a step, and at half a step it is even. -/
theorem nearestEven_spec (a : ℕ) {b : ℕ} (hb : 0 < b) :
    2 * (nearestEven a b * b) ≤ 2 * a + b ∧ 2 * a ≤ 2 * (nearestEven a b * b) + b ∧
      (nearestEven a b % 2 = 1 →
        2 * (nearestEven a b * b) < 2 * a + b ∧ 2 * a < 2 * (nearestEven a b * b) + b) := by
  have division : b * (a / b) + a % b = a := Nat.div_add_mod a b
  have remainder : a % b < b := Nat.mod_lt a hb
  have product : a / b * b = b * (a / b) := Nat.mul_comm _ _
  simp only [nearestEven]
  generalize a / b = q at division product ⊢
  generalize a % b = r at division remainder ⊢
  split_ifs with up
  · rw [Nat.add_mul]
    omega
  · omega

/-- The rounded significand as a number of steps, by its distance from the quotient. -/
theorem nearestEven_close (num : ℕ) {den : ℕ} (hden : 0 < den) (k : ℕ) :
    |(nearestEven num (den * 2 ^ k) : ℚ) * 2 ^ k - num / den| ≤ 2 ^ k / 2 ∧
      (|(nearestEven num (den * 2 ^ k) : ℚ) * 2 ^ k - num / den| = 2 ^ k / 2 →
        nearestEven num (den * 2 ^ k) % 2 = 0) := by
  obtain ⟨above, below, inside⟩ := nearestEven_spec num (show 0 < den * 2 ^ k by positivity)
  generalize nearestEven num (den * 2 ^ k) = n at above below inside ⊢
  have positive : (0 : ℚ) < den := by exact_mod_cast hden
  obtain ⟨q, hq⟩ : ∃ q : ℚ, q = num / den := ⟨_, rfl⟩
  have product : (num : ℚ) = q * den := by rw [hq, div_mul_cancel₀ _ positive.ne']
  rw [← hq]
  have scaled : ∀ x y : ℚ, x * den ≤ y * den → x ≤ y := fun x y h => le_of_mul_le_mul_right h positive
  have aboveQ : (2 : ℚ) * (n * (den * 2 ^ k)) ≤ 2 * num + den * 2 ^ k := by exact_mod_cast above
  have belowQ : (2 : ℚ) * num ≤ 2 * (n * (den * 2 ^ k)) + den * 2 ^ k := by exact_mod_cast below
  rw [product] at aboveQ belowQ
  refine ⟨abs_le.2 ⟨scaled _ _ ?_, scaled _ _ ?_⟩, fun tie => ?_⟩
  · linarith
  · linarith
  · by_contra odd
    obtain ⟨strictAbove, strictBelow⟩ := inside (by omega)
    have strictAboveQ : (2 : ℚ) * (n * (den * 2 ^ k)) < 2 * num + den * 2 ^ k := by
      exact_mod_cast strictAbove
    have strictBelowQ : (2 : ℚ) * num < 2 * (n * (den * 2 ^ k)) + den * 2 ^ k := by
      exact_mod_cast strictBelow
    rw [product] at strictAboveQ strictBelowQ
    rcases eq_or_eq_neg_of_abs_eq tie with tie | tie
    · have : ((n : ℚ) * 2 ^ k - q) * den = 2 ^ k / 2 * den := by rw [tie]
      linarith
    · have : ((n : ℚ) * 2 ^ k - q) * den = -(2 ^ k / 2) * den := by rw [tie]
      linarith

namespace Binary64

theorem isNearest_finite {negative : Bool} {x : FiniteBinary64} {n k : ℕ} {q : ℚ}
    (sign : x.negative = negative) (range : q < overflow)
    (magnitude : x.magnitude = n * 2 ^ k) (close : |(n : ℚ) * 2 ^ k - q| ≤ 2 ^ k / 2)
    (tie : |(n : ℚ) * 2 ^ k - q| = 2 ^ k / 2 → x.significand % 2 = 0)
    (binade : 0 < k → 2 ^ 52 * 2 ^ k ≤ q) : IsNearest negative q (.finite x) := by
  have value : (x.magnitude : ℚ) = n * 2 ^ k := by exact_mod_cast magnitude
  have away (y : FiniteBinary64) (other : y.magnitude ≠ x.magnitude) :=
    FiniteBinary64.grid_nearest close binade y (by rwa [← magnitude])
  rw [← value] at away tie
  refine .finite x sign range (fun y => ?_) (fun y equally => ?_)
  · by_cases same : y.magnitude = x.magnitude
    · rw [same]
    · exact (away y same).1
  · by_cases same : y.magnitude = x.magnitude
    · exact .inl same
    · exact .inr (tie ((away y same).2 equally))

theorem isNearest_nearestUnits (negative : Bool) (num : ℕ) {den : ℕ} (hden : 0 < den) :
    IsNearest negative ((num : ℚ) / den) (nearestUnits negative num den) := by
  have positive : (0 : ℚ) < den := by exact_mod_cast hden
  have finite := nearestUnits_isFinite_iff negative num hden
  have range : (num : ℚ) / den < overflow ↔ num < overflow * den := by
    rw [div_lt_iff₀ positive]
    exact_mod_cast Iff.rfl
  rw [← range] at finite
  obtain ⟨k, hk⟩ : ∃ k, (num / den).log2 - 52 = k := ⟨_, rfl⟩
  obtain ⟨close, tie⟩ := nearestEven_close num hden k
  have binade : 0 < k → (2 : ℚ) ^ 52 * 2 ^ k ≤ num / den := by
    intro scaled
    rw [le_div_iff₀ positive]
    have := (bounds_of_log2 hden hk).2 scaled
    have : (2 : ℚ) ^ 52 * (den * 2 ^ k) ≤ num := by exact_mod_cast this
    linarith
  simp only [nearestUnits, Nat.pow_eq, hk] at finite ⊢
  generalize nearestEven num (den * 2 ^ k) = n at close tie finite ⊢
  split_ifs at finite ⊢ with carry
  · by_cases canonical : CanonicalSignificand (2 ^ 52) (k + 1)
    · simp only [ofParts, dif_pos canonical] at finite ⊢
      refine isNearest_finite rfl (finite.1 rfl) ?_ close (fun _ => ?_) binade
      · rw [FiniteBinary64.magnitude_eq, carry]
        ring
      · norm_num
    · simp only [ofParts, dif_neg canonical] at finite ⊢
      exact .infinite (not_lt.1 fun below => Bool.noConfusion (finite.2 below))
  · by_cases canonical : CanonicalSignificand n k
    · simp only [ofParts, dif_pos canonical] at finite ⊢
      exact isNearest_finite rfl (finite.1 rfl) rfl close tie binade
    · simp only [ofParts, dif_neg canonical] at finite ⊢
      exact .infinite (not_lt.1 fun below => Bool.noConfusion (finite.2 below))

theorem isNearest_nearest (negative : Bool) (num : ℕ) {den : ℕ} (hden : 0 < den) :
    IsNearest negative (num * unitsPerOne / den) (nearest negative num den) := by
  have rounded := isNearest_nearestUnits negative (num * unitsPerOne) hden
  rwa [Nat.cast_mul] at rounded

/-! ### There is only one -/

/-- Two nearest numbers would be neighbours, and one of them would be odd. -/
theorem IsNearest.not_magnitude_lt {negative : Bool} {q : ℚ} {x y : FiniteBinary64}
    (hx : IsNearest negative q (.finite x)) (hy : IsNearest negative q (.finite y)) :
    ¬x.magnitude < y.magnitude := by
  intro less
  cases hx with | finite _ xSign _ xNear xTie
  cases hy with | finite _ ySign _ yNear yTie
  have equally : |(y.magnitude : ℚ) - q| = |(x.magnitude : ℚ) - q| :=
    le_antisymm (yNear x) (xNear y)
  have xEven : x.significand % 2 = 0 := (xTie y equally).resolve_left less.ne'
  have yEven : y.significand % 2 = 0 := (yTie x equally.symm).resolve_left less.ne
  have canonical : CanonicalSignificand (x.significand + 1) x.scale := by
    obtain ⟨bound, range, normal⟩ := x.bounds
    exact canonicalSignificand_iff.2 ⟨by omega, range, by omega⟩
  let z : FiniteBinary64 := ⟨x.negative, x.significand + 1, x.scale, canonical⟩
  have above : x.magnitude < z.magnitude :=
    Nat.mul_lt_mul_of_pos_right (Nat.lt_succ_self _) (Nat.two_pow_pos _)
  rcases Nat.eq_or_lt_of_le (FiniteBinary64.succ_le_of_lt less) with same | between
  · have : z = y := FiniteBinary64.eq_of_magnitude (xSign.trans ySign.symm) same
    have : y.significand = x.significand + 1 := by rw [← this]
    omega
  · have lessQ : (x.magnitude : ℚ) < z.magnitude := by exact_mod_cast above
    have betweenQ : (z.magnitude : ℚ) < y.magnitude := by exact_mod_cast between
    -- The magnitude lies halfway between the two, so the one between them is nearer.
    have nearer := xNear z
    have half : q = (x.magnitude + y.magnitude) / 2 := by
      rcases abs_eq_abs.1 equally with same | opposite
      · linarith
      · linarith
    rw [abs_sub_comm, abs_of_nonneg (by linarith : 0 ≤ q - x.magnitude)] at nearer
    rcases le_abs'.1 nearer with low | high
    · linarith
    · linarith

theorem IsNearest.unique {negative : Bool} {q : ℚ} {x y : Binary64} (hx : IsNearest negative q x)
    (hy : IsNearest negative q y) : x = y := by
  have first := hx
  have second := hy
  cases hx with
  | infinite range =>
    cases hy with
    | infinite => rfl
    | finite y _ range' => exact absurd range' (not_lt.2 range)
  | finite x sign range =>
    cases hy with
    | infinite range' => exact absurd range (not_lt.2 range')
    | finite y sign' =>
      have magnitude : x.magnitude = y.magnitude :=
        Nat.le_antisymm (Nat.not_lt.1 (second.not_magnitude_lt first))
          (Nat.not_lt.1 (first.not_magnitude_lt second))
      rw [FiniteBinary64.eq_of_magnitude (sign.trans sign'.symm) magnitude]

end Binary64

/-! ### Decimals -/

namespace Decimal

open Binary64 (IsNearest isNearest_finite)

theorem isNearest_zero {negative : Bool} {q : ℚ} (low : 0 ≤ q) (high : q ≤ 1 / 2) :
    IsNearest negative q (.zero negative) := by
  have range : q < Binary64.overflow := by
    have : (1 : ℚ) ≤ Binary64.overflow := Nat.one_le_cast.2 Binary64.overflow_pos
    linarith
  refine isNearest_finite (x := .zero negative) (n := 0) (k := 0) rfl range rfl ?_ (fun _ => rfl)
    (fun absurd => (lt_irrefl 0 absurd).elim)
  simp only [Nat.cast_zero, zero_mul, zero_sub, abs_neg, pow_zero]
  rw [abs_of_nonneg low]
  exact high

theorem isNearest_nearest (d : Decimal) :
    IsNearest d.negative (unitsPerOne * d.magnitude) d.nearest := by
  have nonneg : 0 ≤ unitsPerOne * d.magnitude := mul_nonneg unitsPerOne_pos.le d.magnitude_nonneg
  by_cases zero : d.mantissa = 0
  · have nothing : unitsPerOne * d.magnitude = 0 := by
      simp only [magnitude, zero, Nat.cast_zero, zero_mul, mul_zero]
    simp only [nearest, if_pos zero, nothing]
    exact isNearest_zero le_rfl (by norm_num)
  by_cases large : 309 ≤ d.exponent
  · simp only [nearest, if_neg zero, if_pos large]
    refine .infinite (le_trans ?_ (le_magnitude_of_large zero large))
    have digits : Binary64.overflow ≤ 2 ^ 54 * 2 ^ 2044 :=
      Nat.mul_le_mul_right _ (by norm_num)
    have digits' : (Binary64.overflow : ℚ) ≤ 2 ^ 54 * 2 ^ 2044 := by exact_mod_cast digits
    refine digits'.trans ?_
    rw [← pow_add]
    exact pow_le_pow_right₀ (by norm_num) (by norm_num)
  by_cases small : (d.mantissa.log2 : ℤ) + 1076 ≤ -3 * d.exponent
  · simp only [nearest, if_neg zero, if_neg large, if_pos small]
    exact isNearest_zero nonneg (magnitude_lt_of_small small).le
  simp only [nearest, if_neg zero, if_neg large, if_neg small]
  split_ifs with whole
  · have value : unitsPerOne * d.magnitude =
        (d.mantissa * Nat.pow 10 d.exponent.toNat : ℕ) * unitsPerOne / (1 : ℕ) := by
      obtain ⟨n, hn⟩ := Int.eq_ofNat_of_zero_le whole
      simp only [magnitude, hn, Nat.pow_eq]
      push_cast
      rw [Int.toNat_natCast, zpow_natCast]
      ring
    rw [value]
    exact Binary64.isNearest_nearest _ _ one_pos
  · have value : unitsPerOne * d.magnitude =
        d.mantissa * unitsPerOne / (Nat.pow 10 (-d.exponent).toNat : ℕ) := by
      obtain ⟨n, hn⟩ : ∃ n : ℕ, d.exponent = -(n : ℤ) := ⟨(-d.exponent).toNat, by omega⟩
      simp only [magnitude, hn, Nat.pow_eq]
      push_cast
      rw [neg_neg, Int.toNat_natCast, zpow_neg, zpow_natCast, div_eq_mul_inv]
      ring
    rw [value]
    exact Binary64.isNearest_nearest _ _ (Nat.pow_pos (by norm_num))

end Decimal

end DetectionMerge
