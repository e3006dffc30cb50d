import DetectionMerge.Number.Decimal
import DetectionMerge.Number.Shortest
import Mathlib.Data.Nat.Log
import Mathlib.Data.Rat.Cast.Order
import Mathlib.Tactic

/-! Rounding to double precision. A finite number other than zero has an interval
of magnitudes, in quarter units, with a gap on both sides; the interval is closed
where the significand is even. Proved: a quotient in the interval is rounded to
the number, and so is a decimal whose exact value lies in it. The decimal's
spelling does not matter, and its shortcuts for very large and very small numbers
are never taken inside an interval. -/

namespace DetectionMerge

/-! ### Powers -/

theorem canonicalSignificand_iff {significand scale : ℕ} :
    CanonicalSignificand significand scale ↔
      significand < 2 ^ 53 ∧ scale ≤ 2045 ∧ (scale = 0 ∨ 2 ^ 52 ≤ significand) := Iff.rfl

namespace FiniteBinary64

theorem bounds (x : FiniteBinary64) :
    x.significand < 2 ^ 53 ∧ x.scale ≤ 2045 ∧ (x.scale = 0 ∨ 2 ^ 52 ≤ x.significand) := x.canonical

end FiniteBinary64

/-! ### The nearest natural number -/

/-- A natural number within half a step is the nearest one; at half a step it
must be even. -/
theorem nearestEven_eq {a b m : ℕ} (hb : 0 < b) (low : 2 * (m * b) ≤ 2 * a + b)
    (high : 2 * a ≤ 2 * (m * b) + b)
    (inside : m % 2 = 1 → 2 * (m * b) < 2 * a + b ∧ 2 * a < 2 * (m * b) + b) :
    nearestEven a b = m := by
  have division : b * (a / b) + a % b = a := Nat.div_add_mod a b
  have remainder : a % b < b := Nat.mod_lt a hb
  simp only [nearestEven]
  generalize a / b = q at division ⊢
  generalize a % b = r at division remainder ⊢
  have below : q ≤ m := by
    by_contra h
    have : (m + 1) * b ≤ q * b := Nat.mul_le_mul_right b (by omega)
    have : q * b = b * q := Nat.mul_comm q b
    have : (m + 1) * b = m * b + b := by ring
    omega
  have above : m ≤ q + 1 := by
    by_contra h
    have : (q + 2) * b ≤ m * b := Nat.mul_le_mul_right b (by omega)
    have : (q + 2) * b = b * q + 2 * b := by ring
    omega
  rcases Nat.lt_or_ge q m with h | h
  · obtain rfl : m = q + 1 := by omega
    have : (q + 1) * b = b * q + b := by ring
    split_ifs <;> omega
  · obtain rfl : m = q := by omega
    have : m * b = b * m := Nat.mul_comm m b
    split_ifs <;> omega

/-! ### Numbers from significand and scale -/

namespace Binary64

theorem ofParts_eq (x : FiniteBinary64) : ofParts x.negative x.significand x.scale = .finite x := by
  simp only [ofParts, dif_pos x.canonical]

/-- Where the scale leaves 53 bits, rounding to its significand gives a number. -/
theorem nearestUnits_of_scale (x : FiniteBinary64) {num den : ℕ}
    (scale : (num / den).log2 - 52 = x.scale)
    (rounds : nearestEven num (den * 2 ^ x.scale) = x.significand) :
    nearestUnits x.negative num den = .finite x := by
  have bound : x.significand < 2 ^ 53 := x.bounds.1
  simp only [nearestUnits, Nat.pow_eq, scale, rounds]
  rw [if_neg (by omega), ofParts_eq]

/-- Rounding up to 54 bits gives the least number of the next scale. -/
theorem nearestUnits_of_carry (x : FiniteBinary64) {num den : ℕ} (least : x.significand = 2 ^ 52)
    (scale : (num / den).log2 - 52 + 1 = x.scale)
    (rounds : nearestEven num (den * 2 ^ ((num / den).log2 - 52)) = 2 ^ 53) :
    nearestUnits x.negative num den = .finite x := by
  simp only [nearestUnits, Nat.pow_eq, rounds, scale, if_pos]
  rw [← least, ofParts_eq]

end Binary64

/-! ### The interval of a number -/

namespace Shortest

open Binary64 (nearestUnits nearestUnits_of_scale nearestUnits_of_carry)

/-- The lower gap in quarter units: half of the upper one below a power of two. -/
def lowerGap (x : FiniteBinary64) : ℕ := if x.significand = 2 ^ 52 ∧ 0 < x.scale then 1 else 2

theorem interval_low (x : FiniteBinary64) :
    (interval x).low = (4 * x.significand - lowerGap x) * 2 ^ x.scale := by
  simp only [interval, lowerGap, Nat.pow_eq]
  split_ifs <;> rfl

theorem lowerGap_eq_one {x : FiniteBinary64} (h : lowerGap x = 1) :
    x.significand = 2 ^ 52 ∧ 0 < x.scale := by
  simp only [lowerGap] at h
  split_ifs at h with least
  · exact least
  · omega

theorem lowerGap_eq_two {x : FiniteBinary64} (h : lowerGap x = 2) (positive : 0 < x.scale) :
    2 ^ 52 < x.significand := by
  have normal := x.bounds.2.2
  simp only [lowerGap] at h
  split_ifs at h with least
  · omega
  · omega

theorem lowerGap_le (x : FiniteBinary64) : 1 ≤ lowerGap x ∧ lowerGap x ≤ 2 := by
  simp only [lowerGap]
  split_ifs <;> omega

/-- The bounds that membership gives, the open interval's being strict. -/
theorem bounds_of_holds {x : FiniteBinary64} {c step scale : ℕ}
    (h : (interval x).holds c step scale) :
    (interval x).low * scale ≤ c * step ∧ c * step ≤ (interval x).high * scale ∧
      (x.significand % 2 = 1 →
        (interval x).low * scale < c * step ∧ c * step < (interval x).high * scale) := by
  simp only [Interval.holds] at h
  split_ifs at h with hc
  · have even : x.significand % 2 = 0 := by simpa [interval] using hc
    obtain ⟨low, high⟩ := of_decide_eq_true h
    exact ⟨low, high, fun odd => by omega⟩
  · obtain ⟨low, high⟩ := of_decide_eq_true h
    exact ⟨low.le, high.le, fun _ => ⟨low, high⟩⟩

/-- A quotient of `53 + scale` bits leaves its scale after 53 bits. -/
theorem log2_sub_of_bounds {num den scale : ℕ} (hden : 0 < den)
    (low : 2 ^ 52 * (den * 2 ^ scale) ≤ num) (high : num < 2 ^ 53 * (den * 2 ^ scale)) :
    (num / den).log2 - 52 = scale := by
  have least : 2 ^ (52 + scale) ≤ num / den := by
    rw [Nat.le_div_iff_mul_le hden, pow_add]
    linarith
  have most : num / den < 2 ^ (53 + scale) := by
    rw [Nat.div_lt_iff_lt_mul hden, pow_add]
    linarith
  have positive : num / den ≠ 0 := by
    have := Nat.two_pow_pos (52 + scale)
    omega
  have : 52 + scale ≤ (num / den).log2 := (Nat.le_log2 positive).2 least
  have : (num / den).log2 < 53 + scale := (Nat.log2_lt positive).2 most
  omega

theorem log2_sub_of_lt {num den : ℕ} (hden : 0 < den) (high : num < 2 ^ 53 * den) :
    (num / den).log2 - 52 = 0 := by
  have most : num / den < 2 ^ 53 := by rwa [Nat.div_lt_iff_lt_mul hden]
  have : (num / den).log2 ≤ 52 := by
    by_cases h : num / den = 0
    · simp [h]
    · have := (Nat.log2_lt h).2 most
      omega
  omega

/-- The lower gap separates the interval's lower end from the number. -/
theorem interval_low_mul {x : FiniteBinary64} (nonzero : x.significand ≠ 0) (k : ℕ) :
    (interval x).low * k + lowerGap x * (k * 2 ^ x.scale) =
      4 * (x.significand * (k * 2 ^ x.scale)) := by
  have gap := lowerGap_le x
  rw [interval_low]
  calc (4 * x.significand - lowerGap x) * 2 ^ x.scale * k + lowerGap x * (k * 2 ^ x.scale)
      = (4 * x.significand - lowerGap x + lowerGap x) * (k * 2 ^ x.scale) := by ring
    _ = 4 * (x.significand * (k * 2 ^ x.scale)) := by
      rw [Nat.sub_add_cancel (by omega)]
      ring

/-- Half a unit separates the number from the interval's upper end. -/
theorem interval_high_mul (x : FiniteBinary64) (k : ℕ) :
    (interval x).high * k = 4 * (x.significand * (k * 2 ^ x.scale)) + 2 * (k * 2 ^ x.scale) := by
  simp only [interval, Nat.pow_eq]
  ring

/-- The interval's bounds on a quotient, as distances from the number. -/
theorem distances_of_holds {x : FiniteBinary64} (nonzero : x.significand ≠ 0) {num den : ℕ}
    (h : (interval x).holds num 4 den) :
    4 * (x.significand * (den * 2 ^ x.scale)) ≤ 4 * num + lowerGap x * (den * 2 ^ x.scale) ∧
      4 * num ≤ 4 * (x.significand * (den * 2 ^ x.scale)) + 2 * (den * 2 ^ x.scale) ∧
      (x.significand % 2 = 1 →
        4 * (x.significand * (den * 2 ^ x.scale)) < 4 * num + lowerGap x * (den * 2 ^ x.scale) ∧
          4 * num < 4 * (x.significand * (den * 2 ^ x.scale)) + 2 * (den * 2 ^ x.scale)) := by
  obtain ⟨low, high, inside⟩ := bounds_of_holds h
  have lower := interval_low_mul nonzero den
  have upper := interval_high_mul x den
  refine ⟨by omega, by omega, fun odd => ?_⟩
  have := inside odd
  omega

/-- A quotient in the interval of a number is rounded to it. -/
theorem nearestUnits_of_holds (x : FiniteBinary64) (nonzero : x.significand ≠ 0) {num den : ℕ}
    (hden : 0 < den) (h : (interval x).holds num 4 den) :
    nearestUnits x.negative num den = .finite x := by
  obtain ⟨low, high, inside⟩ := distances_of_holds nonzero h
  have bound : x.significand < 2 ^ 53 := x.bounds.1
  have gap := lowerGap_le x
  have step : 0 < den * 2 ^ x.scale := by positivity
  have top : (x.significand + 1) * (den * 2 ^ x.scale) ≤ 2 ^ 53 * (den * 2 ^ x.scale) :=
    Nat.mul_le_mul_right _ bound
  by_cases carry : lowerGap x = 1 ∧ num < x.significand * (den * 2 ^ x.scale)
  · obtain ⟨narrow, below⟩ := carry
    obtain ⟨least, positive⟩ := lowerGap_eq_one narrow
    obtain ⟨t, ht⟩ : ∃ t, x.scale = t + 1 := ⟨x.scale - 1, by omega⟩
    have double : den * 2 ^ x.scale = 2 * (den * 2 ^ t) := by
      rw [ht, pow_succ]
      ring
    rw [narrow, least, double] at low
    rw [least, double] at below
    have scale : (num / den).log2 - 52 = t := log2_sub_of_bounds hden (by omega) (by omega)
    refine nearestUnits_of_carry x least (by omega) ?_
    rw [scale]
    exact nearestEven_eq (by positivity) (by omega) (by omega) (by omega)
  · have narrow : lowerGap x = 1 → x.significand * (den * 2 ^ x.scale) ≤ num := by omega
    have gapEq : lowerGap x * (den * 2 ^ x.scale) ≤ 2 * (den * 2 ^ x.scale) :=
      Nat.mul_le_mul_right _ gap.2
    have rounds : nearestEven num (den * 2 ^ x.scale) = x.significand := by
      refine nearestEven_eq step (by omega) (by omega) fun odd => ?_
      have := inside odd
      omega
    have most : num < 2 ^ 53 * (den * 2 ^ x.scale) := by
      rw [Nat.add_mul] at top
      omega
    refine nearestUnits_of_scale x ?_ rounds
    rcases Nat.eq_zero_or_pos x.scale with zero | positive
    · rw [zero] at most ⊢
      exact log2_sub_of_lt hden (by omega)
    · refine log2_sub_of_bounds hden ?_ most
      rcases (by omega : lowerGap x = 1 ∨ lowerGap x = 2) with one | two
      · rw [← (lowerGap_eq_one one).1]
        exact narrow one
      · have floor : (2 ^ 52 + 1) * (den * 2 ^ x.scale) ≤ x.significand * (den * 2 ^ x.scale) :=
          Nat.mul_le_mul_right _ (lowerGap_eq_two two positive)
        rw [Nat.add_mul] at floor
        omega

/-! ### Exact values -/

/-- Whether a magnitude in quarter units lies in an interval. -/
def Interval.Contains (i : Interval) (q : ℚ) : Prop :=
  if i.closed then (i.low : ℚ) ≤ q ∧ q ≤ i.high else (i.low : ℚ) < q ∧ q < i.high

theorem Interval.holds_iff (i : Interval) {c step scale : ℕ} (hscale : 0 < scale) :
    i.holds c step scale ↔ i.Contains ((c * step : ℕ) / scale) := by
  have positive : (0 : ℚ) < scale := by exact_mod_cast hscale
  simp only [Interval.holds, Interval.Contains]
  split_ifs
  · rw [decide_eq_true_iff, le_div_iff₀ positive, div_le_iff₀ positive]
    norm_cast
  · rw [decide_eq_true_iff, lt_div_iff₀ positive, div_lt_iff₀ positive]
    norm_cast

theorem Interval.Contains.le {i : Interval} {q : ℚ} (h : i.Contains q) :
    (i.low : ℚ) ≤ q ∧ q ≤ i.high := by
  simp only [Interval.Contains] at h
  split_ifs at h
  · exact h
  · exact ⟨h.1.le, h.2.le⟩

theorem two_le_interval_low {x : FiniteBinary64} (nonzero : x.significand ≠ 0) :
    2 ≤ (interval x).low := by
  have gap := lowerGap_le x
  have power := Nat.two_pow_pos x.scale
  rw [interval_low]
  calc 2 ≤ 4 * x.significand - lowerGap x := by omega
    _ ≤ (4 * x.significand - lowerGap x) * 2 ^ x.scale := Nat.le_mul_of_pos_right _ power

theorem interval_high_lt (x : FiniteBinary64) : (interval x).high < 2 ^ (55 + 2045) := by
  obtain ⟨bound, range, -⟩ := x.bounds
  have digits : 4 * x.significand + 2 < 2 ^ 55 := by omega
  have power : 2 ^ x.scale ≤ 2 ^ 2045 := pow_le_pow_right₀ one_le_two range
  calc (4 * x.significand + 2) * 2 ^ x.scale < 2 ^ 55 * 2 ^ x.scale :=
        Nat.mul_lt_mul_of_pos_right digits (Nat.two_pow_pos _)
    _ ≤ 2 ^ 55 * 2 ^ 2045 := Nat.mul_le_mul_left _ power
    _ = 2 ^ (55 + 2045) := (pow_add 2 55 2045).symm

end Shortest

/-! ### Decimals -/

namespace Decimal

open Shortest

open FiniteBinary64 (unitsPerOne)

/-- The exact magnitude. -/
def magnitude (d : Decimal) : ℚ := d.mantissa * (10 : ℚ) ^ d.exponent

theorem unitsPerOne_cast : (unitsPerOne : ℚ) = 2 ^ 1074 := by
  rw [unitsPerOne, Nat.pow_eq, Nat.cast_pow, Nat.cast_ofNat]

theorem unitsPerOne_pos : (0 : ℚ) < unitsPerOne := by
  rw [unitsPerOne_cast]
  positivity

theorem magnitude_nonneg (d : Decimal) : 0 ≤ d.magnitude := by
  simp only [magnitude]
  positivity

/-- A number of 310 digits or more is out of range. -/
theorem le_magnitude_of_large {d : Decimal} (nonzero : d.mantissa ≠ 0) (large : 309 ≤ d.exponent) :
    (2 : ℚ) ^ (1074 + 1026) ≤ unitsPerOne * d.magnitude := by
  have one : (1 : ℚ) ≤ d.mantissa := by exact_mod_cast Nat.one_le_iff_ne_zero.2 nonzero
  have digits : 2 ^ 1026 ≤ 10 ^ 309 := by decide +kernel
  have least : (2 : ℚ) ^ 1026 ≤ d.magnitude := by
    calc (2 : ℚ) ^ 1026 ≤ 10 ^ 309 := by exact_mod_cast digits
      _ = (10 : ℚ) ^ ((309 : ℕ) : ℤ) := (zpow_natCast _ _).symm
      _ ≤ (10 : ℚ) ^ d.exponent := zpow_le_zpow_right₀ (by norm_num) large
      _ ≤ d.magnitude := le_mul_of_one_le_left (by positivity) one
  rw [unitsPerOne_cast, pow_add]
  exact mul_le_mul_of_nonneg_left least (by positivity)

/-- A number below half the least positive one is rounded to zero. -/
theorem magnitude_lt_of_small {d : Decimal} (small : (d.mantissa.log2 : ℤ) + 1076 ≤ -3 * d.exponent) :
    unitsPerOne * d.magnitude < 1 / 2 := by
  obtain ⟨n, hn⟩ : ∃ n : ℕ, d.exponent = -(n : ℤ) := ⟨(-d.exponent).toNat, by omega⟩
  have digits : (d.mantissa : ℚ) < 2 ^ (d.mantissa.log2 + 1) := by
    exact_mod_cast Nat.lt_log2_self
  have power : unitsPerOne * (2 : ℚ) ^ (d.mantissa.log2 + 1) * 2 ≤ 10 ^ n := by
    calc unitsPerOne * (2 : ℚ) ^ (d.mantissa.log2 + 1) * 2
        = 2 ^ (1074 + (d.mantissa.log2 + 1) + 1) := by
          rw [unitsPerOne_cast, ← pow_add, ← pow_succ]
      _ ≤ 2 ^ (3 * n) := pow_le_pow_right₀ (by norm_num) (by omega)
      _ = (2 ^ 3) ^ n := pow_mul 2 3 n
      _ ≤ 10 ^ n := pow_le_pow_left₀ (by norm_num) (by norm_num) n
  simp only [magnitude, hn, zpow_neg, zpow_natCast]
  rw [← div_eq_mul_inv, ← mul_div_assoc, div_lt_iff₀ (by positivity)]
  have := mul_lt_mul_of_pos_left digits unitsPerOne_pos
  linarith

/-- A number of 310 digits or more lies above every interval. -/
theorem exponent_lt_of_contains {d : Decimal} {x : FiniteBinary64} (nonzero : d.mantissa ≠ 0)
    (h : (interval x).Contains (4 * unitsPerOne * d.magnitude)) : d.exponent < 309 := by
  by_contra large
  have upper : (2 : ℚ) ^ (1074 + 1026) ≤ (interval x).high := by
    calc (2 : ℚ) ^ (1074 + 1026) ≤ unitsPerOne * d.magnitude :=
          le_magnitude_of_large nonzero (not_lt.1 large)
      _ ≤ 4 * (unitsPerOne * d.magnitude) :=
        le_mul_of_one_le_left (mul_nonneg unitsPerOne_pos.le d.magnitude_nonneg) (by norm_num)
      _ = 4 * unitsPerOne * d.magnitude := by ring
      _ ≤ (interval x).high := h.le.2
  have high : ((interval x).high : ℚ) < 2 ^ (55 + 2045) := by exact_mod_cast interval_high_lt x
  have order : (2 : ℚ) ^ (55 + 2045) ≤ 2 ^ (1074 + 1026) :=
    pow_le_pow_right₀ (by norm_num) (by norm_num)
  exact absurd (high.trans_le order) (not_lt.2 upper)

/-- A number below half the least positive one lies below every interval. -/
theorem not_small_of_contains {d : Decimal} {x : FiniteBinary64} (nonzero : x.significand ≠ 0)
    (h : (interval x).Contains (4 * unitsPerOne * d.magnitude)) :
    -3 * d.exponent < d.mantissa.log2 + 1076 := by
  by_contra large
  have small := magnitude_lt_of_small (not_lt.1 large)
  have low : (2 : ℚ) ≤ (interval x).low := by exact_mod_cast two_le_interval_low nonzero
  have lower : ((interval x).low : ℚ) ≤ 4 * unitsPerOne * d.magnitude := h.le.1
  linarith

/-- A decimal whose magnitude lies in the interval of a number is rounded to it. -/
theorem nearest_of_contains {d : Decimal} (x : FiniteBinary64) (sign : d.negative = x.negative)
    (nonzero : x.significand ≠ 0)
    (h : (interval x).Contains (4 * unitsPerOne * d.magnitude)) : d.nearest = .finite x := by
  have positive : d.mantissa ≠ 0 := by
    intro zero
    have low : (2 : ℚ) ≤ (interval x).low := by exact_mod_cast two_le_interval_low nonzero
    have := h.le.1
    simp only [magnitude, zero, Nat.cast_zero, zero_mul, mul_zero] at this
    linarith
  have large := exponent_lt_of_contains positive h
  have small := not_small_of_contains nonzero h
  simp only [nearest, Nat.pow_eq, if_neg positive, if_neg (not_le.2 large), if_neg (not_le.2 small),
    sign]
  split_ifs with whole
  · obtain ⟨n, hn⟩ := Int.eq_ofNat_of_zero_le whole
    refine nearestUnits_of_holds x nonzero one_pos ((Interval.holds_iff _ one_pos).2 ?_)
    convert h using 1
    simp only [magnitude, hn]
    push_cast
    rw [Int.toNat_natCast, zpow_natCast]
    ring
  · obtain ⟨n, hn⟩ : ∃ n : ℕ, d.exponent = -(n : ℤ) := ⟨(-d.exponent).toNat, by omega⟩
    refine nearestUnits_of_holds x nonzero (by positivity) ((Interval.holds_iff _ (by positivity)).2 ?_)
    convert h using 1
    simp only [magnitude, hn]
    push_cast
    rw [neg_neg, Int.toNat_natCast, zpow_neg, zpow_natCast, div_eq_mul_inv]
    ring

end Decimal

end DetectionMerge
