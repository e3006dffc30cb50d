import DetectionMerge.Proofs.Number.Rounding

/-! The shortest decimal reads back. The search tries grids of one digit, two
digits and so on; a point that it finds lies in the number's interval, and the
grid of seventeen digits always has one, since half its step is less than the
smaller gap of the interval. -/

namespace DetectionMerge

open FiniteBinary64 (unitsPerOne)
open Decimal (unitsPerOne_pos)

def ShortDecimal.magnitude (r : ShortDecimal) : ℚ := r.digits * (10 : ℚ) ^ (r.point - r.count)

namespace Shortest

/-! ### The decimal point -/

/-- A positive number of units has this many digits before the point. -/
theorem pointOf_bounds {units : ℕ} (positive : 0 < units) :
    (10 : ℚ) ^ (pointOf units - 1) ≤ units / unitsPerOne ∧
      (units : ℚ) / unitsPerOne < 10 ^ pointOf units := by
  have one : unitsPerOne ≤ 10 ^ 324 := by decide +kernel
  have hU : 0 < unitsPerOne := by exact_mod_cast unitsPerOne_pos
  rw [pointOf, Nat.pow_eq]
  obtain ⟨n, hn⟩ : ∃ n, units * 10 ^ 324 / unitsPerOne = n := ⟨_, rfl⟩
  rw [hn]
  set L := (Nat.toDigits 10 n).length with hlength
  have hL : 0 < L := Nat.length_toDigits_pos
  have nonzero : 1 ≤ n := by
    rw [← hn, Nat.one_le_div_iff hU]
    exact one.trans (Nat.le_mul_of_pos_left _ positive)
  have least : 10 ^ (L - 1) ≤ n := by
    rcases Nat.eq_or_lt_of_le (show 1 ≤ L from hL) with h | h
    · rwa [← h, Nat.sub_self, pow_zero]
    · by_contra small
      have := (Nat.length_toDigits_le_iff (by norm_num) (by omega)).2 (not_le.1 small)
      omega
  have most : n < 10 ^ L := (Nat.length_toDigits_le_iff (by norm_num) hL).1 le_rfl
  rw [← hn, Nat.le_div_iff_mul_le hU] at least
  rw [← hn, Nat.div_lt_iff_lt_mul hU] at most
  have low : (10 : ℚ) ^ (L - 1) * unitsPerOne ≤ units * 10 ^ 324 := by exact_mod_cast least
  have high : (units : ℚ) * 10 ^ 324 < 10 ^ L * unitsPerOne := by exact_mod_cast most
  have shift : (10 : ℚ) ^ (324 : ℕ) ≠ 0 := by positivity
  constructor
  · rw [le_div_iff₀ unitsPerOne_pos, show (L : ℤ) - 324 - 1 = ((L - 1 : ℕ) : ℤ) - (324 : ℕ) by omega,
      zpow_sub₀ (by norm_num), zpow_natCast, zpow_natCast, div_mul_eq_mul_div,
      div_le_iff₀ (by positivity)]
    exact low
  · rw [div_lt_iff₀ unitsPerOne_pos, show (L : ℤ) - 324 = (L : ℤ) - (324 : ℕ) by omega,
      zpow_sub₀ (by norm_num), zpow_natCast, zpow_natCast, div_mul_eq_mul_div,
      lt_div_iff₀ (by positivity)]
    exact high

/-! ### One grid -/

theorem Interval.holds_of_lt {i : Interval} {c step scale : ℕ} (low : i.low * scale < c * step)
    (high : c * step < i.high * scale) : i.holds c step scale := by
  simp only [Interval.holds]
  split_ifs
  · exact decide_eq_true ⟨low.le, high.le⟩
  · exact decide_eq_true ⟨low, high⟩

/-- A point found on a grid lies in the interval, next to the value. -/
theorem onGrid_eq_some {i : Interval} {step scale c : ℕ} (h : onGrid i step scale = some c) :
    i.holds c step scale ∧
      i.value * scale / step ≤ c ∧ c ≤ i.value * scale / step + 1 := by
  simp only [onGrid] at h
  split_ifs at h with down near far near far
  · cases h
    exact ⟨near, by omega, by omega⟩
  · cases h
    exact ⟨far, by omega, by omega⟩
  · cases h
    exact ⟨near, by omega, by omega⟩
  · cases h
    exact ⟨far, by omega, by omega⟩

/-- A grid finer than twice both gaps has a point in the interval. -/
theorem onGrid_isSome {i : Interval} {step scale : ℕ} (hstep : 0 < step)
    (low : 2 * (i.low * scale) + step < 2 * (i.value * scale))
    (high : 2 * (i.value * scale) + step < 2 * (i.high * scale)) :
    (onGrid i step scale).isSome := by
  have division := Nat.div_add_mod' (i.value * scale) step
  have remainder := Nat.mod_lt (i.value * scale) hstep
  simp only [onGrid]
  split_ifs with down near far near far
  · rfl
  · rfl
  · refine absurd (Interval.holds_of_lt ?_ ?_) near <;>
    · dsimp only
      omega
  · rfl
  · rfl
  · refine absurd (Interval.holds_of_lt ?_ ?_) near <;>
    · dsimp only
      rw [Nat.add_mul, Nat.one_mul]
      omega

/-! ### The grid of an exponent -/

/-- The step of the grid of multiples of `10 ^ exponent`, in quarter units. -/
def gridStep (exponent : ℤ) : ℕ := 4 * unitsPerOne * 10 ^ exponent.toNat

/-- What the steps of that grid are divided by. -/
def gridScale (exponent : ℤ) : ℕ := 10 ^ (-exponent).toNat

theorem gridScale_pos (exponent : ℤ) : 0 < gridScale exponent := by
  simp only [gridScale]
  positivity

theorem gridStep_pos (exponent : ℤ) : 0 < gridStep exponent := by
  have : 0 < unitsPerOne := by exact_mod_cast unitsPerOne_pos
  simp only [gridStep]
  positivity

theorem gridStep_div (exponent : ℤ) :
    (gridStep exponent : ℚ) / gridScale exponent = 4 * unitsPerOne * 10 ^ exponent := by
  simp only [gridStep, gridScale]
  push_cast
  rcases le_total 0 exponent with h | h
  · obtain ⟨n, rfl⟩ := Int.eq_ofNat_of_zero_le h
    rw [show (-(n : ℤ)).toNat = 0 by omega, Int.toNat_natCast, pow_zero, div_one, zpow_natCast]
  · obtain ⟨n, hn⟩ := Int.eq_ofNat_of_zero_le (Int.neg_nonneg.2 h)
    obtain rfl : exponent = -(n : ℤ) := by omega
    rw [show (-(n : ℤ)).toNat = 0 by omega, neg_neg, Int.toNat_natCast, pow_zero, mul_one,
      zpow_neg, zpow_natCast, div_eq_mul_inv]

/-- The search has one form for the grids on both sides of the point. -/
theorem search_succ (i : Interval) (point : ℤ) (count more : ℕ) :
    search i point count (more + 1) =
      match onGrid i (gridStep (point - count)) (gridScale (point - count)) with
      | some c => if c = 10 ^ count then ⟨1, 1, point + 1⟩ else ⟨c, count, point⟩
      | none => search i point (count + 1) more := by
  simp only [search, gridStep, gridScale, Nat.pow_eq]
  split_ifs with h
  · have noScale : (-(point - count)).toNat = 0 := by omega
    cases found : onGrid i (4 * unitsPerOne * 10 ^ (point - count).toNat) 1 <;>
      simp only [noScale, pow_zero, found]
  · have noStep : (point - count).toNat = 0 := by omega
    cases found : onGrid i (4 * unitsPerOne) (10 ^ (-(point - count)).toNat) <;>
      simp only [noStep, pow_zero, mul_one, found]

/-! ### The search -/

section Search

variable {x : FiniteBinary64}

theorem magnitude_pos (nonzero : x.significand ≠ 0) : 0 < x.magnitude :=
  Nat.mul_pos (Nat.pos_of_ne_zero nonzero) (Nat.two_pow_pos _)

/-- On the grid of so many digits the number has so many digits. -/
theorem grid_bounds (nonzero : x.significand ≠ 0) {count : ℕ} (hcount : 0 < count) :
    10 ^ (count - 1) * gridStep (pointOf x.magnitude - count) ≤
        (interval x).value * gridScale (pointOf x.magnitude - count) ∧
      (interval x).value * gridScale (pointOf x.magnitude - count) <
        10 ^ count * gridStep (pointOf x.magnitude - count) := by
  obtain ⟨low, high⟩ := pointOf_bounds (magnitude_pos nonzero)
  rw [le_div_iff₀ unitsPerOne_pos] at low
  rw [div_lt_iff₀ unitsPerOne_pos] at high
  have scalePos : (0 : ℚ) < gridScale (pointOf x.magnitude - count) := by
    exact_mod_cast gridScale_pos _
  have step := gridStep_div (pointOf x.magnitude - count)
  rw [div_eq_iff scalePos.ne'] at step
  have value : ((interval x).value : ℚ) = 4 * x.magnitude := by
    simp only [interval, Nat.pow_eq]
    push_cast
    rfl
  have shift (k : ℕ) : (10 : ℚ) ^ k * 10 ^ (pointOf x.magnitude - count) =
      10 ^ (pointOf x.magnitude - count + k) := by
    rw [← zpow_natCast, ← zpow_add₀ (by norm_num), add_comm]
  constructor
  · have : (10 : ℚ) ^ (count - 1) * gridStep (pointOf x.magnitude - count) ≤
        (interval x).value * gridScale (pointOf x.magnitude - count) := by
      rw [step, value]
      calc (10 : ℚ) ^ (count - 1) * (4 * unitsPerOne * 10 ^ (pointOf x.magnitude - count) *
            gridScale (pointOf x.magnitude - count))
          = 4 * (10 ^ (count - 1) * 10 ^ (pointOf x.magnitude - count) * unitsPerOne) *
            gridScale (pointOf x.magnitude - count) := by ring
        _ = 4 * (10 ^ (pointOf x.magnitude - 1) * unitsPerOne) *
            gridScale (pointOf x.magnitude - count) := by
          rw [shift, show pointOf x.magnitude - count + (count - 1 : ℕ) =
            pointOf x.magnitude - 1 by omega]
        _ ≤ 4 * x.magnitude * gridScale (pointOf x.magnitude - count) := by gcongr
    exact_mod_cast this
  · have : ((interval x).value : ℚ) * gridScale (pointOf x.magnitude - count) <
        10 ^ count * gridStep (pointOf x.magnitude - count) := by
      rw [step, value]
      calc 4 * (x.magnitude : ℚ) * gridScale (pointOf x.magnitude - count)
          < 4 * (10 ^ pointOf x.magnitude * unitsPerOne) *
            gridScale (pointOf x.magnitude - count) := by gcongr
        _ = 4 * (10 ^ count * 10 ^ (pointOf x.magnitude - count) * unitsPerOne) *
            gridScale (pointOf x.magnitude - count) := by rw [shift, sub_add_cancel]
        _ = 10 ^ count * (4 * unitsPerOne * 10 ^ (pointOf x.magnitude - count) *
            gridScale (pointOf x.magnitude - count)) := by ring
    exact_mod_cast this

theorem significand_le_lowerGap (x : FiniteBinary64) : x.significand ≤ lowerGap x * 2 ^ 52 := by
  have bound : x.significand < 2 ^ 53 := x.bounds.1
  simp only [lowerGap]
  split_ifs with least
  · omega
  · omega

/-- The grid of seventeen digits has a point in the interval. -/
theorem onGrid_seventeen (nonzero : x.significand ≠ 0) :
    (onGrid (interval x) (gridStep (pointOf x.magnitude - (17 : ℕ)))
      (gridScale (pointOf x.magnitude - (17 : ℕ)))).isSome := by
  obtain ⟨enough, -⟩ := grid_bounds nonzero (show 0 < 17 by norm_num)
  have hstep := gridStep_pos (pointOf x.magnitude - (17 : ℕ))
  have hscale := gridScale_pos (pointOf x.magnitude - (17 : ℕ))
  generalize gridStep (pointOf x.magnitude - (17 : ℕ)) = step at enough hstep ⊢
  generalize gridScale (pointOf x.magnitude - (17 : ℕ)) = scale at enough hscale ⊢
  have gap := lowerGap_le x
  have lower := interval_low_mul nonzero scale
  have upper := interval_high_mul x scale
  have value : (interval x).value * scale = 4 * (x.significand * (scale * 2 ^ x.scale)) := by
    simp only [interval, FiniteBinary64.magnitude, Nat.pow_eq]
    ring
  rw [value] at enough
  have positive : 0 < scale * 2 ^ x.scale := by positivity
  -- all is linear in this unit and its product with the gap
  generalize scale * 2 ^ x.scale = unit at *
  have most : x.significand * unit ≤ lowerGap x * 2 ^ 52 * unit :=
    Nat.mul_le_mul_right unit (significand_le_lowerGap x)
  have swap : lowerGap x * 2 ^ 52 * unit = 2 ^ 52 * (lowerGap x * unit) := by ring
  have gapPos : unit ≤ lowerGap x * unit := Nat.le_mul_of_pos_left unit gap.1
  have gapTwo : lowerGap x * unit ≤ 2 * unit := Nat.mul_le_mul_right unit gap.2
  exact onGrid_isSome hstep (by omega) (by omega)

/-- What the search finds: a decimal of at most seventeen digits, none of them a
leading zero, whose magnitude lies in the interval. -/
structure Found (x : FiniteBinary64) (r : ShortDecimal) : Prop where
  positive : 0 < r.count
  seventeen : r.count ≤ 17
  least : 10 ^ (r.count - 1) ≤ r.digits
  most : r.digits < 10 ^ r.count
  contains : (interval x).Contains (4 * unitsPerOne * r.magnitude)

theorem contains_of_onGrid {i : Interval} {exponent : ℤ} {c : ℕ}
    (h : onGrid i (gridStep exponent) (gridScale exponent) = some c) :
    i.Contains (4 * unitsPerOne * (c * 10 ^ exponent)) := by
  have := (Interval.holds_iff i (gridScale_pos exponent)).1 (onGrid_eq_some h).1
  rw [Nat.cast_mul, mul_div_assoc, gridStep_div] at this
  convert this using 1
  ring

theorem found_search (nonzero : x.significand ≠ 0) {count more : ℕ} (positive : 0 < count)
    (sum : count + more = 18) (seventeen : count ≤ 17) :
    Found x (search (interval x) (pointOf x.magnitude) count more) := by
  induction more generalizing count with
  | zero => omega
  | succ more ih =>
    rw [search_succ]
    cases h : onGrid (interval x) (gridStep (pointOf x.magnitude - count))
        (gridScale (pointOf x.magnitude - count)) with
    | none =>
      have last : count ≠ 17 := by
        rintro rfl
        have := onGrid_seventeen nonzero
        rw [h] at this
        simp at this
      exact ih (by omega) (by omega) (by omega)
    | some c =>
      obtain ⟨low, high⟩ := grid_bounds nonzero positive
      have hstep := gridStep_pos (pointOf x.magnitude - count)
      rw [← Nat.le_div_iff_mul_le hstep] at low
      rw [← Nat.div_lt_iff_lt_mul hstep] at high
      obtain ⟨-, lower, upper⟩ := onGrid_eq_some h
      have contains := contains_of_onGrid h
      dsimp only
      split_ifs with carry
      · refine ⟨by norm_num, by norm_num, by norm_num, by norm_num, ?_⟩
        convert contains using 2
        simp only [ShortDecimal.magnitude, carry]
        push_cast
        rw [← zpow_natCast (10 : ℚ) count, ← zpow_add₀ (by norm_num), one_mul,
          add_sub_cancel_right, add_sub_cancel]
      · have most : c < 10 ^ count := lt_of_le_of_ne (upper.trans high) carry
        exact ⟨positive, seventeen, low.trans lower, most, contains⟩

end Search

end Shortest

/-- The shortest decimal of a number that is not zero lies in its interval. -/
theorem FiniteBinary64.found_shortest (x : FiniteBinary64) (nonzero : x.significand ≠ 0) :
    Shortest.Found x x.shortest := by
  simp only [FiniteBinary64.shortest, if_neg nonzero]
  exact Shortest.found_search nonzero one_pos rfl (by norm_num)

end DetectionMerge
