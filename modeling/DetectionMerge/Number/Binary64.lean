/-! Double precision numbers (IEEE 754 binary64) in exact arithmetic. A finite
number is a significand times a power of two, counted in units of `2 ^ (-1074)`,
so every finite number is an integer and rounding is a division of natural
numbers. There is one NaN. -/

namespace DetectionMerge

/-- Significand and scale of a finite number: fewer than 54 bits, within the
exponent range, and normalized unless the number is subnormal. -/
def CanonicalSignificand (significand scale : Nat) : Prop :=
  significand < Nat.pow 2 53 ∧ scale ≤ 2045 ∧ (scale = 0 ∨ Nat.pow 2 52 ≤ significand)

instance (significand scale : Nat) : Decidable (CanonicalSignificand significand scale) :=
  inferInstanceAs (Decidable (_ ∧ _ ∧ _))

/-- A finite number: its magnitude is `significand * 2 ^ scale` units. -/
structure FiniteBinary64 where
  negative : Bool
  significand : Nat
  scale : Nat
  canonical : CanonicalSignificand significand scale
  deriving DecidableEq

inductive Binary64
  | finite (x : FiniteBinary64)
  | infinite (negative : Bool)
  | nan
  deriving DecidableEq

/-- The natural number nearest to `a / b`, the even one of two equally near. -/
def nearestEven (a b : Nat) : Nat :=
  let q := a / b
  let twice := 2 * (a % b)
  if b < twice ∨ (twice = b ∧ q % 2 = 1) then q + 1 else q

namespace FiniteBinary64

def zero (negative : Bool) : FiniteBinary64 := ⟨negative, 0, 0, by decide⟩

instance : Inhabited FiniteBinary64 := ⟨zero false⟩

/-- The magnitude in units. -/
def magnitude (x : FiniteBinary64) : Nat := x.significand * Nat.pow 2 x.scale

/-- The value in units. -/
def units (x : FiniteBinary64) : Int := if x.negative then -x.magnitude else x.magnitude

/-- How many units make one. -/
def unitsPerOne : Nat := Nat.pow 2 1074

/-- The integer part: the value without its fraction. -/
def truncate (x : FiniteBinary64) : Int := x.units.tdiv unitsPerOne

end FiniteBinary64

namespace Binary64

instance : Inhabited Binary64 := ⟨.finite default⟩

def zero (negative : Bool) : Binary64 := .finite (.zero negative)

/-- The number with this significand and scale, or an infinity where they
exceed the range. -/
def ofParts (negative : Bool) (significand scale : Nat) : Binary64 :=
  if h : CanonicalSignificand significand scale then .finite ⟨negative, significand, scale, h⟩
  else .infinite negative

/-- The number nearest to `± num / den` units. The scale leaves 53 bits before
the point; rounding up to 54 bits moves to the next scale. -/
def nearestUnits (negative : Bool) (num den : Nat) : Binary64 :=
  let scale := (num / den).log2 - 52
  let significand := nearestEven num (den * Nat.pow 2 scale)
  if significand = Nat.pow 2 53 then ofParts negative (Nat.pow 2 52) (scale + 1)
  else ofParts negative significand scale

/-- The number nearest to `± num / den`. -/
def nearest (negative : Bool) (num den : Nat) : Binary64 :=
  nearestUnits negative (num * FiniteBinary64.unitsPerOne) den

/-- The difference of two numbers, rounded to nearest. A difference of zero is
positive unless it is `-0 - 0`. -/
def sub : Binary64 → Binary64 → Binary64
  | .finite x, .finite y =>
    let difference := x.units - y.units
    if difference = 0 then zero (x.negative && !y.negative)
    else nearestUnits (decide (difference < 0)) difference.natAbs 1
  | .infinite n, .finite _ => .infinite n
  | .finite _, .infinite n => .infinite !n
  | .infinite n, .infinite m => if n = m then .nan else .infinite n
  | .nan, _ => .nan
  | _, .nan => .nan

instance : Sub Binary64 := ⟨sub⟩

def isFinite : Binary64 → Bool
  | .finite _ => true
  | _ => false

/-! ### The 64 bits -/

/-- The interchange format: sign, eleven bits of exponent, 52 bits of fraction. -/
def toBits : Binary64 → UInt64
  | .finite x =>
    let rest := if x.significand < Nat.pow 2 52 then x.significand
      else (x.scale + 1) * Nat.pow 2 52 + (x.significand - Nat.pow 2 52)
    UInt64.ofNat ((if x.negative then Nat.pow 2 63 else 0) + rest)
  | .infinite negative => if negative then 0xFFF0000000000000 else 0x7FF0000000000000
  | .nan => 0x7FF8000000000000

/-- The number that 64 bits stand for. -/
def ofBits (bits : UInt64) : Binary64 :=
  let negative := decide (Nat.pow 2 63 ≤ bits.toNat)
  let exponent := bits.toNat / Nat.pow 2 52 % Nat.pow 2 11
  let fraction := bits.toNat % Nat.pow 2 52
  if exponent = 2047 then
    if fraction = 0 then .infinite negative else .nan
  else if exponent = 0 then ofParts negative fraction 0
  else ofParts negative (Nat.pow 2 52 + fraction) (exponent - 1)

end Binary64

end DetectionMerge
