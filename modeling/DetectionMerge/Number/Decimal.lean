import DetectionMerge.Number.Binary64

/-! Exact decimal numbers, and the double precision number nearest to one. -/

namespace DetectionMerge

/-- The number `± mantissa * 10 ^ exponent`. -/
structure Decimal where
  negative : Bool
  mantissa : Nat
  exponent : Int
  deriving DecidableEq, Repr

namespace Decimal

/-- The nearest double precision number, an infinity on overflow. The first
three cases are shortcuts: from `10 ^ 309` on every number overflows, and below
`2 ^ (-1075)`, half the least positive number, every number is rounded to zero. -/
def nearest (d : Decimal) : Binary64 :=
  if d.mantissa = 0 then .zero d.negative
  else if 309 ≤ d.exponent then .infinite d.negative
  else if (d.mantissa.log2 : Int) + 1076 ≤ -3 * d.exponent then .zero d.negative
  else if 0 ≤ d.exponent then .nearest d.negative (d.mantissa * Nat.pow 10 d.exponent.toNat) 1
  else .nearest d.negative d.mantissa (Nat.pow 10 (-d.exponent).toNat)

/-- The nearest double precision number, if it is finite. -/
def finite? (d : Decimal) : Option Binary64 :=
  if d.nearest.isFinite then some d.nearest else none

end Decimal

end DetectionMerge
