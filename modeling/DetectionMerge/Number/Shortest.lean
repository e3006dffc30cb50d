import DetectionMerge.Number.Binary64

/-! The shortest decimal that reads back: the fewest digits whose nearest
double precision number is the given one, and of these the digits nearest to
it. -/

namespace DetectionMerge

/-- The decimal `0.d₁d₂… * 10 ^ point`, given by its digits as a natural number. -/
structure ShortDecimal where
  digits : Nat
  count : Nat
  point : Int
  deriving DecidableEq, Repr

namespace Shortest

/-- The decimal point position of a positive number of units: the least `p`
with the number below `10 ^ p`. Multiplied by `10 ^ 324`, the least positive
number exceeds one. -/
def pointOf (units : Nat) : Int :=
  ((Nat.toDigits 10 (units * Nat.pow 10 324 / FiniteBinary64.unitsPerOne)).length : Int) - 324

/-- A positive number and the numbers that round to it, in quarter units: the
number, the ends of the interval, and whether the ends belong to it. -/
structure Interval where
  value : Nat
  low : Nat
  high : Nat
  closed : Bool

/-- The interval of a number that is not zero. The gap below a power of two is
half the gap above it. -/
def interval (x : FiniteBinary64) : Interval where
  value := 4 * x.magnitude
  low := (if x.significand = Nat.pow 2 52 ∧ 0 < x.scale then 4 * x.significand - 1
    else 4 * x.significand - 2) * Nat.pow 2 x.scale
  high := (4 * x.significand + 2) * Nat.pow 2 x.scale
  closed := x.significand % 2 = 0

/-- Whether `c * step / scale` quarter units lies in an interval. -/
def Interval.holds (i : Interval) (c step scale : Nat) : Bool :=
  if i.closed then i.low * scale ≤ c * step ∧ c * step ≤ i.high * scale
  else i.low * scale < c * step ∧ c * step < i.high * scale

/-- The nearest of the value's two neighbours on a decimal grid that lies in
the interval, the even one of two equally near. A grid step is `step / scale`
quarter units. -/
def onGrid (i : Interval) (step scale : Nat) : Option Nat :=
  let value := i.value * scale
  let below := value / step
  let twice := 2 * (value % step)
  let above := below + 1
  let downFirst := twice < step ∨ (twice = step ∧ below % 2 = 0)
  let (near, far) := if downFirst then (below, above) else (above, below)
  if i.holds near step scale then some near
  else if i.holds far step scale then some far
  else none

/-- The first grid, from `count` digits on, with a point in the interval. -/
def search (i : Interval) (point : Int) (count : Nat) : Nat → ShortDecimal
  | 0 => ⟨0, 0, point⟩
  | more + 1 =>
    let exponent := point - count
    let quarters := 4 * FiniteBinary64.unitsPerOne
    let found := if 0 ≤ exponent then onGrid i (quarters * Nat.pow 10 exponent.toNat) 1
      else onGrid i quarters (Nat.pow 10 (-exponent).toNat)
    match found with
    | some c => if c = Nat.pow 10 count then ⟨1, 1, point + 1⟩ else ⟨c, count, point⟩
    | none => search i point (count + 1) more

end Shortest

/-- The shortest decimal of a finite number's magnitude. Seventeen digits
always suffice. -/
def FiniteBinary64.shortest (x : FiniteBinary64) : ShortDecimal :=
  if x.significand = 0 then ⟨0, 1, 1⟩
  else Shortest.search (Shortest.interval x) (Shortest.pointOf x.magnitude) 1 17

end DetectionMerge
