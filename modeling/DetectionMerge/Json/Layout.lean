import DetectionMerge.Number.Shortest

/-! How a double precision number is written in JSON text. -/

namespace DetectionMerge

/-- The decisions that a shortest decimal leaves open. Digits are written in place if the
decimal point lies in a range of positions, and other numbers have an exponent. -/
structure RealLayout where
  /-- The range begins right of this position. -/
  above : Int
  /-- The range ends at this position. -/
  upTo : Int
  /-- What stands before a positive exponent. -/
  positiveMark : List Char
  /-- The text of numbers that are not finite. -/
  nonFinite : List Char

/-- JSON text has digits in place from `0.00001` to just below `10 ^ 16`, marks
the sign of every exponent, and writes `null` for a number that is not finite. -/
def Json.realLayout : RealLayout where
  above := -5
  upTo := 16
  positiveMark := ['+']
  nonFinite := ['n', 'u', 'l', 'l']

namespace RealLayout

def integer (n : Int) : List Char :=
  if n < 0 then '-' :: Nat.toDigits 10 n.natAbs else Nat.toDigits 10 n.natAbs

/-- The text of a shortest decimal. A number written in place always has a
fraction. -/
def decimal (layout : RealLayout) (d : ShortDecimal) : List Char :=
  let digits := Nat.toDigits 10 d.digits
  if layout.above < d.point ∧ d.point ≤ layout.upTo then
    if d.point ≤ 0 then '0' :: '.' :: List.replicate (-d.point).toNat '0' ++ digits
    else
      let whole := d.point.toNat
      if digits.length ≤ whole then
        digits ++ List.replicate (whole - digits.length) '0' ++ ['.', '0']
      else digits.take whole ++ '.' :: digits.drop whole
  else
    let exponent := d.point - 1
    let mark := if 0 ≤ exponent then layout.positiveMark else []
    let fraction := if digits.length ≤ 1 then [] else '.' :: digits.drop 1
    digits.take 1 ++ fraction ++ 'e' :: mark ++ integer exponent

def real (layout : RealLayout) : Binary64 → List Char
  | .finite x => (if x.negative then ['-'] else []) ++ layout.decimal x.shortest
  | _ => layout.nonFinite

end RealLayout

end DetectionMerge
