import DetectionMerge.Number.Decimal
import DetectionMerge.Toml.Text
import DetectionMerge.Toml.Value

/-! The numbers, dates and times of TOML. -/

namespace DetectionMerge.Toml

/-! ### Numbers -/

def isDigit (c : Char) : Bool := '0' ≤ c ∧ c ≤ '9'

/-- The digits that follow a digit; single underscores may stand between. -/
def moreDigits (p : Char → Bool) : List Char → List Char × List Char
  | '_' :: c :: rest =>
    if p c then
      let (digits, rest) := moreDigits p rest
      (c :: digits, rest)
    else ([], '_' :: c :: rest)
  | c :: rest =>
    if p c then
      let (digits, rest) := moreDigits p rest
      (c :: digits, rest)
    else ([], c :: rest)
  | [] => ([], [])

/-- A run of digits, without its underscores. -/
def digits? (p : Char → Bool) : List Char → Option (List Char × List Char)
  | c :: rest =>
    if p c then
      let (digits, rest) := moreDigits p rest
      some (c :: digits, rest)
    else none
  | [] => none

def valueIn (base : Nat) (digits : List Char) : Nat :=
  digits.foldl (fun n c => base * n + (Text.hexDigit? c).getD 0) 0

/-- A sign, if there is one: whether it is a minus. -/
def sign : List Char → Bool × List Char
  | '+' :: rest => (false, rest)
  | '-' :: rest => (true, rest)
  | cs => (false, cs)

/-- The digits before a point: no zero stands before another digit. -/
def whole? : List Char → Option (List Char × List Char)
  | '0' :: rest => some (['0'], rest)
  | cs => digits? isDigit cs

def fits (n : Int) : Bool := Int64.minValue.toInt ≤ n ∧ n ≤ Int64.maxValue.toInt

def basedInteger? : List Char → Option (Value × List Char)
  | '0' :: mark :: rest => do
    let (base, p) ← (match mark with
      | 'x' => some (16, fun c => (Text.hexDigit? c).isSome)
      | 'o' => some (8, fun c => '0' ≤ c ∧ c ≤ '7')
      | 'b' => some (2, fun c => '0' ≤ c ∧ c ≤ '1')
      | _ => none : Option (Nat × (Char → Bool)))
    let (digits, rest) ← digits? p rest
    if fits (valueIn base digits) then some (.integer (valueIn base digits), rest) else none
  | _ => none

def integer? (cs : List Char) : Option (Value × List Char) :=
  (basedInteger? cs).or do
    let (negative, rest) := sign cs
    let (digits, rest) ← whole? rest
    let n : Int := if negative then -(valueIn 10 digits : Int) else valueIn 10 digits
    if fits n then some (.integer n, rest) else none

/-- A fraction, after the digits before its point. -/
def fraction? : List Char → Option (List Char × List Char)
  | '.' :: rest => digits? isDigit rest
  | _ => none

def exponent? : List Char → Option (Int × List Char)
  | c :: rest =>
    if c = 'e' ∨ c = 'E' then do
      let (negative, rest) := sign rest
      let (digits, rest) ← digits? isDigit rest
      return (if negative then -(valueIn 10 digits : Int) else valueIn 10 digits, rest)
    else none
  | [] => none

/-- Infinity and NaN. -/
def specialReal? (cs : List Char) : Option (Value × List Char) :=
  let (negative, rest) := sign cs
  match rest with
  | 'i' :: 'n' :: 'f' :: rest => some (.real (.infinite negative), rest)
  | 'n' :: 'a' :: 'n' :: rest => some (.real .nan, rest)
  | _ => none

/-- A real number: digits with a fraction or an exponent. One that exceeds the
range upward is none. -/
def markedReal? (cs : List Char) : Option (Value × List Char) := do
  let (negative, rest) := sign cs
  let (whole, rest) ← whole? rest
  let fraction := fraction? rest
  let (digits, rest) := fraction.getD ([], rest)
  let exponent := exponent? rest
  let (power, rest) := exponent.getD (0, rest)
  let x := Decimal.nearest ⟨negative, valueIn 10 (whole ++ digits), power - digits.length⟩
  if (fraction.isSome ∨ exponent.isSome) ∧ x ≠ Binary64.infinite false then some (.real x, rest)
  else none

def real? (cs : List Char) : Option (Value × List Char) := (markedReal? cs).or (specialReal? cs)

/-! ### Dates and times -/

/-- A number of exactly so many digits within bounds. -/
def fixed? (count low high : Nat) (cs : List Char) : Option (Nat × List Char) :=
  let digits := cs.take count
  let n := valueIn 10 digits
  if digits.length = count ∧ digits.all isDigit ∧ low ≤ n ∧ n ≤ high then some (n, cs.drop count)
  else none

/-- What follows a character. -/
def after? (c : Char) : List Char → Option (List Char)
  | d :: rest => if c = d then some rest else none
  | [] => none

def daysIn (year month : Nat) : Nat :=
  if month = 2 then
    if year % 4 = 0 ∧ (year % 100 ≠ 0 ∨ year % 400 = 0) then 29 else 28
  else if month = 4 ∨ month = 6 ∨ month = 9 ∨ month = 11 then 30
  else 31

def date? (cs : List Char) : Option (List Char) := do
  let (year, rest) ← fixed? 4 0 9999 cs
  let (month, rest) ← fixed? 2 1 12 (← after? '-' rest)
  let (_, rest) ← fixed? 2 1 (daysIn year month) (← after? '-' rest)
  return rest

/-- What follows a time of day. A leap second is allowed. -/
def time? (cs : List Char) : Option (List Char) := do
  let (_, rest) ← fixed? 2 0 23 cs
  let (_, rest) ← fixed? 2 0 59 (← after? ':' rest)
  let (_, rest) ← fixed? 2 0 60 (← after? ':' rest)
  match rest with
  | '.' :: c :: more => if isDigit c then return more.dropWhile isDigit else return rest
  | _ => return rest

def offset? : List Char → Option (List Char)
  | c :: rest =>
    if c = 'Z' ∨ c = 'z' then some rest
    else if c = '+' ∨ c = '-' then do
      let (_, rest) ← fixed? 2 0 23 rest
      let (_, rest) ← fixed? 2 0 59 (← after? ':' rest)
      return rest
    else none
  | [] => none

/-- What follows the time of a date, after `T` or a space. -/
def timeOfDate? : List Char → Option (List Char)
  | c :: rest =>
    if c = 'T' ∨ c = 't' ∨ c = ' ' then
      (time? rest).map fun rest => (offset? rest).getD rest
    else none
  | [] => none

def moment? (cs : List Char) : Option (Value × List Char) :=
  (((date? cs).map fun rest => (timeOfDate? rest).getD rest).or (time? cs)).map fun rest =>
    (.moment, rest)

/-! ### Scalars -/

def boolean? : List Char → Option (Value × List Char)
  | 't' :: 'r' :: 'u' :: 'e' :: rest => some (.boolean true, rest)
  | 'f' :: 'a' :: 'l' :: 's' :: 'e' :: rest => some (.boolean false, rest)
  | _ => none

/-- A value that holds no others. -/
def scalar? (cs : List Char) : Option (Value × List Char) :=
  ((text? cs).map fun (s, rest) => (.text s, rest)).or
    ((boolean? cs).or ((moment? cs).or ((real? cs).or (integer? cs))))

end DetectionMerge.Toml
