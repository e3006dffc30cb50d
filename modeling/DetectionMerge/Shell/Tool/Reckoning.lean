import DetectionMerge.Shell.Tool.Search

/-! Tools that reckon: `seq` and `expr`. -/

namespace DetectionMerge.Shell

/-! ### Sequences -/

/-- A decimal number: an integer, and how many of its digits stand behind the
point. -/
structure Fixed where
  digits : Int
  places : Nat
  deriving DecidableEq, Repr

namespace Fixed

def ofText? (cs : Octets) : Option Fixed :=
  let (minus, rest) : Bool × Octets := match cs with
    | '-' :: rest => (true, rest)
    | '+' :: rest => (false, rest)
    | rest => (false, rest)
  let (whole, fraction) : Octets × Octets := match Text.splitAt '.' rest with
    | [whole, fraction] => (whole, fraction)
    | _ => (rest, [])
  (Text.natural? (whole ++ fraction)).map fun n =>
    ⟨if minus then -(n : Int) else n, fraction.length⟩

def scaled (x : Fixed) (places : Nat) : Int := x.digits * (Nat.pow 10 (places - x.places) : Nat)

/-- The text of an integer with a point before its last places. -/
def text (places : Nat) (n : Int) : Octets :=
  let digits := Nat.toDigits 10 n.natAbs
  let digits := List.replicate (places + 1 - digits.length) '0' ++ digits
  let whole := digits.take (digits.length - places)
  (if n < 0 then ['-'] else []) ++ whole ++
    if places = 0 then [] else '.' :: digits.drop whole.length

end Fixed

/-- The numbers from one to another in steps, at most so many. -/
def stepsFrom (step last : Int) : Nat → Int → List Int
  | 0, _ => []
  | fuel + 1, n =>
    if (step > 0 ∧ n > last) ∨ (step < 0 ∧ n < last) then []
    else n :: stepsFrom step last fuel (n + step)

/-- Numbers of the same width, by zeros behind their signs. -/
def evened (texts : List Octets) : List Octets :=
  let width := (texts.map List.length).foldl max 0
  texts.map fun text =>
    let zeros := List.replicate (width - text.length) '0'
    match text with
    | '-' :: rest => '-' :: zeros ++ rest
    | text => zeros ++ text

/-- The switches of `seq` in front of its numbers. -/
def sequenceSwitches (separator : Octets) (even : Bool) : List Octets → Octets × Bool × List Octets
  | ['-', '-'] :: rest => (separator, even, rest)
  | ['-', 's'] :: value :: rest => sequenceSwitches value even rest
  | ('-' :: 's' :: c :: cs) :: rest => sequenceSwitches (c :: cs) even rest
  | ['-', 'w'] :: rest => sequenceSwitches separator true rest
  | rest => (separator, even, rest)

/-- `seq`. -/
def sequence : Tool := fun call =>
  let (separator, even, arguments) := sequenceSwitches ['\n'] false call.arguments
  let run (first step last : Fixed) : Effect :=
    let places := max first.places step.places
    let scale := max places last.places
    let (start, stride, stop) := (first.scaled scale, step.scaled scale, last.scaled scale)
    let numbers := stepsFrom stride stop ((stop - start).natAbs / stride.natAbs + 1) start
    let texts := numbers.map fun n => Fixed.text places (n / (Nat.pow 10 (scale - places) : Nat))
    let texts := if even then evened texts else texts
    call.writing (if texts.isEmpty then [] else (texts.intersperse separator).flatten ++ ['\n'])
  let one : Fixed := ⟨1, 0⟩
  match arguments.find? fun a => (Fixed.ofText? a).isNone with
  | some wrong => call.misused 1 (ofString "invalid floating point argument: " ++ inMarks wrong)
  | none =>
    match arguments.filterMap Fixed.ofText?, arguments with
    | [last], _ => run one one last
    | [first, last], _ => run first one last
    | [first, step, last], _ =>
      if step.digits = 0 then
        call.misused 1 (ofString "invalid Zero increment value: " ++ inMarks (arguments.getD 1 []))
      else run first step last
    | [], _ => call.misused 1 (ofString "missing operand")
    | _, _ => call.misused 1 (ofString "extra operand " ++ inMarks (arguments.getD 3 []))

/-! ### Expressions -/

inductive ExpressionFault
  | missing (after : Octets)
  | unexpected (argument : Octets)
  | unexpectedClosing
  | unclosed (after : Octets)
  | unclosedBefore (argument : Octets)
  | noInteger
  | divisionByZero
  | badPattern
  deriving DecidableEq, Repr

def ExpressionFault.message : ExpressionFault → Octets
  | .missing after => ofString "syntax error: missing argument after " ++ inMarks after
  | .unexpected argument => ofString "syntax error: unexpected argument " ++ inMarks argument
  | .unexpectedClosing => ofString "syntax error: unexpected ')'"
  | .unclosed after => ofString "syntax error: expecting ')' after " ++ inMarks after
  | .unclosedBefore argument =>
    ofString "syntax error: expecting ')' instead of " ++ inMarks argument
  | .noInteger => ofString "non-integer argument"
  | .divisionByZero => ofString "division by zero"
  | .badPattern => ofString "Invalid regular expression"

/-- An expression on its way: the arguments that are left, and the last one that
was used. -/
structure Reckoning where
  left : List Octets
  last : Octets := []

/-- A value with what is left. -/
abbrev Reckoned := Except ExpressionFault (Octets × Reckoning)

namespace Reckoning

def next (r : Reckoning) : Reckoned :=
  match r.left with
  | a :: rest => .ok (a, ⟨rest, a⟩)
  | [] => .error (.missing r.last)

def integer (text : Octets) : Except ExpressionFault Int :=
  match text, Text.natural? text, Text.natural? (text.drop 1) with
  | '-' :: _, _, some n => .ok (-n)
  | _, some n, _ => .ok n
  | _, _, _ => .error .noInteger

def ofInt (n : Int) : Octets := (toString n).toList

/-- Whether a value counts as none: an empty text or zero. -/
def isNull (text : Octets) : Bool :=
  text = [] || (integer text).toOption = some 0

/-- What a pattern describes at the beginning of a text: its first group, or the
number of characters. -/
def matched (text pattern : Octets) : Except ExpressionFault Octets :=
  match olderPattern? true false pattern with
  | none => .error .badPattern
  | some p =>
    let parts := olderParts true false pattern
    let hasGroup := parts.any (·.isGroup)
    match (p.reach text.toArray).furthest? 0 with
    | none => .ok (if hasGroup then [] else ['0'])
    | some stop =>
      .ok (if hasGroup then (groupsIn text.toArray stop 0 parts).headD [] else ofInt stop)

def compared (operator a b : Octets) : Octets :=
  let order := match (integer a).toOption, (integer b).toOption with
    | some m, some n => compare m n
    | _, _ => if a < b then .lt else if a = b then .eq else .gt
  let truth : Bool := match toText operator with
    | "<" => order == .lt
    | "<=" => order != .gt
    | "=" | "==" => order == .eq
    | "!=" => order != .eq
    | ">=" => order != .lt
    | _ => order == .gt
  if truth then ['1'] else ['0']

/-- The operators of each level, from the loosest to the closest. -/
def operators : List (List String) :=
  [["|"], ["&"], ["<", "<=", "=", "==", "!=", ">=", ">"], ["+", "-"], ["*", "/", "%"], [":"]]

def operate (operator a b : Octets) : Except ExpressionFault Octets :=
  match toText operator with
  | "|" => .ok (if !isNull a then a else if !isNull b then b else ['0'])
  | "&" => .ok (if isNull a ∨ isNull b then ['0'] else a)
  | ":" => matched a b
  | "+" => do return ofInt ((← integer a) + (← integer b))
  | "-" => do return ofInt ((← integer a) - (← integer b))
  | "*" => do return ofInt ((← integer a) * (← integer b))
  | "/" => do
    let (m, n) := (← integer a, ← integer b)
    if n = 0 then throw .divisionByZero else return ofInt (m.tdiv n)
  | "%" => do
    let (m, n) := (← integer a, ← integer b)
    if n = 0 then throw .divisionByZero else return ofInt (m.tmod n)
  | _ => .ok (compared operator a b)

mutual

def one : Nat → Reckoning → Reckoned
  | 0, r => .error (.missing r.last)
  | fuel + 1, r => do
    let (a, r) ← r.next
    match toText a with
    | "(" => do
      let (value, r) ← fromLevel fuel 0 r
      match r.left with
      | [')'] :: rest => return (value, ⟨rest, [')']⟩)
      | [] => throw (.unclosed r.last)
      | other :: _ => throw (.unclosedBefore other)
    | ")" => throw .unexpectedClosing
    | "+" => r.next
    | "length" => do
      let (text, r) ← one fuel r
      return (ofInt text.length, r)
    | "match" => do
      let (text, r) ← one fuel r
      let (pattern, r) ← one fuel r
      return (← matched text pattern, r)
    | "index" => do
      let (text, r) ← one fuel r
      let (chars, r) ← one fuel r
      let i := (text.findIdx? fun c => chars.contains c).map (· + 1)
      return (ofInt ((i.getD 0 : Nat) : Int), r)
    | "substr" => do
      let (text, r) ← one fuel r
      let (start, r) ← one fuel r
      let (length, r) ← one fuel r
      match (integer start).toOption, (integer length).toOption with
      | some (.ofNat (start + 1)), some (.ofNat length) =>
        return ((text.drop start).take length, r)
      | _, _ => return ([], r)
    | _ => return (a, r)
termination_by structural fuel => fuel

/-- A value with the operators of a level and of closer ones. -/
def fromLevel : Nat → Nat → Reckoning → Reckoned
  | 0, _, r => .error (.missing r.last)
  | fuel + 1, level, r => do
    if level < operators.length then
      let (a, r) ← fromLevel fuel (level + 1) r
      more fuel level a r
    else one fuel r
termination_by structural fuel => fuel

def more : Nat → Nat → Octets → Reckoning → Reckoned
  | 0, _, a, r => .ok (a, r)
  | fuel + 1, level, a, r => do
    match r.left with
    | operator :: rest =>
      if (operators.getD level []).contains (toText operator) then
        let (b, r) ← fromLevel fuel (level + 1) ⟨rest, operator⟩
        more fuel level (← operate operator a b) r
      else return (a, r)
    | [] => return (a, r)
termination_by structural fuel => fuel

end

def whole (arguments : List Octets) : Except ExpressionFault Octets := do
  let (value, r) ← fromLevel (16 * arguments.length + 32) 0 ⟨arguments, []⟩
  match r.left with
  | [] => return value
  | [')'] :: _ => throw .unexpectedClosing
  | other :: _ => throw (.unexpected other)

end Reckoning

/-- `expr`. -/
def expression : Tool := fun call =>
  let arguments := match call.arguments with
    | ['-', '-'] :: rest => rest
    | arguments => arguments
  if arguments = [] then call.misused 2 (ofString "missing operand")
  else
    match Reckoning.whole arguments with
    | .ok value =>
      { call.writing (value ++ ['\n']) with status := if Reckoning.isNull value then 1 else 0 }
    | .error fault => call.failing 2 fault.message

end DetectionMerge.Shell
