import DetectionMerge.Pattern.Escape
import DetectionMerge.Shell.Reader

/-! The values of arithmetic expressions in shell scripts: 64-bit integers, which
wrap around. -/

namespace DetectionMerge.Shell

inductive ValueFault
  /-- Something else should be where the reading of the expression ends. -/
  | expecting (what : String)
  | divisionByZero
  | illegalNumber (text : Octets)
  deriving DecidableEq, Repr

def ValueFault.message (expression : Octets) : ValueFault → Octets
  | .expecting what =>
    ofString s!"arithmetic expression: expecting {what}: \"" ++ expression ++ ['"']
  | .divisionByZero => ofString "arithmetic expression: division by zero: \"" ++ expression ++ ['"']
  | .illegalNumber text => ofString "Illegal number: " ++ text

inductive BinaryOperator
  | or | and | bitOr | bitXor | bitAnd
  | equal | unequal | less | lessOrEqual | greater | greaterOrEqual
  | shiftLeft | shiftRight | add | subtract | multiply | divide | remainder
  deriving DecidableEq, Repr

inductive Expression
  | number (n : Int64)
  | named (name : Octets)
  | negative (e : Expression)
  | inverted (e : Expression)
  | denied (e : Expression)
  | binary (o : BinaryOperator) (a b : Expression)
  | conditional (condition a b : Expression)
  /-- The value becomes that of a name, after an operation with the old one. -/
  | assignment (name : Octets) (o : Option BinaryOperator) (e : Expression)
  deriving DecidableEq, Repr

namespace BinaryOperator

def level : BinaryOperator → Nat
  | .or => 1
  | .and => 2
  | .bitOr => 3
  | .bitXor => 4
  | .bitAnd => 5
  | .equal | .unequal => 6
  | .less | .lessOrEqual | .greater | .greaterOrEqual => 7
  | .shiftLeft | .shiftRight => 8
  | .add | .subtract => 9
  | .multiply | .divide | .remainder => 10

def ofText? : Octets → Option (BinaryOperator × Octets)
  | '|' :: '|' :: rest => some (.or, rest)
  | '&' :: '&' :: rest => some (.and, rest)
  | '=' :: '=' :: rest => some (.equal, rest)
  | '!' :: '=' :: rest => some (.unequal, rest)
  | '<' :: '<' :: rest => some (.shiftLeft, rest)
  | '>' :: '>' :: rest => some (.shiftRight, rest)
  | '<' :: '=' :: rest => some (.lessOrEqual, rest)
  | '>' :: '=' :: rest => some (.greaterOrEqual, rest)
  | '<' :: rest => some (.less, rest)
  | '>' :: rest => some (.greater, rest)
  | '|' :: rest => some (.bitOr, rest)
  | '^' :: rest => some (.bitXor, rest)
  | '&' :: rest => some (.bitAnd, rest)
  | '+' :: rest => some (.add, rest)
  | '-' :: rest => some (.subtract, rest)
  | '*' :: rest => some (.multiply, rest)
  | '/' :: rest => some (.divide, rest)
  | '%' :: rest => some (.remainder, rest)
  | _ => none

/-- The number for a truth. -/
def truth (b : Bool) : Int64 := if b then 1 else 0

def apply (o : BinaryOperator) (a b : Int64) : Except ValueFault Int64 :=
  match o with
  | .or => .ok (truth (a ≠ 0 || b ≠ 0))
  | .and => .ok (truth (a ≠ 0 && b ≠ 0))
  | .bitOr => .ok (a ||| b)
  | .bitXor => .ok (a ^^^ b)
  | .bitAnd => .ok (a &&& b)
  | .equal => .ok (truth (a = b))
  | .unequal => .ok (truth (a ≠ b))
  | .less => .ok (truth (a < b))
  | .lessOrEqual => .ok (truth (a ≤ b))
  | .greater => .ok (truth (b < a))
  | .greaterOrEqual => .ok (truth (b ≤ a))
  | .shiftLeft => .ok (a <<< b)
  | .shiftRight => .ok (a >>> b)
  | .add => .ok (a + b)
  | .subtract => .ok (a - b)
  | .multiply => .ok (a * b)
  | .divide => if b = 0 then .error .divisionByZero else .ok (a / b)
  | .remainder => if b = 0 then .error .divisionByZero else .ok (a % b)

end BinaryOperator

/-! ### Numbers -/

def digitValue? (c : Char) : Option Nat := Text.hexDigit? c

def numberIn? (base : Nat) (cs : Octets) : Option Nat :=
  if cs = [] then none
  else
    cs.foldlM (fun n c => do
      let d ← digitValue? c
      if d < base then some (base * n + d) else none) 0

/-- The number that a text spells: hexadecimal behind `0x`, octal behind `0`,
and decimal otherwise. -/
def constant? : Octets → Option Nat
  | '0' :: 'x' :: rest | '0' :: 'X' :: rest => numberIn? 16 rest
  | '0' :: rest => if rest = [] then some 0 else numberIn? 8 rest
  | cs => numberIn? 10 cs

/-- The integer that a text with blanks around it spells, with a sign. -/
def integerIn? (constant : Octets → Option Nat) (cs : Octets) : Option Int :=
  let isBlank (c : Char) : Bool := c = ' ' ∨ ('\t' ≤ c ∧ c ≤ '\r')
  let cs := ((cs.dropWhile isBlank).reverse.dropWhile isBlank).reverse
  match cs with
  | '-' :: rest => (constant rest).map fun n => -(n : Int)
  | '+' :: rest => (constant rest).map fun n => (n : Int)
  | cs => (constant cs).map fun n => (n : Int)

def nearest (n : Int) : Int64 := .ofInt (max Int64.minValue.toInt (min Int64.maxValue.toInt n))

/-! ### Reading -/

namespace Expression

def skip (cs : Octets) : Octets := cs.dropWhile fun c => c = ' ' ∨ c = '\t' ∨ c = '\n'

/-- The operation of an assignment, and what follows its equals sign. -/
def assignment? (cs : Octets) : Option (Option BinaryOperator × Octets) :=
  match cs with
  | '=' :: '=' :: _ => none
  | '=' :: rest => some (none, rest)
  | cs =>
    match BinaryOperator.ofText? cs with
    | some (o, '=' :: rest) =>
      if o.level ∈ [3, 4, 5, 8, 9, 10] then some (some o, rest) else none
    | _ => none

/-- The number at the beginning, as far as it goes. -/
def number? (cs : Octets) : Option (Expression × Octets) :=
  let isDigitIn (base : Nat) (c : Char) : Bool := (digitValue? c).any (· < base)
  let (base, start) : Nat × Octets := match cs with
    | '0' :: 'x' :: c :: rest | '0' :: 'X' :: c :: rest =>
      if isDigitIn 16 c then (16, c :: rest) else (8, cs)
    | '0' :: _ => (8, cs)
    | cs => (10, cs)
  let digits := start.takeWhile (isDigitIn base)
  (numberIn? base digits).map fun n => (.number (nearest n), skip (start.drop digits.length))

mutual

def readOne : Nat → Octets → Except ValueFault (Expression × Octets)
  | 0, _ => .error (.expecting "primary")
  | fuel + 1, cs =>
    match skip cs with
    | '(' :: rest => do
      match ← readWhole fuel rest with
      | (e, ')' :: rest) => return (e, skip rest)
      | _ => throw (.expecting "')'")
    | '-' :: rest => (readOne fuel rest).map fun (e, rest) => (.negative e, rest)
    | '+' :: rest => readOne fuel rest
    | '!' :: rest => (readOne fuel rest).map fun (e, rest) => (.denied e, rest)
    | '~' :: rest => (readOne fuel rest).map fun (e, rest) => (.inverted e, rest)
    | cs =>
      let name := cs.takeWhile isNameChar
      let rest := skip (cs.drop name.length)
      if isName name then
        match assignment? rest with
        | some (o, rest) =>
          (readWhole fuel rest).map fun (e, rest) => (.assignment name o e, rest)
        | none => .ok (.named name, rest)
      else
        match number? cs with
        | some found => .ok found
        | none => .error (.expecting "primary")
termination_by structural fuel => fuel

/-- What follows a value by operators that bind at least so closely. -/
def readFrom : Nat → Nat → Expression → Octets → Except ValueFault (Expression × Octets)
  | 0, _, _, _ => .error (.expecting "primary")
  | fuel + 1, level, a, cs =>
    match BinaryOperator.ofText? (skip cs) with
    | none => .ok (a, skip cs)
    | some (o, rest) =>
      if o.level < level then .ok (a, skip cs)
      else do
        let (b, rest) ← readOne fuel rest
        let (b, rest) ← readFrom fuel (o.level + 1) b rest
        readFrom fuel level (.binary o a b) rest
termination_by structural fuel => fuel

def readWhole : Nat → Octets → Except ValueFault (Expression × Octets)
  | 0, _ => .error (.expecting "primary")
  | fuel + 1, cs => do
    let (a, rest) ← readOne fuel cs
    let (a, rest) ← readFrom fuel 1 a rest
    match rest with
    | '?' :: rest =>
      match ← readWhole fuel rest with
      | (b, ':' :: rest) =>
        (readWhole fuel rest).map fun (c, rest) => (.conditional a b c, rest)
      | _ => throw (.expecting "':'")
    | rest => return (a, rest)
termination_by structural fuel => fuel

end

def ofText (cs : Octets) : Except ValueFault Expression :=
  if skip cs = [] then .ok (.number 0)
  else do
    match ← readWhole (4 * cs.length + 8) cs with
    | (e, []) => return e
    | _ => throw (.expecting "EOF")

/-! ### Evaluating -/

abbrev Bindings := List (Octets × Octets)

/-- The value of an expression, and the bindings that it changes. -/
def eval (look : Octets → Option Octets) :
    Expression → Bindings → Except ValueFault (Int64 × Bindings)
  | .number n, bs => .ok (n, bs)
  | .named name, bs => do
    let text := (((bs.find? (·.1 = name)).map (·.2)).or (look name)).getD []
    if text = [] then return (0, bs)
    else
      match integerIn? constant? text with
      | some n => return (nearest n, bs)
      | none => throw (.illegalNumber text)
  | .negative e, bs => do
    let (n, bs) ← eval look e bs
    return (-n, bs)
  | .inverted e, bs => do
    let (n, bs) ← eval look e bs
    return (~~~n, bs)
  | .denied e, bs => do
    let (n, bs) ← eval look e bs
    return (BinaryOperator.truth (n = 0), bs)
  | .binary .or a b, bs => do
    let (m, bs) ← eval look a bs
    if m ≠ 0 then return (1, bs)
    else
      let (n, bs) ← eval look b bs
      return (BinaryOperator.truth (n ≠ 0), bs)
  | .binary .and a b, bs => do
    let (m, bs) ← eval look a bs
    if m = 0 then return (0, bs)
    else
      let (n, bs) ← eval look b bs
      return (BinaryOperator.truth (n ≠ 0), bs)
  | .binary o a b, bs => do
    let (m, bs) ← eval look a bs
    let (n, bs) ← eval look b bs
    return (← o.apply m n, bs)
  | .conditional condition a b, bs => do
    let (m, bs) ← eval look condition bs
    if m ≠ 0 then eval look a bs else eval look b bs
  | .assignment name o e, bs => do
    let (n, bs) ← eval look e bs
    let n ← match o with
      | none => pure n
      | some o =>
        let text := (((bs.find? (·.1 = name)).map (·.2)).or (look name)).getD []
        o.apply (((integerIn? constant? text).map nearest).getD 0) n
    return (n, (name, (toString n.toInt).toList) :: bs)

end Expression

end DetectionMerge.Shell
