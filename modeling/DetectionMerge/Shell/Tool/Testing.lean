import DetectionMerge.Shell.Tool.Basic
import DetectionMerge.Text.Digit

/-! Tests of texts, numbers and files: `test` and its form in brackets. -/

namespace DetectionMerge.Shell

/-- The integer that a text spells, with blanks around it. -/
def testInteger? (cs : Octets) : Option Int :=
  let isBlank (c : Char) : Bool := c = ' ' ∨ ('\t' ≤ c ∧ c ≤ '\r')
  match ((cs.dropWhile isBlank).reverse.dropWhile isBlank).reverse with
  | '-' :: rest => (Text.natural? rest).map fun n => -(n : Int)
  | '+' :: rest => (Text.natural? rest).map fun n => (n : Int)
  | rest => (Text.natural? rest).map fun n => (n : Int)

inductive TestFault
  | noInteger (text : Octets)
  | noUnary (text : Octets)
  | noBinary (text : Octets)
  | tooMany (text : Octets)
  | noOperand (operator : Octets)
  | open
  deriving DecidableEq, Repr

def TestFault.shellMessage : TestFault → Octets
  | .noInteger text => ofString "Illegal number: " ++ text
  | .noUnary text | .noBinary text | .tooMany text =>
    (if text = [] then [] else text ++ [':', ' ']) ++ ofString "unexpected operator"
  | .noOperand operator => operator ++ ofString ": argument expected"
  | .open => ofString "closing paren expected"

/-- The words for a fault of the system's program. -/
def TestFault.systemMessage : TestFault → Octets
  | .noInteger text => ofString "invalid integer " ++ inMarks text
  | .noUnary text => inMarks text ++ ofString ": unary operator expected"
  | .noBinary text => inMarks text ++ ofString ": binary operator expected"
  | .tooMany text => ofString "extra argument " ++ inMarks text
  | .noOperand operator => ofString "missing argument after " ++ inMarks operator
  | .open => inMarks [')'] ++ ofString " expected"

def testUnary? (disk : Disk) (operator : String) (value : Octets) : Option Bool :=
  let path := Call.path value
  let found := (disk.stat path).toOption
  let isLink : Bool := match disk.locate false path with
    | .ok (.existing place) => match disk.node? place with
      | some (.link _) => true
      | _ => false
    | _ => false
  match operator with
  | "-n" => some !value.isEmpty
  | "-z" => some value.isEmpty
  | "-e" | "-r" | "-w" | "-O" | "-G" => some found.isSome
  | "-a" => some found.isSome
  | "-f" => some (disk.isFile path)
  | "-d" => some (found = some .directory)
  | "-c" => some (found = some .emptyDevice)
  | "-h" | "-L" => some isLink
  | "-x" => some (match found with
    | some (.file f) => f.executable
    | some .directory => true
    | _ => false)
  | "-s" => some (match found with
    | some (.file f) => !f.bytes.isEmpty
    | some .directory => true
    | _ => false)
  | "-b" | "-p" | "-S" | "-u" | "-g" | "-k" | "-t" => some false
  | _ => none

/-- The operators before one value that the shell knows. -/
def shellUnaries : List String :=
  ["-r", "-w", "-x", "-e", "-f", "-d", "-c", "-b", "-p", "-u", "-g", "-k", "-s", "-t", "-z", "-n",
    "-h", "-O", "-G", "-L", "-S"]

/-- The operators between two values that the shell knows. -/
def shellBinaries : List String :=
  ["=", "!=", "<", ">", "-eq", "-ne", "-lt", "-le", "-gt", "-ge", "-nt", "-ot", "-ef"]

/-- The operators between two values that the system's program knows. -/
def testOperators : List String :=
  ["=", "==", "!=", "<", ">", "-eq", "-ne", "-lt", "-le", "-gt", "-ge", "-nt", "-ot", "-ef"]

def testBinary (disk : Disk) (operator : String) (a b : Octets) : Except TestFault Bool :=
  let numbers (f : Int → Int → Bool) : Except TestFault Bool :=
    match testInteger? a, testInteger? b with
    | some m, some n => .ok (f m n)
    | none, _ => .error (.noInteger a)
    | _, none => .error (.noInteger b)
  let place (cs : Octets) : Option Destination := (disk.locate true (Call.path cs)).toOption
  match operator with
  | "=" | "==" => .ok (a = b)
  | "!=" => .ok (a ≠ b)
  | "<" => .ok (a < b)
  | ">" => .ok (b < a)
  | "-eq" => numbers fun m n => m = n
  | "-ne" => numbers fun m n => m ≠ n
  | "-lt" => numbers fun m n => m < n
  | "-le" => numbers fun m n => m ≤ n
  | "-gt" => numbers fun m n => m > n
  | "-ge" => numbers fun m n => m ≥ n
  | "-ef" => .ok (place a = place b && (disk.stat (Call.path a)).toBool)
  | _ => .ok false

/-! ### The system's test -/

mutual

def testOr (disk : Disk) : Nat → List Octets → Except TestFault (Bool × List Octets)
  | 0, _ => .error (.noUnary [])
  | fuel + 1, arguments => do
    let (a, rest) ← testAnd disk fuel arguments
    match rest with
    | ['-', 'o'] :: rest =>
      let (b, rest) ← testOr disk fuel rest
      return (a || b, rest)
    | rest => return (a, rest)
termination_by structural fuel => fuel

/-- Conditions of which all must hold, and the arguments behind them. -/
def testAnd (disk : Disk) : Nat → List Octets → Except TestFault (Bool × List Octets)
  | 0, _ => .error (.noUnary [])
  | fuel + 1, arguments => do
    let (a, rest) ← testNot disk fuel arguments
    match rest with
    | ['-', 'a'] :: rest =>
      let (b, rest) ← testAnd disk fuel rest
      return (a && b, rest)
    | rest => return (a, rest)
termination_by structural fuel => fuel

def testNot (disk : Disk) : Nat → List Octets → Except TestFault (Bool × List Octets)
  | 0, _ => .error (.noUnary [])
  | fuel + 1, arguments =>
    match arguments with
    | a :: operator :: b :: rest =>
      if testOperators.contains (toText operator) then
        (testBinary disk (toText operator) a b).map fun t => (t, rest)
      else testOne disk fuel arguments
    | _ => testOne disk fuel arguments
termination_by structural fuel => fuel

/-- A condition without an operator between two values. -/
def testOne (disk : Disk) : Nat → List Octets → Except TestFault (Bool × List Octets)
  | 0, _ => .error (.noUnary [])
  | fuel + 1, arguments =>
    match arguments with
    | [] => .ok (false, [])
    | ['!'] :: b :: rest => (testNot disk fuel (b :: rest)).map fun (t, rest) => (!t, rest)
    | ['('] :: b :: rest => do
      match ← testOr disk fuel (b :: rest) with
      | (t, [')'] :: rest) => return (t, rest)
      | (_, rest) => throw (.noUnary (rest.headD [')']))
    | operator :: value :: rest =>
      match testUnary? disk (toText operator) value with
      | some t => .ok (t, rest)
      | none => .ok (operator ≠ [], value :: rest)
    | [value] => .ok (value ≠ [], [])
termination_by structural fuel => fuel

end

def testTruth (disk : Disk) (arguments : List Octets) : Except TestFault Bool :=
  match arguments with
  | [] => .ok false
  | [value] => .ok (value ≠ [])
  | [operator, value] =>
    if operator = ['!'] then .ok (value = [])
    else
      match testUnary? disk (toText operator) value with
      | some t => .ok t
      | none => .error (.noUnary operator)
  | arguments => do
    match ← testOr disk (4 * arguments.length + 8) arguments with
    | (t, []) => return t
    | (_, extra :: _) =>
      match arguments with
      | [_, operator, _] => throw (.noBinary operator)
      | _ => throw (.tooMany extra)

/-! ### The shell's test

A test goes along its arguments. Each step leaves the last argument that it has
used in front, as it is this one that a complaint names. -/

inductive TestToken
  | nothing
  | operand
  | unary
  | binary
  | not | and | or
  | openParen | closeParen
  deriving DecidableEq, Repr

/-- What the first argument is. An operator in a place where it cannot be one is
an operand. -/
def TestToken.first : List Octets → TestToken
  | [] => .nothing
  | argument :: rest =>
    let isBinary (argument : Octets) : Bool := shellBinaries.contains (toText argument)
    match toText argument with
    | "!" => .not
    | "-a" => .and
    | "-o" => .or
    | "(" => if rest.isEmpty then .operand else .openParen
    | ")" => .closeParen
    | text =>
      if isBinary argument then .binary
      else if shellUnaries.contains text then
        match rest with
        | [] => .operand
        | [_] => .unary
        | next :: _ :: _ => if isBinary next then .operand else .unary
      else .operand

mutual

def shellOr (disk : Disk) : Nat → TestToken → List Octets → Except TestFault (Bool × List Octets)
  | 0, _, arguments => .ok (false, arguments)
  | fuel + 1, token, arguments => do
    let (a, arguments) ← shellAnd disk fuel token arguments
    if TestToken.first (arguments.drop 1) = .or then
      let rest := arguments.drop 2
      let (b, rest) ← shellOr disk fuel (.first rest) rest
      return (a || b, rest)
    else return (a, arguments)
termination_by structural fuel => fuel

def shellAnd (disk : Disk) : Nat → TestToken → List Octets → Except TestFault (Bool × List Octets)
  | 0, _, arguments => .ok (false, arguments)
  | fuel + 1, token, arguments => do
    let (a, arguments) ← shellNot disk fuel token arguments
    if TestToken.first (arguments.drop 1) = .and then
      let rest := arguments.drop 2
      let (b, rest) ← shellAnd disk fuel (.first rest) rest
      return (a && b, rest)
    else return (a, arguments)
termination_by structural fuel => fuel

def shellNot (disk : Disk) : Nat → TestToken → List Octets → Except TestFault (Bool × List Octets)
  | 0, _, arguments => .ok (false, arguments)
  | fuel + 1, token, arguments =>
    if token = .not then
      let rest := arguments.drop 1
      let next := TestToken.first rest
      (shellNot disk fuel next (if next = .nothing then arguments else rest)).map fun (t, rest) =>
        (!t, rest)
    else shellPrimary disk fuel token arguments
termination_by structural fuel => fuel

def shellPrimary (disk : Disk) :
    Nat → TestToken → List Octets → Except TestFault (Bool × List Octets)
  | 0, _, arguments => .ok (false, arguments)
  | fuel + 1, token, arguments =>
    match token, arguments with
    | .nothing, _ | _, [] => .ok (false, arguments)
    | .openParen, _ :: rest =>
      let next := TestToken.first rest
      if next = .closeParen then .ok (false, rest)
      else do
        let (t, rest) ← shellOr disk fuel next rest
        if TestToken.first (rest.drop 1) = .closeParen then return (t, rest.drop 1)
        else throw .open
    | .unary, operator :: rest =>
      match rest with
      | value :: _ => .ok ((testUnary? disk (toText operator) value).getD false, rest)
      | [] => .error (.noOperand operator)
    | _, a :: rest =>
      if TestToken.first rest = .binary then
        match rest with
        | operator :: b :: rest =>
          (testBinary disk (toText operator) a b).map fun t => (t, b :: rest)
        | operators => .error (.noOperand (operators.headD []))
      else .ok (a ≠ [], a :: rest)
termination_by structural fuel => fuel

end

/-- The truth of a whole test, or the opposite. With few arguments some come
first: an operator in the middle, then a negation and parentheses around. -/
def shellTruthFrom (disk : Disk) : Nat → Bool → List Octets → Except TestFault Bool
  | 0, denied, _ => .ok denied
  | fuel + 1, denied, arguments =>
    let whole (token : TestToken) (arguments : List Octets) : Except TestFault Bool := do
      match ← shellOr disk (8 * arguments.length + 8) token arguments with
      | (_, extra :: _ :: _) => throw (.tooMany extra)
      | (t, _) => return t != denied
    match arguments with
    | [] => .ok denied
    | [a, operator, b] =>
      if shellBinaries.contains (toText operator) then whole .operand arguments
      else if a = ['('] ∧ b = [')'] then whole (.first [operator]) [operator]
      else if a = ['!'] then shellTruthFrom disk fuel true [operator, b]
      else whole (.first arguments) arguments
    | [a, b, c, d] =>
      if a = ['('] ∧ d = [')'] then whole (.first [b, c]) [b, c]
      else if a = ['!'] then shellTruthFrom disk fuel true [b, c, d]
      else whole (.first arguments) arguments
    | arguments => whole (.first arguments) arguments

def shellTruth (disk : Disk) (arguments : List Octets) : Except TestFault Bool :=
  shellTruthFrom disk 4 false arguments

/-! ### The tools -/

def endingBy (call : Call) (message : TestFault → Octets) : Except TestFault Bool → Effect
  | .ok t => call.ending (if t then 0 else 1)
  | .error fault => call.failing 2 (message fault)

def systemTest : Tool := fun call =>
  endingBy call TestFault.systemMessage (testTruth call.disk call.arguments)

def shellTest : Tool := fun call =>
  endingBy call TestFault.shellMessage (shellTruth call.disk call.arguments)

def systemBracket : Tool := fun call =>
  if call.arguments.getLast? = some [']'] then
    systemTest { call with arguments := call.arguments.dropLast }
  else call.failing 2 (ofString "missing ']'")

/-- The shell's test between brackets. It looks only at the first character of
the last argument. -/
def shellBracket : Tool := fun call =>
  if (call.arguments.getLast?.bind List.head?) = some ']' then
    shellTest { call with arguments := call.arguments.dropLast }
  else call.failing 2 (ofString "missing ]")

end DetectionMerge.Shell
