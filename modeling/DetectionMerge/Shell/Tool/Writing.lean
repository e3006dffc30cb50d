import DetectionMerge.Number.Decimal
import DetectionMerge.Shell.Tool.Basic
import DetectionMerge.Shell.Value

/-! Tools that write their arguments: `echo` and `printf`. The shell has
versions of its own, which differ from the system's in their escapes. -/

namespace DetectionMerge.Shell

/-! ### Escapes -/

/-- The octal digits at the beginning, at most so many. -/
def octalDigits (most : Nat) (cs : Octets) : Octets :=
  (cs.take most).takeWhile fun c => '0' ≤ c ∧ c ≤ '7'

def octetOf (n : Nat) : Char := Char.ofNat (n % 256)

def octalOctet (digits : Octets) : Char :=
  octetOf (digits.foldl (fun n c => 8 * n + (c.toNat - '0'.toNat)) 0)

/-- What a character stands for after a backslash. -/
def escape? : Char → Option Char
  | 'a' => some '\x07'
  | 'b' => some '\x08'
  | 'e' => some '\x1b'
  | 'f' => some '\x0c'
  | 'n' => some '\n'
  | 'r' => some '\r'
  | 't' => some '\t'
  | 'v' => some '\x0b'
  | '\\' => some '\\'
  | _ => none

/-- Whose version of a tool it is. -/
inductive Edition
  | shell | system
  deriving DecidableEq, Repr

inductive Escapes
  /-- Those of a format: octal numbers of up to three digits. -/
  | format
  /-- Those of a text: octal numbers of up to three digits behind a zero, and
  without one as well, and one escape that ends the text. -/
  | text
  deriving DecidableEq, Repr

/-- A text after its escapes: characters, whether each is escaped, and whether
an escape has ended the text. -/
structure Unescaped where
  chars : List (Char × Bool) := []
  ended : Bool := false
  deriving DecidableEq, Repr

def Unescaped.cons (c : Char) (escaped : Bool) (u : Unescaped) : Unescaped :=
  { u with chars := (c, escaped) :: u.chars }

def Unescaped.plain (u : Unescaped) : Octets := u.chars.map (·.1)

/-- The hexadecimal digits behind an `x` at the beginning, at most two. Only the
system's tools know them. -/
def hexDigits (edition : Edition) (cs : Octets) : Octets :=
  match edition, cs with
  | .system, 'x' :: rest => (rest.take 2).takeWhile fun c => (Text.hexDigit? c).isSome
  | _, _ => []

/-- The characters of a text with escapes, in so many steps. -/
def unescape (edition : Edition) (escapes : Escapes) : Nat → Octets → Unescaped
  | 0, _ | _, [] => {}
  | fuel + 1, '\\' :: rest =>
    let behindZero := escapes = .text ∧ rest.head? = some '0'
    let digits := octalDigits (if behindZero then 4 else 3) rest
    match digits, rest with
    | [], [] => { chars := [('\\', true)] }
    | [], 'c' :: more =>
      if escapes = .text ∨ edition = .system then { ended := true }
      else ((unescape edition escapes fuel more).cons 'c' false).cons '\\' true
    | [], c :: more =>
      match escape? c, hexDigits edition rest with
      | some e, _ => (unescape edition escapes fuel more).cons e true
      | none, [] => ((unescape edition escapes fuel more).cons c false).cons '\\' true
      | none, digits =>
        (unescape edition escapes fuel (more.drop digits.length)).cons
          (octetOf ((numberIn? 16 digits).getD 0)) true
    | digits, rest =>
      (unescape edition escapes fuel (rest.drop digits.length)).cons (octalOctet digits) true
  | fuel + 1, c :: rest => (unescape edition escapes fuel rest).cons c false

def unescaped (edition : Edition) (escapes : Escapes) (cs : Octets) : Unescaped :=
  unescape edition escapes (cs.length + 1) cs

/-! ### Echo -/

/-- What the shell's `echo` writes: the arguments with spaces between them, after
their escapes. -/
def echoed (arguments : List Octets) : Octets :=
  let (newline, arguments) := match arguments with
    | ['-', 'n'] :: rest => (false, rest)
    | arguments => (true, arguments)
  let u := unescaped .shell .text (joined ' ' arguments)
  u.plain ++ if newline ∧ !u.ended then ['\n'] else []

def shellEcho : Tool := fun call => call.writing (echoed call.arguments)

/-- The switches of the system's `echo` at the beginning: whether a line feed
follows and whether escapes count. -/
def echoSwitches (newline escapes : Bool) : List Octets → Bool × Bool × List Octets
  | ('-' :: c :: cs) :: rest =>
    if (c :: cs).all fun d => d ∈ ['n', 'e', 'E'] then
      let last := (c :: cs).reverse.find? (· ≠ 'n')
      echoSwitches (newline && !(c :: cs).contains 'n') ((last.map (· == 'e')).getD escapes) rest
    else (newline, escapes, ('-' :: c :: cs) :: rest)
  | rest => (newline, escapes, rest)

def systemEcho : Tool := fun call =>
  let (newline, escapes, arguments) := echoSwitches true false call.arguments
  let text := joined ' ' arguments
  if escapes then
    let u := unescaped .system .text text
    call.writing (u.plain ++ if newline ∧ !u.ended then ['\n'] else [])
  else call.writing (text ++ if newline then ['\n'] else [])

/-! ### Formats -/

structure Conversion where
  flags : Octets
  width : Nat
  precision : Option Nat
  letter : Char
  deriving DecidableEq, Repr

namespace Conversion

def has (c : Conversion) (flag : Char) : Bool := c.flags.contains flag

def pad (c : Conversion) (text : Octets) : Octets :=
  let gap := List.replicate (c.width - text.length) ' '
  if c.has '-' then text ++ gap else gap ++ text

/-- A number that fills the width, from its sign and digits. -/
def padNumber (c : Conversion) (zeros : Bool) (sign digits : Octets) : Octets :=
  if zeros ∧ c.has '0' ∧ !c.has '-' then
    sign ++ List.replicate (c.width - sign.length - digits.length) '0' ++ digits
  else c.pad (sign ++ digits)

def sign (c : Conversion) (negative : Bool) : Octets :=
  if negative then ['-'] else if c.has '+' then ['+'] else if c.has ' ' then [' '] else []

def integer (c : Conversion) (n : Int) : Octets :=
  let base := match c.letter with
    | 'o' => 8
    | 'x' | 'X' => 16
    | _ => 10
  let signed : Bool := c.letter = 'd' ∨ c.letter = 'i'
  let magnitude := if signed then n.natAbs else (n % UInt64.size).toNat
  let digits := if magnitude = 0 ∧ c.precision = some 0 then [] else Nat.toDigits base magnitude
  let digits := if c.letter = 'X' then digits.map Char.toUpper else digits
  let digits := List.replicate (c.precision.getD 0 - digits.length) '0' ++ digits
  let mark : Octets :=
    if !c.has '#' then []
    else if c.letter = 'o' ∧ digits.head? ≠ some '0' then ['0']
    else if base = 16 ∧ magnitude ≠ 0 then ['0', c.letter]
    else []
  c.padNumber c.precision.isNone ((if signed then c.sign (n < 0) else []) ++ mark) digits

/-- The digits of a natural number before and after a point with so many
places. -/
def placed (scaled places : Nat) (point : Bool) : Octets :=
  let digits := Nat.toDigits 10 scaled
  let digits := List.replicate (places + 1 - digits.length) '0' ++ digits
  let whole := digits.take (digits.length - places)
  if places = 0 then whole ++ (if point then ['.'] else [])
  else whole ++ '.' :: digits.drop whole.length

/-- The exponent with which a positive number of units is written with so many
digits after its first one, and these digits. -/
def scientific (units places : Nat) : Int × Nat :=
  let one := FiniteBinary64.unitsPerOne
  let estimate : Int := ((Nat.toDigits 10 units).length : Int) - (Nat.toDigits 10 one).length - 1
  let candidates := (List.range 4).map fun (i : Nat) => estimate + i
  let scaled (e : Int) : Nat :=
    let shift := (places : Int) - e
    if shift < 0 then nearestEven units (one * Nat.pow 10 shift.natAbs)
    else nearestEven (units * Nat.pow 10 shift.natAbs) one
  match candidates.find? fun e => scaled e < Nat.pow 10 (places + 1) with
  | some e => (e, scaled e)
  | none => (estimate, scaled estimate)

/-- An exponent with its sign and at least two digits. -/
def exponent (letter : Char) (e : Int) : Octets :=
  let digits := Nat.toDigits 10 e.natAbs
  letter :: (if e < 0 then '-' else '+') :: (List.replicate (2 - digits.length) '0' ++ digits)

/-- The digits after a point without zeros at their end. -/
def trimmed (text : Octets) : Octets :=
  if text.contains '.' then
    let kept := (text.reverse.dropWhile (· = '0')).reverse
    if kept.getLast? = some '.' then kept.dropLast else kept
  else text

def finite (c : Conversion) (x : FiniteBinary64) : Octets :=
  let places := c.precision.getD 6
  let units := x.magnitude
  let exponentLetter := if c.letter.isUpper then 'E' else 'e'
  let fixed (places : Nat) : Octets :=
    placed (nearestEven (units * Nat.pow 10 places) FiniteBinary64.unitsPerOne) places (c.has '#')
  let withExponent (places : Nat) : Octets × Octets :=
    let (e, digits) := if units = 0 then (0, 0) else scientific units places
    (placed digits places (c.has '#'), exponent exponentLetter e)
  let body : Octets := match c.letter.toLower with
    | 'f' => fixed places
    | 'e' =>
      let (digits, e) := withExponent places
      digits ++ e
    | _ =>
      let places := max places 1
      let e := if units = 0 then 0 else (scientific units (places - 1)).1
      let keep (text : Octets) : Octets := if c.has '#' then text else trimmed text
      if e < -4 ∨ (places : Int) ≤ e then
        let (digits, e) := withExponent (places - 1)
        keep digits ++ e
      else keep (fixed ((places : Int) - 1 - e).toNat)
  c.padNumber true (c.sign x.negative) body

def real (c : Conversion) : Binary64 → Octets
  | .finite x => c.finite x
  | .infinite negative =>
    c.pad (c.sign negative ++ if c.letter.isUpper then ['I', 'N', 'F'] else ['i', 'n', 'f'])
  | .nan => c.pad (if c.letter.isUpper then ['N', 'A', 'N'] else ['n', 'a', 'n'])

end Conversion

/-- The number that the beginning of a text spells, what follows, and whether
the number fits. -/
def readReal (cs : Octets) : Binary64 × Octets × Bool :=
  let whole := cs.dropWhile fun c => c = ' ' ∨ ('\t' ≤ c ∧ c ≤ '\r')
  let (negative, unsigned) : Bool × Octets := match whole with
    | '-' :: rest => (true, rest)
    | '+' :: rest => (false, rest)
    | cs => (false, cs)
  let behind (word : String) : Option Octets :=
    let start := unsigned.take word.length
    if start.map Char.toLower = word.toList then some (unsigned.drop word.length) else none
  match behind "infinity", behind "inf", behind "nan" with
  | some rest, _, _ | none, some rest, _ => (.infinite negative, rest, true)
  | none, none, some rest => (.nan, rest, true)
  | none, none, none =>
    let integral := unsigned.takeWhile Char.isDigit
    let rest := unsigned.drop integral.length
    let (fraction, rest) : Octets × Octets := match rest with
      | '.' :: more =>
        let fraction := more.takeWhile Char.isDigit
        if integral = [] ∧ fraction = [] then ([], rest) else (fraction, more.drop fraction.length)
      | rest => ([], rest)
    if integral = [] ∧ fraction = [] then (.zero false, cs, true)
    else
      let (exponent, rest) : Int × Octets := match rest with
        | c :: more =>
          let (minus, digits) : Bool × Octets := match more with
            | '-' :: more => (true, more)
            | '+' :: more => (false, more)
            | more => (false, more)
          let text := digits.takeWhile Char.isDigit
          match Text.natural? text with
          | some n =>
            if c = 'e' ∨ c = 'E' then (if minus then -n else n, digits.drop text.length)
            else (0, rest)
          | none => (0, rest)
        | [] => (0, [])
      let mantissa := (Text.natural? (integral ++ fraction)).getD 0
      let exponent := max (-2000) (min 2000 exponent)
      let value := Decimal.nearest ⟨negative, mantissa, exponent - fraction.length⟩
      (value, rest, value.isFinite && (mantissa = 0 || value ≠ .zero negative))

/-- The integer that the beginning of a text spells, what follows, and whether
any digit does. A text behind a quotation mark stands for its first octet. -/
def readInteger (cs : Octets) : Int × Octets × Bool :=
  match cs with
  | '\'' :: rest | '"' :: rest => ((rest.head?.map Char.toNat).getD 0, [], true)
  | cs =>
    let cs := cs.dropWhile fun c => c = ' ' ∨ ('\t' ≤ c ∧ c ≤ '\r')
    let (negative, cs) : Bool × Octets := match cs with
      | '-' :: rest => (true, rest)
      | '+' :: rest => (false, rest)
      | cs => (false, cs)
    let isHex (c : Char) : Bool := (Text.hexDigit? c).isSome
    let (base, digits) : Nat × Octets := match cs with
      | '0' :: 'x' :: rest | '0' :: 'X' :: rest =>
        if rest.head?.any isHex then (16, rest) else (8, cs)
      | '0' :: _ => (8, cs)
      | cs => (10, cs)
    let text := digits.takeWhile fun c => (digitValue? c).any (· < base)
    let n : Int := ((numberIn? base text).getD 0 : Nat)
    (if negative then -n else n, digits.drop text.length, text ≠ [])

/-- What a format has written so far. -/
structure Formatted where
  output : Octets := []
  errors : Octets := []
  status : Nat := 0
  arguments : List Octets
  /-- Whether an escape in an argument has ended everything. -/
  ended : Bool := false
  deriving DecidableEq, Repr

namespace Formatted

def add (f : Formatted) (text : Octets) : Formatted := { f with output := f.output ++ text }

/-- The next argument, if there is one, and what is left. -/
def next (f : Formatted) : Option Octets × Formatted :=
  (f.arguments.head?, { f with arguments := f.arguments.tail })

end Formatted

inductive FormatFault
  | noNumber (argument : Octets)
  | notWhole (argument : Octets)
  | outOfRange (argument : Octets)
  | unknown (directive : Octets)
  | unfinished (directive : Octets)
  deriving DecidableEq, Repr

def FormatFault.message (edition : Edition) (fault : FormatFault) : Octets :=
  let about (argument : Octets) (shell system : String) : Octets :=
    match edition with
    | .shell => argument ++ ofString s!": {shell}"
    | .system => inMarks argument ++ ofString s!": {system}"
  match fault with
  | .noNumber argument => about argument "expected numeric value" "expected a numeric value"
  | .notWhole argument => about argument "not completely converted" "value not completely converted"
  | .outOfRange argument =>
    about argument "Numerical result out of range" "Numerical result out of range"
  | .unknown directive =>
    match edition with
    | .shell => '%' :: directive.getLast?.toList ++ ofString ": invalid directive"
    | .system => '%' :: directive ++ ofString ": invalid conversion specification"
  | .unfinished directive =>
    match edition with
    | .shell => ofString "missing format character"
    | .system => '%' :: directive ++ ofString ": invalid conversion specification"

/-- A fault, after which the format goes on. -/
def Formatted.doubt (f : Formatted) (edition : Edition) (name : Octets) (fault : FormatFault) :
    Formatted :=
  { f with
    status := 1
    errors := f.errors ++ name ++ [':', ' '] ++ fault.message edition ++ ['\n'] }

def Formatted.stop (f : Formatted) (edition : Edition) (name : Octets) (fault : FormatFault) :
    Formatted :=
  { f.doubt edition name fault with status := if edition = .shell then 2 else 1, ended := true }

/-- A number in a format: a natural number, or a star that takes the next
argument. -/
def readAmount (cs : List (Char × Bool)) (f : Formatted) :
    Option Int × List (Char × Bool) × Formatted :=
  match cs with
  | ('*', _) :: rest =>
    let (argument, f) := f.next
    (some ((readInteger (argument.getD [])).1), rest, f)
  | cs =>
    let digits := cs.takeWhile fun (c, _) => c.isDigit
    ((Text.natural? (digits.map (·.1))).map fun n => (n : Int), cs.drop digits.length, f)

/-- The integer in 64 bits that stands for another one, with a sign or
without. -/
def within (signed : Bool) (n : Int) : Int :=
  if signed then max Int64.minValue.toInt (min Int64.maxValue.toInt n)
  else if n.natAbs < UInt64.size then n % UInt64.size else UInt64.size - 1

/-- Whether an integer has 64 bits, with a sign or without. -/
def fits (signed : Bool) (n : Int) : Bool :=
  if signed then within true n = n else n.natAbs < UInt64.size

def convert (edition : Edition) (name : Octets) (c : Conversion) (f : Formatted) : Formatted :=
  let (argument, f) := f.next
  let value := argument.getD []
  let cut (text : Octets) : Octets := match c.precision with
    | some n => text.take n
    | none => text
  let judged (rest : Octets) (started fitting : Bool) (f : Formatted) : Formatted :=
    if !fitting then f.doubt edition name (.outOfRange value)
    else if rest = [] then f
    else if started then f.doubt edition name (.notWhole value)
    else f.doubt edition name (.noNumber value)
  match c.letter with
  | 's' => f.add (c.pad (cut value))
  | 'b' =>
    let u := unescaped edition .text value
    { f.add (c.pad (cut u.plain)) with ended := u.ended }
  | 'c' => f.add (c.pad (if value = [] then ['\x00'] else value.take 1))
  | 'd' | 'i' | 'o' | 'u' | 'x' | 'X' =>
    let (n, rest, started) := readInteger value
    let signed : Bool := c.letter = 'd' ∨ c.letter = 'i'
    let left := if started then rest else value
    judged left started (fits signed n) (f.add (c.integer (within signed n)))
  | _ =>
    let (x, rest, fitting) := readReal value
    judged rest (rest.length ≠ value.length) fitting (f.add (c.real x))

def formatOnce (edition : Edition) (name : Octets) :
    Nat → List (Char × Bool) → Formatted → Formatted
  | 0, _, f | _, [], f => f
  | fuel + 1, ('%', false) :: ('%', _) :: rest, f => formatOnce edition name fuel rest (f.add ['%'])
  | fuel + 1, ('%', false) :: start, f =>
    let flags := start.takeWhile fun (c, _) => c ∈ ['-', '+', ' ', '#', '0']
    let (width, rest, f) := readAmount (start.drop flags.length) f
    let (precision, rest, f) : Option Nat × List (Char × Bool) × Formatted := match rest with
      | ('.', _) :: rest =>
        let (n, rest, f) := readAmount rest f
        (if (n.getD 0) < 0 then none else some (n.getD 0).toNat, rest, f)
      | rest => (none, rest, f)
    let flags := flags.map (·.1) ++ if width.getD 0 < 0 then ['-'] else []
    let directive (rest : List (Char × Bool)) : Octets :=
      (start.take (start.length - rest.length)).map (·.1)
    match rest with
    | (letter, _) :: rest =>
      if "sbcdiouxXeEfFgG".toList.contains letter then
        let f := convert edition name ⟨flags, (width.getD 0).natAbs, precision, letter⟩ f
        if f.ended then f else formatOnce edition name fuel rest f
      else f.stop edition name (.unknown (directive rest))
    | [] => f.stop edition name (.unfinished (directive []))
  | fuel + 1, (c, _) :: rest, f => formatOnce edition name fuel rest (f.add [c])

/-- Writes a format at most so often, as long as arguments are left and it takes
some. -/
def formatAll (edition : Edition) (name : Octets) (format : List (Char × Bool)) :
    Nat → Formatted → Formatted
  | 0, f => f
  | n + 1, f =>
    let g := formatOnce edition name (format.length + 1) format f
    if g.ended ∨ g.arguments = [] ∨ g.arguments.length = f.arguments.length then g
    else formatAll edition name format n g

def formatted (edition : Edition) (name format : Octets) (arguments : List Octets) : Formatted :=
  let u := unescaped edition .format format
  let f := formatAll edition name u.chars (if u.ended then 1 else arguments.length + 1)
    { arguments := arguments }
  match edition, f.ended || u.ended, f.arguments with
  | .system, false, extra :: _ =>
    { f with
      errors := f.errors ++ name ++
        ofString ": warning: ignoring excess arguments, starting with " ++ inMarks extra ++ ['\n'] }
  | _, _, _ => f

def shellPrintf : Tool := fun call =>
  let written (arguments : List Octets) : Effect :=
    match arguments with
    | [] => call.failing 2 (ofString "usage: printf format [arg ...]")
    | format :: arguments =>
      let f := formatted .shell call.name format arguments
      { call.writing f.output with status := f.status, errors := f.errors }
  match call.arguments with
  | ['-', '-'] :: arguments => written arguments
  | ('-' :: c :: _) :: _ => call.failing 2 (ofString "Illegal option -" ++ [c])
  | arguments => written arguments

def systemPrintf : Tool := fun call =>
  let arguments := match call.arguments with
    | ['-', '-'] :: rest => rest
    | arguments => arguments
  match arguments with
  | [] => call.misused 1 (ofString "missing operand")
  | format :: arguments =>
    let f := formatted .system call.name format arguments
    { call.writing f.output with status := f.status, errors := f.errors }

end DetectionMerge.Shell
