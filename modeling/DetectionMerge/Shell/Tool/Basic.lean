import DetectionMerge.Host.Disk
import DetectionMerge.Shell.Octets

/-! Tools: the small programs that shell scripts are made of. A tool is a
function of its call. -/

namespace DetectionMerge.Shell

inductive Dialect
  | plain
  | bash
  deriving DecidableEq, Repr

structure Call where
  /-- The name by which the tool is called. -/
  name : Octets
  arguments : List Octets
  input : Octets
  disk : Disk
  environment : List (Octets × Octets) := []

structure Effect where
  status : Nat := 0
  output : Octets := []
  errors : Octets := []
  /-- What it has not read of its input. -/
  input : Octets
  disk : Disk

abbrev Tool := Call → Effect

namespace Call

def ending (call : Call) (status : Nat) : Effect :=
  { status := status, input := call.input, disk := call.disk }

def writing (call : Call) (output : Octets) : Effect :=
  { output := output, input := call.input, disk := call.disk }

def complaint (call : Call) (text : Octets) : Octets := call.name ++ [':', ' '] ++ text ++ ['\n']

def failing (call : Call) (status : Nat) (text : Octets) : Effect :=
  { call.ending status with errors := call.complaint text }

def pointing (call : Call) : Octets :=
  ofString "Try '" ++ call.name ++ ofString " --help' for more information.\n"

/-- Ends with a complaint about how the tool is called. -/
def misused (call : Call) (status : Nat) (text : Octets) : Effect :=
  { call.ending status with errors := call.complaint text ++ call.pointing }

def path (file : Octets) : Path := ⟨toSystem file⟩

/-- Whether the name of a file stands for the input. -/
def isInput (file : Octets) : Bool := file = ['-'] || toText file = "/dev/stdin"

/-- The content of a file, or of the input for a dash. -/
def read (call : Call) (file : Octets) : Except Fault Octets :=
  if isInput file then .ok call.input else (call.disk.read (path file)).map ofBytes

/-- What is left of the input when some files have been read to their ends. -/
def inputAfter (call : Call) (files : List Octets) : Octets :=
  if files.isEmpty ∨ files.any isInput then [] else call.input

end Call

def faultWords (fault : Fault) : Octets := ofString fault.description.1

/-! ### Quotation marks -/

def isPrintable (c : Char) : Bool := ' ' ≤ c ∧ c ≤ '~'

/-- What a backslash and a character or three octal digits stand for. -/
def escaped (c : Char) : Octets :=
  let named := [('\x07', 'a'), ('\x08', 'b'), ('\t', 't'), ('\n', 'n'), ('\x0b', 'v'), ('\x0c', 'f'),
    ('\r', 'r')]
  match named.lookup c with
  | some letter => ['\\', letter]
  | none =>
    let digits := Nat.toDigits 8 c.toNat
    '\\' :: (List.replicate (3 - digits.length) '0' ++ digits)

/-- A text in quotation marks, with backslashes before what they could not
hold. -/
def inMarks (text : Octets) : Octets :=
  let inside := text.flatMap fun c =>
    if c = '\\' ∨ c = '\'' then ['\\', c] else if isPrintable c then [c] else escaped c
  '\'' :: inside ++ ['\'']

/-- What is between the quotation marks of a name. Other characters than
printable ones have quotation marks of their own, which can be open. -/
def betweenMarks : Bool → Octets → Octets
  | _, [] => []
  | isOpen, c :: cs =>
    if isPrintable c then
      let character := if c = '\'' then ['\'', '\\', '\'', '\''] else [c]
      (if isOpen then ['\'', '\''] else []) ++ character ++ betweenMarks false cs
    else (if isOpen then [] else ['\'', '$', '\'']) ++ escaped c ++ betweenMarks true cs

/-- Whether a character can stand between double quotation marks. -/
def isTame (c : Char) : Bool :=
  isPrintable c && !"!\"#$&()*;<=>?[\\^\x60\x7b|\x7d~".toList.contains c

def inQuotes (name : Octets) : Octets :=
  if name.contains '\'' ∧ name.all isTame then '"' :: name ++ ['"']
  else '\'' :: betweenMarks false name ++ ['\'']

def isBrace : Octets → Bool
  | [c] => c = '\x7b' ∨ c = '\x7d'
  | _ => false

/-- A name in quotation marks if it needs them. -/
def shown (name : Octets) : Octets :=
  let needsMarks (c : Char) : Bool :=
    !isPrintable c || " !\"$&()*;<=>[^\x60|\\?:'".toList.contains c
  let isSpecial (c : Char) : Bool := c ∈ ['#', '~']
  if name = [] ∨ name.any needsMarks ∨ name.head?.any isSpecial ∨ isBrace name then
    inQuotes name
  else name

/-! ### Options -/

/-- Options with the values that some of them take, and the other arguments. -/
structure Sorted where
  options : List (Char × Octets) := []
  operands : List Octets := []
  deriving DecidableEq, Repr

namespace Sorted

def has (s : Sorted) (c : Char) : Bool := s.options.any (·.1 = c)

def value? (s : Sorted) (c : Char) : Option Octets :=
  (s.options.reverse.find? (·.1 = c)).map (·.2)

end Sorted

inductive OptionFault
  | unknown (c : Char)
  | unknownLong (text : Octets)
  | valueMissing (c : Char)
  deriving DecidableEq, Repr

def OptionFault.message : OptionFault → Octets
  | .unknown c => ofString "invalid option -- '" ++ [c, '\'']
  | .unknownLong text => ofString "unrecognized option '" ++ text ++ ['\'']
  | .valueMissing c => ofString "option requires an argument -- '" ++ [c, '\'']

/-- The letters of one argument: switches, and at last perhaps an option with a
value, which can be missing still. -/
def letters (switches valued : String) : Octets →
    Except OptionFault (List (Char × Octets) × Option Char)
  | [] => .ok ([], none)
  | c :: rest =>
    if valued.toList.contains c then
      .ok (if rest = [] then ([], some c) else ([(c, rest)], none))
    else if switches.toList.contains c then
      (letters switches valued rest).map fun (options, owed) => ((c, []) :: options, owed)
    else .error (.unknown c)

def sortArguments (switches valued : String) : List Octets → Except OptionFault Sorted
  | [] => .ok {}
  | ['-', '-'] :: rest => .ok { operands := rest }
  | ('-' :: '-' :: text) :: _ => .error (.unknownLong ('-' :: '-' :: text))
  | ['-'] :: rest =>
    (sortArguments switches valued rest).map fun s => { s with operands := ['-'] :: s.operands }
  | ('-' :: cs) :: rest =>
    match letters switches valued cs, rest with
    | .error fault, _ => .error fault
    | .ok (options, none), rest =>
      (sortArguments switches valued rest).map fun s => { s with options := options ++ s.options }
    | .ok (options, some c), value :: rest =>
      (sortArguments switches valued rest).map fun s =>
        { s with options := options ++ (c, value) :: s.options }
    | .ok (_, some c), [] => .error (.valueMissing c)
  | operand :: rest =>
    (sortArguments switches valued rest).map fun s => { s with operands := operand :: s.operands }

/-- A tool with options. Wrong ones end it with a status. -/
def withOptions (switches valued : String) (status : Nat) (tool : Sorted → Tool) : Tool :=
  fun call =>
    match sortArguments switches valued call.arguments with
    | .error fault => call.misused status fault.message
    | .ok s => tool s call

/-- A tool that turns the content of files, or of the input if there are none,
into output, one file after the other. -/
def overFiles (files : List Octets) (status : Nat) (fault : Octets → Fault → Octets)
    (f : Octets → Octets → Octets) : Tool := fun call =>
  (if files.isEmpty then [['-']] else files).foldl (fun e file =>
    match { call with input := e.input }.read file with
    | .ok content =>
      { e with
        output := e.output ++ f file content
        input := if Call.isInput file then [] else e.input }
    | .error reason =>
      { e with status := status, errors := e.errors ++ call.complaint (fault file reason) })
    (call.ending 0)

def plainFault (file : Octets) (fault : Fault) : Octets :=
  shown file ++ [':', ' '] ++ faultWords fault

end DetectionMerge.Shell
