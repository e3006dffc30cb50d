import DetectionMerge.Text.System

/-! The command line: named options with values, switches, and nothing else. Arguments are
bytes. Names are texts, and so are values, but for those that are paths. -/

namespace DetectionMerge.CommandLine

inductive ValueOption
  | annotations | folder | suffix | output | program
  deriving DecidableEq, Repr

/-- An option that takes none. -/
inductive Switch
  | noEvaluation | json | quiet | noColor
  deriving DecidableEq, Repr

inductive OptionName
  | value (o : ValueOption)
  | switch (s : Switch)
  | verbose
  | help
  | version
  deriving DecidableEq, Repr

def longNames : List (String × OptionName) :=
  [("gt_json", .value .annotations), ("gt-json", .value .annotations),
    ("det_folder", .value .folder), ("det-folder", .value .folder),
    ("img_suffix", .value .suffix), ("img-suffix", .value .suffix),
    ("output_json", .value .output), ("output-json", .value .output),
    ("python", .value .program),
    ("no-eval", .switch .noEvaluation), ("json", .switch .json), ("quiet", .switch .quiet),
    ("no-color", .switch .noColor),
    ("verbose", .verbose), ("help", .help), ("version", .version)]

def longName? (name : SystemText) : Option OptionName :=
  (longNames.find? (·.1 = name)).map (·.2)

def shortNames : List (Char × OptionName) :=
  [('v', .verbose), ('q', .switch .quiet), ('h', .help), ('V', .version)]

def shortName? (letter : Text.Symbol) : Option OptionName :=
  (shortNames.find? (some ·.1 = letter)).map (·.2)

/-- Whether an option can have a value. Paths may not be empty, and what is no path must be
a text. -/
def ValueOption.admits (value : SystemText) : ValueOption → Bool
  | .suffix | .program => value.text?.isSome
  | .annotations | .folder | .output => value ≠ ""

/-- The options given so far. -/
structure Given where
  values : List (ValueOption × SystemText) := []
  switches : List Switch := []
  verbosity : Nat := 0
  deriving DecidableEq, Repr

/-- A complete command line. -/
structure Options where
  annotations : SystemText
  folder : SystemText
  suffix : Option String := none
  output : Option SystemText := none
  program : Option String := none
  evaluate : Bool := true
  json : Bool := false
  verbosity : Nat := 0
  quiet : Bool := false
  noColor : Bool := false
  deriving DecidableEq, Repr

/-- What a command line asks for. -/
inductive Command
  | run (options : Options)
  | help
  | version
  /-- It is not understood. -/
  | invalid
  deriving DecidableEq, Repr

inductive Stop
  | help | version | invalid
  deriving DecidableEq, Repr

namespace Given

def value? (g : Given) (o : ValueOption) : Option SystemText :=
  (g.values.find? (·.1 = o)).map (·.2)

/-- Gives an option its value. No option is given twice. -/
def setValue (g : Given) (o : ValueOption) (value : SystemText) : Except Stop Given :=
  if (g.value? o).isSome ∨ !o.admits value then .error .invalid
  else .ok { g with values := g.values ++ [(o, value)] }

/-- Sets what takes no value. Only verbosity can be given again. -/
def set (g : Given) : OptionName → Except Stop Given
  | .value _ => .error .invalid
  | .switch s =>
    if s ∈ g.switches then .error .invalid else .ok { g with switches := g.switches ++ [s] }
  | .verbose => .ok { g with verbosity := g.verbosity + 1 }
  | .help => .error .help
  | .version => .error .version

def setShort (g : Given) (letters : List Text.Symbol) : Except Stop Given :=
  letters.foldlM (fun g letter => (shortName? letter).elim (.error .invalid) g.set) g

/-- The complete command line. The paths of the annotations and of the folder
are needed, and quiet and verbose exclude each other. -/
def options? (g : Given) : Option Options := do
  let annotations ← g.value? .annotations
  let folder ← g.value? .folder
  let suffix ← (g.value? .suffix).mapM SystemText.text?
  let program ← (g.value? .program).mapM SystemText.text?
  if .quiet ∈ g.switches ∧ 0 < g.verbosity then none
  else return {
    annotations := annotations
    folder := folder
    suffix := suffix
    output := g.value? .output
    program := program
    evaluate := .noEvaluation ∉ g.switches
    json := .json ∈ g.switches
    verbosity := g.verbosity
    quiet := .quiet ∈ g.switches
    noColor := .noColor ∈ g.switches }

end Given

/-- What options begin with. -/
@[match_pattern]
def dash : UInt8 := 0x2D

/-- What stands between a long name and its value. -/
def equals : UInt8 := 0x3D

/-- Whether an argument cannot be the value of the option before it: a dash
with something behind it. -/
def isDashed (argument : SystemText) : Bool :=
  match argument.bytes with
  | dash :: _ :: _ => true
  | _ => false

/-- What a long option's argument consists of: its name, and a value behind an
equals sign. -/
def splitLong (bytes : List UInt8) : SystemText × Option SystemText :=
  match bytes.dropWhile (· ≠ equals) with
  | [] => (⟨bytes⟩, none)
  | _ :: value => (⟨bytes.takeWhile (· ≠ equals)⟩, some ⟨value⟩)

/-- The form of an argument. -/
inductive Form
  /-- Two dashes: no options follow. -/
  | terminator
  | long (name : SystemText) (value : Option SystemText)
  | short (letters : List Text.Symbol)
  | plain
  deriving DecidableEq, Repr

def formOf (argument : SystemText) : Form :=
  match argument.bytes with
  | [dash, dash] => .terminator
  | dash :: dash :: bytes => .long (splitLong bytes).1 (splitLong bytes).2
  | dash :: b :: bytes => .short (Text.Utf8.symbols (b :: bytes))
  | _ => .plain

/-- Reads arguments from left to right. The first one that is not understood,
or that asks for help or the version, decides. -/
def read (g : Given) : List SystemText → Except Stop Given
  | [] => .ok g
  | argument :: rest =>
    match formOf argument with
    | .terminator => if rest = [] then .ok g else .error .invalid
    | .plain => .error .invalid
    | .short letters => (g.setShort letters).bind fun g => read g rest
    | .long name value =>
      match longName? name, value, rest with
      | some (.value o), some value, rest => (g.setValue o value).bind fun g => read g rest
      | some (.value o), none, value :: rest =>
        if isDashed value then .error .invalid
        else (g.setValue o value).bind fun g => read g rest
      | some (.value _), none, [] => .error .invalid
      | some name, none, rest => (g.set name).bind fun g => read g rest
      | some _, some _, _ => .error .invalid
      | none, _, _ => .error .invalid

def parse (arguments : List SystemText) : Command :=
  match read {} arguments with
  | .error .help => .help
  | .error .version => .version
  | .error .invalid => .invalid
  | .ok g => (g.options?).elim .invalid .run

end DetectionMerge.CommandLine
