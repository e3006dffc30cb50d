import DetectionMerge.Evaluation.Program
import DetectionMerge.Toml.Complaint

/-! The configuration: defaults for what the command line leaves open, from a
TOML file with the sections `merge` and `evaluator`. A file is used as a whole
or not at all. -/

namespace DetectionMerge

/-- Which of the two outputs of a run a terminal shows. -/
structure Terminals where
  output : Bool := false
  errors : Bool := false
  deriving DecidableEq, Repr

/-- The environment of a run: its variables, the home directory that the user's account
has, and the terminals. -/
structure Environment where
  bindings : List (String × SystemText)
  accountHome : Path
  terminals : Terminals := {}

def Environment.get? (env : Environment) (name : String) : Option SystemText :=
  (env.bindings.find? (·.1 = name)).map (·.2)

/-- What can be configured. -/
structure Configuration where
  /-- What makes a file's stem the name of an image. -/
  suffix : String := ".jpg"
  /-- Where the results file goes. -/
  output : Path := ⟨"result_coco_format.json"⟩
  /-- The interpreter that the evaluator uses. -/
  program : String := Evaluation.defaultProgram
  deriving DecidableEq, Repr

namespace Configuration

instance : Inhabited Configuration := ⟨{}⟩

/-! ### The file's place -/

/-- The variable that names the file. -/
def fileVariable : String := "DETMERGE_CONFIG"

def home (env : Environment) : Path :=
  match (env.get? "HOME").filter fun (value : SystemText) => value ≠ "" with
  | none => env.accountHome
  | some home => ⟨home⟩

/-- The program's own directory among the user's configurations. -/
def directory (env : Environment) : Path :=
  let user := match env.get? "XDG_CONFIG_HOME" with
    | none => (home env).join ".config"
    | some base => if Path.isAbsolute ⟨base⟩ then ⟨base⟩ else (home env).join ".config"
  user.join "detmerge"

def file (env : Environment) : Path :=
  match (env.get? fileVariable).filter fun (value : SystemText) => value ≠ "" with
  | none => (directory env).join "config.toml"
  | some file => ⟨file⟩

/-! ### The file's content -/

/-- Tables and arrays are sections, and so are dates and times, in which nothing stands. -/
def isSection : Toml.Value → Bool
  | .table .. | .array _ | .moment => true
  | _ => false

def isText : Toml.Value → Bool
  | .text _ => true
  | _ => false

/-- What stands in a section under a key or at a place. -/
def entryIn? (v : Option Toml.Value) (key : String) (place : Nat) : Option Toml.Value :=
  match v with
  | some (.table _ members) => Toml.Table.get? members key
  | some (.array items) => items[place]?
  | _ => none

/-- A value that may be missing, and is a text otherwise. -/
def optionalText? : Option Toml.Value → Option (Option String)
  | none => some none
  | some (.text s) => some (some s)
  | some _ => none

/-- The texts of a section's keys. A section is a table, in which keys may be
missing and others present, or an array of the values in the order of the keys,
which may be shorter or longer. A date counts as an empty section. -/
def section? (keys : List String) : Option Toml.Value → Option (List (Option String))
  | none | some .moment => some (keys.map fun _ => none)
  | some (.table _ members) => keys.mapM fun key => optionalText? (Toml.Table.get? members key)
  | some (.array items) => (List.range keys.length).mapM fun i => optionalText? items[i]?
  | some _ => none

def ofTable? (t : Toml.Table) : Option Configuration := do
  match ← section? ["img_suffix", "output_json"] (t.get? "merge"),
    ← section? ["python"] (t.get? "evaluator") with
  | [suffix, output], [program] =>
    let standard : Configuration := {}
    return {
      suffix := suffix.getD standard.suffix
      output := (output.map fun s => ⟨s⟩).getD standard.output
      program := program.getD standard.program }
  | _, _ => none

def ofText? (text : List Char) : Option Configuration := (Toml.document? text).bind ofTable?

/-! ### Complaints -/

/-- A complaint about the kind of a value, if it is not the one that is wanted. -/
def kindComplaint? (text : List Char) (key : List String) (wanted : String)
    (isRight : Toml.Value → Bool) (v : Option Toml.Value) : Option Toml.Complaint :=
  match v with
  | none => none
  | some v =>
    if isRight v then none
    else
      let (place, length) := (Toml.valueExtent? text key).getD (0, text.length)
      some ⟨place, length, s!"invalid type: {v.kindWords}, expected {wanted}"⟩

/-- The complaint about the first value in a section that is of no use. -/
def sectionComplaint? (text : List Char) (name : String) (keys : List String)
    (v : Option Toml.Value) : Option Toml.Complaint :=
  (kindComplaint? text [name] "struct" isSection v).or
    (keys.zipIdx.findSome? fun (key, i) =>
      kindComplaint? text [name, key] (if key = "output_json" then "path string" else "a string")
        isText (entryIn? v key i))

/-- Why a text describes no configuration. -/
def complaint (text : List Char) : String :=
  let found := (Toml.complaint? text).or do
    let t ← Toml.document? text
    (sectionComplaint? text "merge" ["img_suffix", "output_json"] (t.get? "merge")).or
      (sectionComplaint? text "evaluator" ["python"] (t.get? "evaluator"))
  (found.getD ⟨0, 0, ""⟩).message text

/-- The configuration in a file, with a notice. Without a file, or with one
that cannot be used, it is the standard one. -/
def load (disk : Disk) (path : Path) : Configuration × Notice :=
  match disk.read path with
  | .error .notFound => ({}, .configurationMissing path)
  | .error fault => ({}, .configurationUnreadable path fault.message)
  | .ok bytes =>
    match Text.Utf8.decode? bytes with
    | none => ({}, .configurationUnreadable path "stream did not contain valid UTF-8")
    | some text =>
      match ofText? text with
      | none => ({}, .configurationMalformed path (complaint text))
      | some configuration => (configuration, .configurationLoaded path)

end Configuration

end DetectionMerge
