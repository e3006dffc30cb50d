import DetectionMerge.CommandLine.Options
import DetectionMerge.Configuration
import Mathlib.Tactic

/-! What a configuration file supplies. Each field is looked up by itself, in a table by its
key and in an array by its place, and is left open where nothing stands. But the file is
used only if the sections and all fields in them are of their kinds: one value that is not
takes all others with it. -/

namespace DetectionMerge.Configuration

/-! ### Fields -/

inductive Field
  | suffix | output | program
  deriving DecidableEq

namespace Field

def sectionName : Field → String
  | .suffix | .output => "merge"
  | .program => "evaluator"

/-- The key of a field in a table. -/
def key : Field → String
  | .suffix => "img_suffix"
  | .output => "output_json"
  | .program => "python"

/-- The place of a field in an array. -/
def place : Field → ℕ
  | .suffix | .program => 0
  | .output => 1

/-- The value of a field that is not configured. -/
def standard : Field → String
  | .suffix => ".jpg"
  | .output => "result_coco_format.json"
  | .program => "python3"

/-- The option that sets a field on the command line. -/
def option : Field → CommandLine.ValueOption
  | .suffix => .suffix
  | .output => .output
  | .program => .program

/-- The text of a field. -/
def textIn (configuration : Configuration) : Field → SystemText
  | .suffix => configuration.suffix
  | .output => configuration.output.raw
  | .program => configuration.program

theorem textIn_standard (field : Field) : field.textIn {} = field.standard := by
  cases field <;> rfl

end Field

/-! ### Sections -/

def text? : Toml.Value → Option String
  | .text s => some s
  | _ => none

theorem optionalText?_eq (v : Option Toml.Value) :
    optionalText? v = if v.all isText then some (v.bind text?) else none := by
  cases v with
  | none => rfl
  | some v => cases v <;> rfl

/-- A section is looked through entry by entry. -/
theorem section?_eq (keys : List String) (v : Option Toml.Value) : section? keys v =
    if v.all isSection then
      keys.zipIdx.mapM fun entry => optionalText? (entryIn? v entry.1 entry.2)
    else none := by
  have nothing : some (keys.map fun _ => none) = keys.mapM fun _ => optionalText? none := by
    induction keys with
    | nil => rfl
    | cons key keys ih =>
      rw [List.mapM_cons, ← ih]
      rfl
  have names {f : String → Option (Option String)} :
      keys.mapM f = keys.zipIdx.mapM fun entry => f entry.1 := by
    conv_lhs => rw [← List.zipIdx_map_fst 0 keys, List.mapM_map]
    rfl
  have places {f : ℕ → Option (Option String)} :
      (List.range keys.length).mapM f = keys.zipIdx.mapM fun entry => f entry.2 := by
    rw [List.range_eq_range', ← List.zipIdx_map_snd 0 keys, List.mapM_map]
    rfl
  cases v with
  | none => exact nothing.trans names
  | some v =>
    cases v with
    | moment => exact nothing.trans names
    | table origin members => exact names
    | array items => exact places
    | _ => rfl

/-! ### Documents -/

namespace Field

def entry? (field : Field) (t : Toml.Table) : Option Toml.Value :=
  entryIn? (t.get? field.sectionName) field.key field.place

/-- Whether what a document has for a field can be used, and its section, too. -/
def isTyped (field : Field) (t : Toml.Table) : Bool :=
  (t.get? field.sectionName).all isSection && (field.entry? t).all isText

/-- The text that a document supplies for a field. -/
def supplied? (field : Field) (t : Toml.Table) : Option String := (field.entry? t).bind text?

end Field

/-- What a document supplies, completed by the standard values. -/
def supplied (t : Toml.Table) : Configuration where
  suffix := (Field.suffix.supplied? t).getD Field.suffix.standard
  output := ⟨(Field.output.supplied? t).getD Field.output.standard⟩
  program := (Field.program.supplied? t).getD Field.program.standard

theorem textIn_supplied (field : Field) (t : Toml.Table) :
    field.textIn (supplied t) = (field.supplied? t).getD field.standard := by
  cases field <;> rfl

/-- A document with sections and fields of their kinds. -/
def IsTyped (t : Toml.Table) : Prop := ∀ field : Field, field.isTyped t

/-- One field that cannot be used makes the whole document useless. -/
theorem ofTable?_eq (t : Toml.Table) :
    ofTable? t = if Field.suffix.isTyped t ∧ Field.output.isTyped t ∧ Field.program.isTyped t then
      some (supplied t) else none := by
  have merge : section? ["img_suffix", "output_json"] (t.get? "merge") =
      if Field.suffix.isTyped t ∧ Field.output.isTyped t then
        some [Field.suffix.supplied? t, Field.output.supplied? t]
      else none := by
    simp only [section?_eq, List.zipIdx_cons, List.zipIdx_nil, List.mapM_cons, List.mapM_nil,
      optionalText?_eq, Field.isTyped, Field.supplied?, Field.entry?, Field.sectionName, Field.key,
      Field.place, Bool.and_eq_true]
    split_ifs <;> simp_all
  have evaluator : section? ["python"] (t.get? "evaluator") =
      if Field.program.isTyped t then some [Field.program.supplied? t] else none := by
    simp only [section?_eq, List.zipIdx_cons, List.zipIdx_nil, List.mapM_cons, List.mapM_nil,
      optionalText?_eq, Field.isTyped, Field.supplied?, Field.entry?, Field.sectionName, Field.key,
      Field.place, Bool.and_eq_true]
    split_ifs <;> simp_all
  rw [ofTable?, merge, evaluator]
  split_ifs <;> simp_all [supplied, Field.standard, Evaluation.defaultProgram]

theorem ofTable?_of_isTyped {t : Toml.Table} (typed : IsTyped t) :
    ofTable? t = some (supplied t) := by
  rw [ofTable?_eq, if_pos ⟨typed _, typed _, typed _⟩]

theorem isTyped_of_ofTable? {t : Toml.Table} {configuration : Configuration}
    (described : ofTable? t = some configuration) : IsTyped t := by
  rw [ofTable?_eq] at described
  split_ifs at described with typed
  intro field
  cases field with
  | suffix => exact typed.1
  | output => exact typed.2.1
  | program => exact typed.2.2

/-! ### Files -/

/-- A file that can be used, with the document in it. -/
def Uses (disk : Disk) (path : Path) (t : Toml.Table) : Prop :=
  ∃ bytes text, disk.read path = .ok bytes ∧ Text.Utf8.decode? bytes = some text ∧
    Toml.document? text = some t ∧ IsTyped t

variable {disk : Disk} {path : Path} {t : Toml.Table}

theorem load_of_uses (uses : Uses disk path t) :
    load disk path = (supplied t, .configurationLoaded path) := by
  obtain ⟨bytes, text, read, decoded, document, typed⟩ := uses
  have described : ofText? text = some (supplied t) := by
    rw [ofText?, document, Option.bind_some, ofTable?_of_isTyped typed]
  rw [load, read]
  simp only [decoded, described]

theorem load_of_missing (missing : disk.read path = .error .notFound) :
    load disk path = ({}, .configurationMissing path) := by
  rw [load, missing]

/-- A file that is there and cannot be used is warned about. -/
theorem exists_load_of_not_uses (present : disk.read path ≠ .error .notFound)
    (useless : ∀ t, ¬Uses disk path t) :
    ∃ n : Notice, load disk path = ({}, n) ∧ n.origin = .configuration ∧ n.level = .warn := by
  cases read : disk.read path with
  | error fault =>
    have other : fault ≠ .notFound := fun same => present (same ▸ read)
    refine ⟨.configurationUnreadable path fault.message, ?_, rfl, rfl⟩
    rw [load, read]
    cases fault <;> first | rfl | exact absurd rfl other
  | ok bytes =>
    cases decoded : Text.Utf8.decode? bytes with
    | none =>
      refine ⟨.configurationUnreadable path "stream did not contain valid UTF-8", ?_, rfl, rfl⟩
      simp only [load, read, decoded]
    | some text =>
      cases described : ofText? text with
      | none =>
        refine ⟨.configurationMalformed path (complaint text), ?_, rfl, rfl⟩
        simp only [load, read, decoded, described]
      | some configuration =>
        obtain ⟨t, document, described⟩ := Option.bind_eq_some_iff.1 described
        exact absurd ⟨bytes, text, read, decoded, document, isTyped_of_ofTable? described⟩ (useless t)

end DetectionMerge.Configuration
