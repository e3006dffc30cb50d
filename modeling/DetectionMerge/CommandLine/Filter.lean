import DetectionMerge.Notice
import DetectionMerge.Pattern.Text
import DetectionMerge.Text.Split

/-! Which notices are printed. The verbosity switches set one level for all
parts of the program. Without them a variable of the environment can set levels
by part: directives `level`, `part` and `part=level` with commas between them.
Of the directives whose part is a beginning of a notice's part, the longest
counts. Behind a slash the variable can name a pattern that must occur in a
notice's text. -/

namespace DetectionMerge.CommandLine

/-- A directive: a level for the parts with a beginning. No level prints
nothing. -/
structure Directive where
  /-- The beginning, if the directive names one. -/
  part : Option String
  level : Option Level
  deriving DecidableEq, Repr

/-- Whether a level lets notices of another level through. -/
def admits (bound : Option Level) (level : Level) : Bool :=
  match bound with
  | some bound => level.detail ≤ bound.detail
  | none => false

namespace Directive

/-- The length by which directives are compared. -/
def length (d : Directive) : Nat := (d.part.getD "").utf8ByteSize

def covers (d : Directive) (target : String) : Bool :=
  match d.part with
  | none => true
  | some part => part.toList.isPrefixOf target.toList

/-- The level with a name, in letters of any case. The outer option tells
whether there is one. -/
def level? (name : List Char) : Option (Option Level) :=
  let upper := String.ofList (name.map Char.toUpper)
  if upper = "OFF" then some none
  else (Level.all.find? (·.name = upper)).map some

/-- A directive, or the text that is wrong about it. -/
def read (text : List Char) : Except String Directive :=
  match Text.splitAt '=' text with
  | [part] =>
    match level? part with
    | some level => .ok ⟨none, level⟩
    | none => .ok ⟨some (String.ofList part), some .trace⟩
  | [part, level] =>
    let level := Text.trim level
    if level = [] then .ok ⟨some (String.ofList part), some .trace⟩
    else
      match level? level with
      | some level => .ok ⟨some (String.ofList part), level⟩
      | none => .error (String.ofList level)
  | _ => .error (String.ofList text)

end Directive

/-- What is wrong with the text of a filter. -/
inductive FilterMistake
  | directive (text : String)
  | slashes (text : String)
  | pattern (text : String) (refusal : Pattern.Refusal)
  deriving DecidableEq, Repr

def FilterMistake.message : FilterMistake → String
  | .directive text => s!"invalid logging spec '{text}'"
  | .slashes text => s!"invalid logging spec '{text}' (too many '/'s)"
  | .pattern text refusal => s!"invalid regex filter - {refusal.message text}"

/-- What decides whether a notice is printed. -/
structure Filter where
  directives : List Directive
  /-- What must occur in the text of a notice. -/
  pattern : Option Pattern := none
  deriving DecidableEq, Repr

namespace Filter

/-- One level for all parts. -/
def uniform (level : Level) : Filter := { directives := [⟨none, some level⟩] }

/-- The level for a number of verbosity switches. -/
def levelOf : Nat → Level
  | 0 => .warn
  | 1 => .info
  | 2 => .debug
  | _ => .trace

/-- Adds a directive, in place of one for the same part. -/
def add (directives : List Directive) (d : Directive) : List Directive :=
  if directives.any (·.part = d.part) then
    directives.map fun e => if e.part = d.part then d else e
  else directives ++ [d]

/-- The directives of a text in the order in which they are tried backwards, and
what is wrong with the text. Without directives only errors are printed. -/
def directivesOf (text : List Char) : List Directive × List FilterMistake :=
  let pieces := ((Text.splitAt ',' text).map Text.trim).filter (· ≠ [])
  let read := pieces.map Directive.read
  let directives := (read.filterMap Except.toOption).foldl add []
  let wrong := read.filterMap fun r => match r with
    | .error text => some (.directive text)
    | .ok _ => none
  (if directives = [] then (uniform .error).directives
    else directives.mergeSort fun a b => a.length ≤ b.length, wrong)

/-- The filter of a text, and what is wrong with the text. -/
def ofText (text : String) : Filter × List FilterMistake :=
  match Text.splitAt '/' text.toList with
  | [directives, pattern] =>
    let (directives, wrong) := directivesOf directives
    let pattern := String.ofList pattern
    match Pattern.ofText pattern with
    | .ok p => (⟨directives, some p⟩, wrong)
    | .error refusal => (⟨directives, none⟩, wrong ++ [.pattern pattern refusal])
  | [directives] =>
    let (directives, wrong) := directivesOf directives
    (⟨directives, none⟩, wrong)
  | _ => (uniform .error, [.slashes text])

def passes (f : Filter) (n : Notice) : Bool :=
  (match f.directives.reverse.find? (·.covers n.origin.target) with
    | some d => admits d.level n.level
    | none => false) && f.pattern.all (·.occursIn n.text.toList)

end Filter

end DetectionMerge.CommandLine
