import DetectionMerge.CommandLine.Filter
import DetectionMerge.Run.Stages
import DetectionMerge.Text.Terminal

/-! What a run prints: progress on the standard output, or a JSON report in its
place, and notices and a failure on the error output. On a terminal the steps of the
progress and the levels of the notices can be painted. A report names the output path,
and a path that is no text cannot be named: then the program is given up. -/

namespace DetectionMerge

/-- The end of the program as others see it. -/
structure Printed where
  status : Nat
  output : String
  errors : List UInt8
  deriving DecidableEq, Repr

namespace Printed

def lineOf (s : String) : String := s ++ "\n"

/-! ### Progress -/

/-- How the steps of the progress are painted on a terminal. -/
def stepStyle : String := "1;36"

/-- What an utterance adds to the standard output. -/
def progressOf (paints : Bool) : Utterance → String
  | .step text => lineOf (if paints then Text.Terminal.painted stepStyle text else text)
  | .progress text => lineOf text
  | .report text => text
  | .emission _ => ""

def progress (paints : Bool) (r : Run) : String :=
  String.join (r.utterances.map (progressOf paints))

/-! ### The report -/

/-- A number that may be missing. -/
def optionalReal (x : Option Binary64) : Json.Document := x.elim .null .real

/-- A score in the report: its members in the order of their keys. -/
def scoreDocument (s : Score) : Json.Document :=
  .record [s.areaMember, s.thresholdMember, s.kindMember, s.limitMember, s.valueMember]

/-- The report of a run that has succeeded, in the order of its keys. -/
def totalsDocument (output : String) (t : Totals) : Json.Document :=
  let headline (h : Summary.Headline) := optionalReal (t.summary.bind (·.headline? h))
  let scores := (t.summary.map (·.scores)).getD []
  .record [
    ("ap", headline .ap),
    ("ap50", headline .ap50),
    ("ap75", headline .ap75),
    ("evaluated", .boolean t.summary.isSome),
    ("evaluated_images", .integer t.evaluatedImages),
    ("matched_files", .integer t.matched),
    ("metrics", .list (scores.map scoreDocument)),
    ("output_json", .text output),
    ("total_boxes", .integer t.boxes),
    ("unmatched_files", .integer t.unmatched)]

/-- The report of a run without an evaluator. -/
def missingDocument : Json.Document :=
  .record [("error", .text Run.installHint), ("evaluated", .boolean false)]

/-- The report of a run, unless it would have to name an output path that is no text. A run
that has failed has an empty one. -/
def report? (output : Path) : Outcome → Option String
  | .finished t =>
    output.raw.text?.map fun text => lineOf (String.ofList (totalsDocument text t).pretty)
  | .evaluatorMissing => some (lineOf (String.ofList missingDocument.compact))
  | .failed _ => some ""

/-! ### The error output -/

/-- The notices that a run has said, with what other programs have written
between them. -/
def emissions (r : Run) : List Emission :=
  r.utterances.filterMap fun u => match u with
    | .emission e => some e
    | _ => none

/-- How a run is printed. -/
structure Style where
  filter : CommandLine.Filter
  /-- Whether sequences for terminals are kept in notices. -/
  keepsSequences : Bool := false
  /-- Whether the levels of notices are painted. -/
  paintsLevels : Bool := false
  /-- Whether the steps of the progress are painted. -/
  paintsSteps : Bool := false
  deriving DecidableEq, Repr

/-- What an emission adds to the error output. -/
def emissionBytes (style : Style) : Emission → List UInt8
  | .notice n =>
    let bytes := Text.Utf8.encode (lineOf (n.line style.paintsLevels)).toList
    if !style.filter.passes n then []
    else if style.keepsSequences then bytes
    else Text.Terminal.shown bytes
  | .foreign bytes => bytes

/-- What an outcome adds to the error output. -/
def failureBytes : Outcome → List UInt8
  | .failed failure => Text.Utf8.encode (lineOf s!"Error: {failure.message}").toList
  | _ => []

/-- The exit status of an outcome. -/
def statusOf : Outcome → Nat
  | .failed _ => 1
  | _ => 0

/-- The exit status of a program that is given up. -/
def abortStatus : Nat := 101

/-- What a run prints, after notices that precede it. -/
def ofRun (json : Bool) (style : Style) (output : Path) (before : List Notice) (r : Run) :
    Printed :=
  let errors := (before.map Emission.notice ++ emissions r).flatMap (emissionBytes style) ++
    failureBytes r.outcome
  match if json then report? output r.outcome else some (progress style.paintsSteps r) with
  | some text => ⟨statusOf r.outcome, text, errors⟩
  | none => ⟨abortStatus, "", errors ++ Text.Utf8.encode (lineOf r.host.wording.abort).toList⟩

end Printed

end DetectionMerge
