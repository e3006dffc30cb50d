import DetectionMerge.CommandLine.Options
import DetectionMerge.Configuration
import DetectionMerge.Folder.Annotations
import DetectionMerge.Folder.Results
import DetectionMerge.Text.Quoted

/-! A run: probe the evaluator, load the annotations, merge the folder, save the
results file, evaluate. Each stage is reached only if those before it have
succeeded. What a run says does not depend on how much of it is printed. -/

namespace DetectionMerge

/-- What a run works on. -/
structure Settings where
  annotations : Path
  folder : Path
  suffix : String
  output : Path
  program : String
  evaluate : Bool
  deriving DecidableEq, Repr

/-- The settings of a command line, completed by a configuration. -/
def Settings.resolve (options : CommandLine.Options) (configuration : Configuration) :
    Settings where
  annotations := ⟨options.annotations⟩
  folder := ⟨options.folder⟩
  suffix := options.suffix.getD configuration.suffix
  output := (options.output.map Path.mk).getD configuration.output
  program := options.program.getD configuration.program
  evaluate := options.evaluate

/-- The settings as the log describes them. -/
def Settings.description (s : Settings) : String :=
  let members := [("gt_json", Text.quotedPath s.annotations.raw),
    ("det_folder", Text.quotedPath s.folder.raw), ("img_suffix", Text.quoted s.suffix),
    ("output_json", Text.quotedPath s.output.raw), ("python", Text.quoted s.program),
    ("evaluate", toString s.evaluate)]
  "Settings \x7b " ++ String.intercalate ", " (members.map fun (name, value) => s!"{name}: {value}") ++
    " \x7d"

/-- Where and why a run has failed. An error can have a cause of its own, in the words of
others. -/
inductive Failure
  | probing (error : EvaluationError)
  | loading (error : AnnotationError) (cause : String)
  | merging (error : MergeError) (cause : Option String)
  | saving (error : MergeError) (cause : Option String)
  | evaluating (evaluator : String) (error : EvaluationError)
  deriving DecidableEq, Repr

/-- The texts of a failure, each caused by the next. -/
def Failure.chain : Failure → List String
  | .probing error => "probing evaluator" :: error.message :: error.cause?.toList
  | .loading error cause => ["loading ground truth", error.message, cause]
  | .merging error cause => "merging detections" :: error.message :: cause.toList
  | .saving error cause => "saving merged detections" :: error.message :: cause.toList
  | .evaluating evaluator error =>
    s!"evaluating with {evaluator}" :: error.message :: error.cause?.toList

/-- The text of a failure with all causes. -/
def Failure.message (failure : Failure) : String := String.intercalate ": " failure.chain

/-- What a run has found. -/
structure Totals where
  boxes : Nat
  matched : Nat
  unmatched : Nat
  evaluatedImages : Nat := 0
  summary : Option Summary := none
  deriving DecidableEq

/-- How a run ends. -/
inductive Outcome
  | finished (totals : Totals)
  | evaluatorMissing
  | failed (failure : Failure)
  deriving DecidableEq

/-- Something that a run says. -/
inductive Utterance
  /-- A line of progress that a new stage begins with. -/
  | step (text : String)
  /-- Another line of progress. -/
  | progress (text : String)
  /-- The evaluator's report, word for word. -/
  | report (text : String)
  | emission (e : Emission)
  deriving DecidableEq, Repr

/-- A run that has ended. -/
structure Run where
  utterances : List Utterance
  outcome : Outcome
  host : Host

namespace Run

/-- What to do about a missing evaluator. -/
def installHint : String := "Please install pycocotools! (pip install pycocotools)"

def after (utterances : List Utterance) (r : Run) : Run :=
  { r with utterances := utterances ++ r.utterances }

def ending (outcome : Outcome) (host : Host) : Run := ⟨[], outcome, host⟩

def notices (ns : List Notice) : List Utterance := ns.map fun n => .emission (.notice n)

def totals (merged : Merged) : Totals where
  boxes := merged.detections.length
  matched := merged.matched
  unmatched := merged.unmatched

/-- The end of a run that has succeeded. -/
def finish (t : Totals) (host : Host) : Run :=
  (ending (.finished t) host).after [.step "Done."]

/-- The last stage: evaluating. -/
def evaluate (evaluator : Evaluator Host) (s : Settings) (merged : Merged) (host : Host) : Run :=
  let reply := merged.evaluate evaluator s.annotations s.output host
  let said := .step "Evaluating with COCO API..." :: reply.emissions.map .emission
  match reply.result with
  | .error error => (ending (.failed (.evaluating evaluator.name error)) reply.state).after said
  | .ok evaluated =>
    (finish { totals merged with
        evaluatedImages := merged.imageIds.length
        summary := some evaluated.summary } reply.state).after
      (said ++ [.report evaluated.report])

/-- From saving on. -/
def save (evaluator : Evaluator Host) (s : Settings) (merged : Merged) (host : Host) : Run :=
  let (saved, disk) := Results.save host.disk s.output merged.detections
  let after := { host with disk := disk }
  let rest := match saved with
    | .error error =>
      ending (.failed (.saving error (error.cause? host.wording host.disk))) after
    | .ok () => if s.evaluate then evaluate evaluator s merged after else finish (totals merged) after
  rest.after [.progress s!"Saving merged detections file: {s.output.display}"]

/-- From merging on. -/
def merge (evaluator : Evaluator Host) (s : Settings) (index : ImageIndex) (host : Host) : Run :=
  let (said, merged) := Merged.ofFolder host.disk s.folder index s.suffix
  let rest := match merged with
    | .error error =>
      ending (.failed (.merging error (error.cause? host.wording host.disk))) host
    | .ok merged =>
      let count := merged.detections.length
      (save evaluator s merged host).after
        [.progress s!"Total boxes merged: {count} | Files unmatched: {merged.unmatched}",
          .emission (.notice (.filesMatched merged.matched))]
  rest.after (.step "Merging detections..." :: notices said)

/-- From loading the annotations on. -/
def load (evaluator : Evaluator Host) (s : Settings) (host : Host) : Run :=
  let (said, index) := Annotations.loadIndex host.disk s.annotations
  let rest := match index with
    | .error error =>
      let cause := Annotations.cause host.wording host.disk s.annotations
      ending (.failed (.loading error cause)) host
    | .ok index => merge evaluator s index host
  rest.after (notices said)

/-- The whole run. Without an evaluation the evaluator is not probed. A missing
evaluator ends the run at once, but is no failure. -/
def all (evaluator : Evaluator Host) (s : Settings) (host : Host) : Run :=
  let rest :=
    if s.evaluate then
      let reply := evaluator.probe host
      let rest := match reply.result with
        | .ok () => load evaluator s reply.state
        | .error (.missing name reason) =>
          (ending .evaluatorMissing reply.state).after
            [.emission (.notice (.evaluatorMissing name reason)), .progress installHint]
        | .error error => ending (.failed (.probing error)) reply.state
      rest.after (reply.emissions.map .emission)
    else load evaluator s host
  rest.after [.step "Loading COCO annotations..."]

end Run

end DetectionMerge
