import DetectionMerge.Evaluation.Evaluator
import DetectionMerge.Host.Process

/-! The evaluator that runs `pycocotools` in a Python interpreter. It is probed
by importing the library, and asked by a script that reads the image ids from
its standard input and prints the table of scores. -/

namespace DetectionMerge.Evaluation

/-- Fails where the library is missing. -/
def probeScript : String := "import pycocotools.coco, pycocotools.cocoeval"

/-- The lines of the script that scores the results file on the given images. -/
def scoreScriptLines : List String := [
  "import json",
  "import sys",
  "",
  "from pycocotools.coco import COCO",
  "from pycocotools.cocoeval import COCOeval",
  "",
  "gt_json, detections_json, iou_type = sys.argv[1], sys.argv[2], sys.argv[3]",
  "image_ids = json.load(sys.stdin)",
  "",
  "coco_gt = COCO(gt_json)",
  "coco_dt = coco_gt.loadRes(detections_json)",
  "coco_eval = COCOeval(coco_gt, coco_dt, iou_type)",
  "coco_eval.params.imgIds = image_ids",
  "coco_eval.evaluate()",
  "coco_eval.accumulate()",
  "coco_eval.summarize()"]

/-- Scores the results file on the given images. -/
def scoreScript : String := String.join (scoreScriptLines.map fun line => line ++ "\n")

def libraryName : String := "pycocotools"

/-- The interpreter that is used unless another is asked for. -/
def defaultProgram : String := "python3"

def probeLaunch (program : String) : Launch := ⟨program, ["-c", probeScript], []⟩

/-- The standard input of an evaluation: the image ids as an array. -/
def idsText (imageIds : List Int64) : List Char :=
  (Json.Document.list (imageIds.map fun id => .integer id.toInt)).compact

def scoreLaunch (program : String) (r : Request) : Launch where
  program := program
  arguments := ["-c", scoreScript, r.annotations.raw, r.detections.raw, r.geometry.name]
  input := Text.Utf8.encode (idsText r.imageIds)

/-- Why a probe failed, from what it wrote to its error output: the last line
that is not blank. -/
def failureReason (errors : List UInt8) : String :=
  match (Text.lines (Text.Utf8.decodeLossy errors)).reverse.find?
      fun line => !line.all Text.isBlank with
  | some line => String.ofList (Text.trim line)
  | none => "import failed"

/-- Whether the library can be used, by the end of the probe. -/
def probeResult (program : String) : Except Fault Ended → Except EvaluationError Unit
  | .error fault => .error (.missing libraryName s!"cannot run {program}: {fault.message}")
  | .ok ended =>
    if ended.status = 0 then .ok ()
    else .error (.missing libraryName (failureReason ended.errors))

def scoreResult (program : String) : Except Fault Ended → Except EvaluationError Evaluated
  | .error fault => .error (.notStarted program fault)
  | .ok ended =>
    if ended.status = 0 then .ok (.ofReport (Text.Utf8.decodeLossy ended.output))
    else .error (.failed libraryName ended.status)

/-- What a program wrote to the error output that it shares. -/
def foreignErrors : Except Fault Ended → List Emission
  | .error _ => []
  | .ok ended => if ended.errors.isEmpty then [] else [.foreign ended.errors]

/-- The evaluator that uses an interpreter. -/
def ofProgram (program : String) : Evaluator Host where
  name := libraryName
  probe host :=
    let (ended, host) := host.start (probeLaunch program)
    { result := probeResult program ended, state := host }
  score request host :=
    let (ended, host) := host.start (scoreLaunch program request)
    { emissions :=
        .notice (.evaluationStarted program request.imageIds.length request.geometry.name) ::
          foreignErrors ended
      result := scoreResult program ended
      state := host }

end DetectionMerge.Evaluation
