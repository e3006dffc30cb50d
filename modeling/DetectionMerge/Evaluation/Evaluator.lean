import DetectionMerge.Folder.Merge
import DetectionMerge.Scores.Summary

/-! Evaluators: what scores the results file against the annotation file. An
evaluator works on a state of its own, such as the machine it starts programs
on. It is only ever asked about detections that exist. -/

namespace DetectionMerge

/-- Why there are no scores. -/
inductive EvaluationError
  | missing (evaluator reason : String)
  | notStarted (program : String) (fault : Fault)
  | failed (evaluator : String) (status : Nat)
  | nothingMerged
  deriving DecidableEq, Repr

/-- The text of an error, without its cause. -/
def EvaluationError.message : EvaluationError → String
  | .missing evaluator reason => s!"{evaluator} is not available: {reason}"
  | .notStarted program _ => s!"failed to run {program}"
  | .failed evaluator status =>
    s!"{evaluator} failed (exit status: {status}); see its error output above"
  | .nothingMerged => "no detections were merged; nothing to evaluate"

/-- What has caused an error, in the system's words. -/
def EvaluationError.cause? : EvaluationError → Option String
  | .notStarted _ fault => some fault.message
  | _ => none

/-- What is compared of two detections. -/
inductive Geometry
  | box
  deriving DecidableEq, Repr

/-- The name by which an evaluator knows a geometry. -/
def Geometry.name : Geometry → String
  | .box => "bbox"

/-- What an evaluator is asked. -/
structure Request where
  annotations : Path
  detections : Path
  /-- The images to be scored. -/
  imageIds : List Int64
  geometry : Geometry := .box
  deriving DecidableEq, Repr

/-- An evaluator's report, word for word, and the scores in it. -/
structure Evaluated where
  report : String
  summary : Summary
  deriving DecidableEq

def Evaluated.ofReport (report : List Char) : Evaluated := ⟨String.ofList report, .ofReport report⟩

/-- What goes to the error output: a notice, or what another program writes
there. -/
inductive Emission
  | notice (n : Notice)
  | foreign (bytes : List UInt8)
  deriving DecidableEq, Repr

/-- An answer with what was said on the way and the state after it. -/
structure Reply (σ α : Type) where
  emissions : List Emission := []
  result : Except EvaluationError α
  state : σ

/-- Something that scores detections. -/
structure Evaluator (σ : Type) where
  name : String
  /-- Whether it can be used at all. -/
  probe : σ → Reply σ Unit
  score : Request → σ → Reply σ Evaluated

/-- Scores the merged detections that are saved at a path. Without detections
the evaluator is not asked. -/
def Merged.evaluate {σ : Type} (merged : Merged) (evaluator : Evaluator σ)
    (annotations output : Path) (state : σ) : Reply σ Evaluated :=
  if merged.detections.isEmpty then { result := .error .nothingMerged, state := state }
  else
    evaluator.score
      { annotations := annotations, detections := output, imageIds := merged.imageIds } state

namespace Evaluator

/-- An evaluator that gives every request the same report and keeps the
requests. -/
def recording (name report : String) (missing : Option String) : Evaluator (List Request) where
  name := name
  probe requests :=
    { result := missing.elim (.ok ()) fun reason => .error (.missing name reason)
      state := requests }
  score request requests :=
    { result := .ok (.ofReport report.toList), state := requests ++ [request] }

end Evaluator

end DetectionMerge
