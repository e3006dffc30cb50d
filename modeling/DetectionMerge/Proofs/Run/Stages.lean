import DetectionMerge.Run.Stages
import Mathlib.Tactic

/-! The courses that a run can take: which stage it ends in, how, and on which
machine. Every stage works on what the stages before it have left, and none is
reached after one that has failed. What else is proved about runs is a case
distinction between the courses. -/

namespace DetectionMerge

/-- The merge that the settings ask for succeeds on a disk. -/
def Settings.Merges (s : Settings) (disk : Disk) (merged : Merged) : Prop :=
  ∃ index, (Annotations.loadIndex disk s.annotations).2 = .ok index ∧
    (Merged.ofFolder disk s.folder index s.suffix).2 = .ok merged

theorem Settings.Merges.unique {s : Settings} {disk : Disk} {merged merged' : Merged}
    (h : s.Merges disk merged) (h' : s.Merges disk merged') : merged = merged' := by
  obtain ⟨index, loads, merges⟩ := h
  obtain ⟨index', loads', merges'⟩ := h'
  obtain rfl : index = index' := Except.ok.inj (loads.symm.trans loads')
  exact Except.ok.inj (merges.symm.trans merges')

/-- What saving a merge gives. -/
def Settings.save (s : Settings) (disk : Disk) (merged : Merged) : Except MergeError Unit × Disk :=
  Results.save disk s.output merged.detections

/-- The machine after an attempt to save. -/
def Host.saved (host : Host) (s : Settings) (merged : Merged) : Host :=
  { host with disk := (s.save host.disk merged).2 }

theorem Host.saved_disk (host : Host) (s : Settings) (merged : Merged) :
    (host.saved s merged).disk = (s.save host.disk merged).2 := by
  simp only [Host.saved]

theorem Host.saved_launcher (host : Host) (s : Settings) (merged : Merged) :
    (host.saved s merged).launcher = host.launcher := by
  simp only [Host.saved]

theorem Host.saved_launches (host : Host) (s : Settings) (merged : Merged) :
    (host.saved s merged).launches = host.launches := by
  simp only [Host.saved]

namespace Run

/-- The machine on which loading begins: after a probe that has succeeded, or at
once if there is no evaluation. -/
inductive Starts (evaluator : Evaluator Host) (s : Settings) (host : Host) : Host → Prop
  | probed (enabled : s.evaluate = true) (answers : (evaluator.probe host).result = .ok ()) :
    Starts evaluator s host (evaluator.probe host).state
  | unevaluated (disabled : s.evaluate = false) : Starts evaluator s host host

theorem Starts.eq_of_unevaluated {evaluator : Evaluator Host} {s : Settings} {host started : Host}
    (starts : Starts evaluator s host started) (disabled : s.evaluate = false) :
    started = host := by
  cases starts with
  | probed enabled => simp [disabled] at enabled
  | unevaluated => rfl

/-- The courses of a run, in the order of the stages that end them. -/
inductive Course (evaluator : Evaluator Host) (s : Settings) (host : Host) : Outcome → Host → Prop
  | evaluatorMissing {name reason : String} (enabled : s.evaluate = true)
    (error : (evaluator.probe host).result = .error (.missing name reason)) :
    Course evaluator s host .evaluatorMissing (evaluator.probe host).state
  | notProbed {cause : EvaluationError} (enabled : s.evaluate = true)
    (error : (evaluator.probe host).result = .error cause)
    (present : ∀ name reason, cause ≠ .missing name reason) :
    Course evaluator s host (.failed (.probing cause)) (evaluator.probe host).state
  | notLoaded {started : Host} {fault : AnnotationError} (starts : Starts evaluator s host started)
    (error : (Annotations.loadIndex started.disk s.annotations).2 = .error fault) :
    Course evaluator s host
      (.failed (.loading fault (Annotations.cause started.wording started.disk s.annotations)))
      started
  | notMerged {started : Host} {index : ImageIndex} {fault : MergeError}
    (starts : Starts evaluator s host started)
    (loads : (Annotations.loadIndex started.disk s.annotations).2 = .ok index)
    (error : (Merged.ofFolder started.disk s.folder index s.suffix).2 = .error fault) :
    Course evaluator s host
      (.failed (.merging fault (fault.cause? started.wording started.disk))) started
  | notSaved {started : Host} {merged : Merged} {fault : MergeError}
    (starts : Starts evaluator s host started) (merges : s.Merges started.disk merged)
    (error : (s.save started.disk merged).1 = .error fault) :
    Course evaluator s host
      (.failed (.saving fault (fault.cause? started.wording started.disk))) (started.saved s merged)
  | unevaluated {started : Host} {merged : Merged} (starts : Starts evaluator s host started)
    (merges : s.Merges started.disk merged)
    (saves : (s.save started.disk merged).1 = .ok ())
    (disabled : s.evaluate = false) :
    Course evaluator s host (.finished (totals merged)) (started.saved s merged)
  | notEvaluated {started : Host} {merged : Merged} {cause : EvaluationError}
    (starts : Starts evaluator s host started) (merges : s.Merges started.disk merged)
    (saves : (s.save started.disk merged).1 = .ok ())
    (enabled : s.evaluate = true)
    (error : (merged.evaluate evaluator s.annotations s.output (started.saved s merged)).result =
      .error cause) :
    Course evaluator s host (.failed (.evaluating evaluator.name cause))
      (merged.evaluate evaluator s.annotations s.output (started.saved s merged)).state
  | evaluated {started : Host} {merged : Merged} {evaluated : Evaluated}
    (starts : Starts evaluator s host started) (merges : s.Merges started.disk merged)
    (saves : (s.save started.disk merged).1 = .ok ())
    (enabled : s.evaluate = true)
    (scores : (merged.evaluate evaluator s.annotations s.output (started.saved s merged)).result =
      .ok evaluated) :
    Course evaluator s host
      (.finished { totals merged with
        evaluatedImages := merged.imageIds.length
        summary := some evaluated.summary })
      (merged.evaluate evaluator s.annotations s.output (started.saved s merged)).state

variable {evaluator : Evaluator Host} {s : Settings} {host started : Host} {merged : Merged}
  {index : ImageIndex}

@[simp] theorem after_outcome (said : List Utterance) (r : Run) :
    (r.after said).outcome = r.outcome := rfl

@[simp] theorem after_host (said : List Utterance) (r : Run) : (r.after said).host = r.host := rfl

/-! ### One stage after the other -/

theorem evaluate_course (starts : Starts evaluator s host started)
    (merges : s.Merges started.disk merged)
    (saves : (s.save started.disk merged).1 = .ok ())
    (enabled : s.evaluate = true) :
    Course evaluator s host (evaluate evaluator s merged (started.saved s merged)).outcome
      (evaluate evaluator s merged (started.saved s merged)).host := by
  cases scored : (merged.evaluate evaluator s.annotations s.output
      (started.saved s merged)).result with
  | error cause =>
    simp only [evaluate, scored, after_outcome, after_host]
    exact .notEvaluated starts merges saves enabled scored
  | ok evaluated =>
    simp only [evaluate, scored, after_outcome, after_host]
    exact .evaluated starts merges saves enabled scored

theorem save_eq (evaluator : Evaluator Host) (s : Settings) (merged : Merged) (host : Host) :
    save evaluator s merged host =
      (match (s.save host.disk merged).1 with
        | .error fault => ending (.failed (.saving fault (fault.cause? host.wording host.disk)))
          (host.saved s merged)
        | .ok () => if s.evaluate then evaluate evaluator s merged (host.saved s merged)
          else finish (totals merged) (host.saved s merged)).after
      [.progress s!"Saving merged detections file: {s.output.display}"] := by
  cases saved : (Results.save host.disk s.output merged.detections).1 with
  | error cause => simp only [save, Settings.save, Host.saved, saved]
  | ok => simp only [save, Settings.save, Host.saved, saved]

theorem save_course (starts : Starts evaluator s host started)
    (merges : s.Merges started.disk merged) :
    Course evaluator s host (save evaluator s merged started).outcome
      (save evaluator s merged started).host := by
  cases written : (s.save started.disk merged).1 with
  | error cause =>
    simp only [save_eq, written, after_outcome, after_host]
    exact .notSaved starts merges written
  | ok =>
    simp only [save_eq, written, after_outcome, after_host]
    split_ifs with enabled
    · exact evaluate_course starts merges written enabled
    · exact .unevaluated starts merges written (Bool.eq_false_iff.2 enabled)

theorem merge_course (starts : Starts evaluator s host started)
    (loads : (Annotations.loadIndex started.disk s.annotations).2 = .ok index) :
    Course evaluator s host (merge evaluator s index started).outcome
      (merge evaluator s index started).host := by
  cases merges : (Merged.ofFolder started.disk s.folder index s.suffix).2 with
  | error cause =>
    simp only [merge, merges, after_outcome, after_host]
    exact .notMerged starts loads merges
  | ok merged =>
    simp only [merge, merges, after_outcome, after_host]
    exact save_course starts ⟨index, loads, merges⟩

theorem load_course (starts : Starts evaluator s host started) :
    Course evaluator s host (load evaluator s started).outcome (load evaluator s started).host := by
  cases loads : (Annotations.loadIndex started.disk s.annotations).2 with
  | error cause =>
    simp only [load, loads, after_outcome, after_host]
    exact .notLoaded starts loads
  | ok index =>
    simp only [load, loads, after_outcome, after_host]
    exact merge_course starts loads

/-- Every run takes one of the courses. -/
theorem all_course (evaluator : Evaluator Host) (s : Settings) (host : Host) :
    Course evaluator s host (all evaluator s host).outcome (all evaluator s host).host := by
  by_cases enabled : s.evaluate = true
  · cases probed : (evaluator.probe host).result with
    | ok =>
      simp only [all, if_pos enabled, probed, after_outcome, after_host]
      exact load_course (.probed enabled probed)
    | error cause =>
      cases cause with
      | missing name reason =>
        simp only [all, if_pos enabled, probed, after_outcome, after_host]
        exact .evaluatorMissing enabled probed
      | notStarted | failed | nothingMerged =>
        simp only [all, if_pos enabled, probed, after_outcome, after_host]
        exact .notProbed enabled probed (fun _ _ => EvaluationError.noConfusion)
  · simp only [all, if_neg enabled, after_outcome, after_host]
    exact load_course (.unevaluated (Bool.eq_false_iff.2 enabled))

theorem all_of_missing {name reason : String} (enabled : s.evaluate = true)
    (error : (evaluator.probe host).result = .error (.missing name reason)) :
    all evaluator s host = ⟨.step "Loading COCO annotations..." ::
        ((evaluator.probe host).emissions.map .emission ++
          [.emission (.notice (.evaluatorMissing name reason)), .progress installHint]),
      .evaluatorMissing, (evaluator.probe host).state⟩ := by
  simp only [all, if_pos enabled, error, after, ending, List.append_nil]
  rfl

end Run

end DetectionMerge
