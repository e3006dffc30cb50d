import DetectionMerge.Proofs.Evaluation.Requests
import DetectionMerge.Proofs.Run.Program

/-! The report of a run that prints JSON. The standard output is one document and
a line feed, and what is decoded from it are the facts of the run. A run that
fails prints nothing there, and neither does one that would have to name an output path
that is no text. -/

namespace DetectionMerge

/-! ### Decoding values -/

namespace Json

def boolean? : Json → Option Bool
  | .boolean b => some b
  | _ => none

def natural? (v : Json) : Option ℕ := v.integer?.bind Int.toNat?

/-- A value that may be `null`. -/
def nullable? {α : Type} (decode : Json → Option α) : Json → Option (Option α)
  | .null => some none
  | v => (decode v).map some

variable {v : Json}

theorem boolean?_of_spells {b : Bool} (h : (Document.boolean b).Spells v) :
    v.boolean? = some b := by
  obtain rfl : v = .boolean b := h
  rfl

theorem text?_of_spells {s : String} (h : (Document.text s).Spells v) : v.text? = some s := by
  obtain ⟨parts, rfl, decoded⟩ := h
  rw [text?, decoded, Option.map_some, String.ofList_toList]

theorem natural?_of_spells {n : ℕ} (h : (Document.integer n).Spells v) :
    v.natural? = some n := by
  rw [natural?, integer?_of_spells h]
  rfl

/-- A number that is missing or not finite is decoded as missing. -/
theorem nullable?_of_spells {x : Option Binary64} (h : (Printed.optionalReal x).Spells v) :
    v.nullable? real? = some (x.filter Binary64.isFinite) := by
  cases x with
  | none =>
    obtain rfl : v = .null := h
    rfl
  | some x =>
    have decoded := real?_of_spells h
    cases x with
    | finite x =>
      obtain ⟨n, rfl, -⟩ := h
      simp only [nullable?, decoded]
      rfl
    | infinite negative =>
      obtain rfl : v = .null := h
      rfl
    | nan =>
      obtain rfl : v = .null := h
      rfl

end Json

/-! ### Decoding reports -/

open Json (Document)

/-- A score as a report has it. A value that is not finite is missing. -/
structure ReportedScore where
  kind : String
  threshold : String
  area : String
  maxDetections : UInt32
  value : Option Binary64
  deriving DecidableEq

namespace ReportedScore

def ofScore (s : Score) : ReportedScore :=
  ⟨s.kind.name, s.threshold, s.area, s.maxDetections, (some s.value).filter Binary64.isFinite⟩

def keys : List String := ["area", "iou", "kind", "max_dets", "value"]

def ofJson? (v : Json) : Option ReportedScore := do
  match ← v.fields? keys with
  | [area, threshold, kind, limit, value] =>
    return ⟨← kind.text?, ← threshold.text?, ← area.text?, ← limit.uint32?,
      ← value.nullable? Json.real?⟩
  | _ => none

theorem ofJson?_of_spells (s : Score) (v : Json) (h : (Printed.scoreDocument s).Spells v) :
    ofJson? v = some (ofScore s) := by
  obtain ⟨fields, rfl, h⟩ := h
  have decoded : Json.fields? keys (.object fields) = some (fields.map (·.2)) :=
    Json.fields?_of_spells (by change keys.Nodup; decide) h
  obtain ⟨_, area, _, rfl, -, hArea, _, threshold, _, rfl, -, hThreshold, _, kind, _, rfl, -, hKind,
    _, limit, _, rfl, -, hLimit, _, value, _, rfl, -, hValue, rfl⟩ := h
  have hValue : value.nullable? Json.real? = some ((some s.value).filter Binary64.isFinite) :=
    Json.nullable?_of_spells hValue
  simp only [ofJson?, decoded, List.map_cons, List.map_nil, Option.bind_eq_bind, Option.bind_some,
    Json.text?_of_spells hArea, Json.text?_of_spells hThreshold, Json.text?_of_spells hKind,
    Json.uint32?_of_spells hLimit, hValue]
  rfl

end ReportedScore

/-- The report of a run that has succeeded. -/
structure Report where
  ap : Option Binary64
  ap50 : Option Binary64
  ap75 : Option Binary64
  evaluated : Bool
  evaluatedImages : ℕ
  matched : ℕ
  scores : List ReportedScore
  output : String
  boxes : ℕ
  unmatched : ℕ
  deriving DecidableEq

namespace Report

/-- What is reported of a run: a headline that is missing or not finite is missing. -/
def ofTotals (output : String) (t : Totals) : Report where
  ap := (t.summary.bind (·.headline? .ap)).filter Binary64.isFinite
  ap50 := (t.summary.bind (·.headline? .ap50)).filter Binary64.isFinite
  ap75 := (t.summary.bind (·.headline? .ap75)).filter Binary64.isFinite
  evaluated := t.summary.isSome
  evaluatedImages := t.evaluatedImages
  matched := t.matched
  scores := (t.summary.elim [] Summary.scores).map ReportedScore.ofScore
  output := output
  boxes := t.boxes
  unmatched := t.unmatched

def keys : List String := ["ap", "ap50", "ap75", "evaluated", "evaluated_images", "matched_files",
  "metrics", "output_json", "total_boxes", "unmatched_files"]

def ofJson? (v : Json) : Option Report := do
  match ← v.fields? keys with
  | [ap, ap50, ap75, evaluated, evaluatedImages, matched, scores, output, boxes, unmatched] =>
    return {
      ap := ← ap.nullable? Json.real?
      ap50 := ← ap50.nullable? Json.real?
      ap75 := ← ap75.nullable? Json.real?
      evaluated := ← evaluated.boolean?
      evaluatedImages := ← evaluatedImages.natural?
      matched := ← matched.natural?
      scores := ← (← scores.items?).mapM ReportedScore.ofJson?
      output := ← output.text?
      boxes := ← boxes.natural?
      unmatched := ← unmatched.natural? }
  | _ => none

/-- The report is decoded as it was meant. -/
theorem ofJson?_of_spells (output : String) (t : Totals) (v : Json)
    (h : (Printed.totalsDocument output t).Spells v) : ofJson? v = some (ofTotals output t) := by
  obtain ⟨fields, rfl, h⟩ := h
  have decoded : Json.fields? keys (.object fields) = some (fields.map (·.2)) :=
    Json.fields?_of_spells (by change keys.Nodup; decide) h
  obtain ⟨_, ap, _, rfl, -, hAp, _, ap50, _, rfl, -, hAp50, _, ap75, _, rfl, -, hAp75,
    _, evaluated, _, rfl, -, hEvaluated, _, images, _, rfl, -, hImages,
    _, matched, _, rfl, -, hMatched, _, _, _, rfl, -, ⟨scores, rfl, hScores⟩,
    _, path, _, rfl, -, hPath, _, boxes, _, rfl, -, hBoxes,
    _, unmatched, _, rfl, -, hUnmatched, rfl⟩ := h
  have hScores := Json.mapM_eq_map_of_spellsItems ReportedScore.ofJson?_of_spells hScores
  simp only [ofJson?, decoded, List.map_cons, List.map_nil, Json.items?, Option.bind_eq_bind,
    Option.bind_some, Json.nullable?_of_spells hAp, Json.nullable?_of_spells hAp50,
    Json.nullable?_of_spells hAp75, Json.boolean?_of_spells hEvaluated,
    Json.natural?_of_spells hImages, Json.natural?_of_spells hMatched, hScores,
    Json.text?_of_spells hPath, Json.natural?_of_spells hBoxes,
    Json.natural?_of_spells hUnmatched]
  cases summary : t.summary <;> simp [ofTotals, summary]

end Report

/-- The report of a run without an evaluator: whether it has evaluated, and what to
do about it. -/
def MissingReport.ofJson? (v : Json) : Option (Bool × String) := do
  match ← v.fields? ["error", "evaluated"] with
  | [hint, evaluated] => return (← evaluated.boolean?, ← hint.text?)
  | _ => none

theorem MissingReport.ofJson?_of_spells (v : Json) (h : Printed.missingDocument.Spells v) :
    ofJson? v = some (false, Run.installHint) := by
  obtain ⟨fields, rfl, h⟩ := h
  have decoded : Json.fields? ["error", "evaluated"] (.object fields) =
      some (fields.map (·.2)) := Json.fields?_of_spells (by decide) h
  obtain ⟨_, hint, _, rfl, -, hHint, _, evaluated, _, rfl, -, hEvaluated, rfl⟩ := h
  simp only [ofJson?, decoded, List.map_cons, List.map_nil, Option.bind_eq_bind, Option.bind_some,
    Json.text?_of_spells hHint, Json.boolean?_of_spells hEvaluated]
  rfl

/-! ### The standard output -/

/-- A text is one JSON object and a line feed. -/
def IsDocumentLine (output : String) (v : Json) : Prop :=
  ∃ text : List Char, output = String.ofList text ++ "\n" ∧ text.head? = some '\x7b' ∧
    text.getLast? = some '\x7d' ∧ Json.ofText? text = some v

/-- A record with members is printed as one object, on one line or indented. -/
theorem exists_isDocumentLine (member : String × Document) (members : List (String × Document)) :
    ∃ v, (Document.record (member :: members)).Spells v ∧
      IsDocumentLine (Printed.lineOf
        (String.ofList (Document.record (member :: members)).compact)) v ∧
      IsDocumentLine (Printed.lineOf
        (String.ofList (Document.record (member :: members)).pretty)) v := by
  obtain ⟨v, spells, compact, pretty⟩ := Json.exists_ofText? (.record (member :: members))
  refine ⟨v, spells, ⟨_, rfl, ?_, ?_, compact⟩, ⟨_, rfl, ?_, ?_, pretty⟩⟩
  · simp [Document.compact]
  · rw [Document.compact]
    exact List.getLast?_concat
  · simp [Document.pretty, Document.indented]
  · rw [Document.pretty, Document.indented]
    · exact List.getLast?_concat
    · exact List.cons_ne_nil _ _

/-! ### An evaluation that succeeds -/

open Evaluation (probeLaunch scoreLaunch probeResult scoreResult ofProgram idsOfBytes?)

/-- Scores come from one start that ends well, and are those of its output. -/
theorem Evaluation.exists_ended_of_evaluate {s : Settings} {merged : Merged} {host : Host}
    {evaluated : Evaluated}
    (scores : (merged.evaluate (ofProgram s.program) s.annotations s.output host).result =
      .ok evaluated) :
    (merged.evaluate (ofProgram s.program) s.annotations s.output host).state.launches =
        host.launches ++ [scoreLaunch s.program (merged.request s)] ∧
      ∃ ended, (host.launcher (scoreLaunch s.program (merged.request s)) host.disk).1 = .ok ended ∧
        ended.status = 0 ∧
        evaluated.summary = .ofReport (Text.Utf8.decodeLossy ended.output) := by
  rw [Merged.evaluate] at scores ⊢
  split_ifs at scores ⊢ with nothing
  refine ⟨rfl, ?_⟩
  change scoreResult s.program
    (host.launcher (scoreLaunch s.program (merged.request s)) host.disk).1 = _ at scores
  cases ends : (host.launcher (scoreLaunch s.program (merged.request s)) host.disk).1 with
  | error fault =>
    rw [ends] at scores
    cases scores
  | ok ended =>
    rw [ends, scoreResult] at scores
    split_ifs at scores with zero
    cases scores
    exact ⟨ended, rfl, zero, rfl⟩

/-! ### Reports of runs -/

/-- What the document of a run says is true of the run. -/
inductive Tells (s : Settings) (host after : Host) (v : Json) : Prop
  /-- The evaluator is missing: the document says that nothing was evaluated, and
  how to install it. -/
  | missing (lacks : s.evaluate = true ∧ ∃ name reason, probeResult s.program
      (host.launcher (probeLaunch s.program) host.disk).1 = .error (.missing name reason))
    (decodes : MissingReport.ofJson? v = some (false, Run.installHint))
  /-- Without an evaluation there are only the counts of the merge. -/
  | unevaluated {merged : Merged} {output : String} (disabled : s.evaluate = false)
    (merges : s.Merges host.disk merged) (saves : (s.save host.disk merged).1 = .ok ())
    (text : s.output.raw.text? = some output)
    (decodes : Report.ofJson? v = some (.ofTotals output {
      boxes := merged.detections.length
      matched := merged.matched
      unmatched := merged.unmatched
      evaluatedImages := 0
      summary := none }))
  /-- The evaluation was started last, with as many image ids as the document says,
  and the metrics are those of what it printed. -/
  | evaluated {merged : Merged} {started : Host} {ended : Ended} {output : String}
    (enabled : s.evaluate = true)
    (starts : Run.Starts (ofProgram s.program) s host started)
    (merges : s.Merges started.disk merged) (saves : (s.save started.disk merged).1 = .ok ())
    (launches : after.launches = started.launches ++ [scoreLaunch s.program (merged.request s)])
    (input : idsOfBytes? (scoreLaunch s.program (merged.request s)).input = some merged.imageIds)
    (ends : (started.launcher (scoreLaunch s.program (merged.request s))
      (s.save started.disk merged).2).1 = .ok ended) (zero : ended.status = 0)
    (text : s.output.raw.text? = some output)
    (decodes : Report.ofJson? v = some (.ofTotals output {
      boxes := merged.detections.length
      matched := merged.matched
      unmatched := merged.unmatched
      evaluatedImages := merged.imageIds.length
      summary := some (.ofReport (Text.Utf8.decodeLossy ended.output)) }))

namespace Run

/-- A run prints a document that tells its facts, or it has failed and prints nothing. -/
theorem Course.report {s : Settings} {host after : Host} {outcome : Outcome} {text : String}
    (course : Course (ofProgram s.program) s host outcome after)
    (prints : Printed.report? s.output outcome = some text) :
    (Printed.statusOf outcome = 0 ∧ ∃ v, IsDocumentLine text v ∧ Tells s host after v) ∨
      Printed.statusOf outcome = 1 ∧ text = "" := by
  cases course with
  | notProbed | notLoaded | notMerged | notSaved | notEvaluated =>
    cases prints
    exact .inr ⟨rfl, rfl⟩
  | evaluatorMissing enabled error =>
    cases prints
    obtain ⟨v, spells, line, -⟩ := exists_isDocumentLine _ _
    exact .inl ⟨rfl, v, line, .missing ⟨enabled, _, _, error⟩
      (MissingReport.ofJson?_of_spells v spells)⟩
  | unevaluated starts merges saves disabled =>
    obtain ⟨output, path, rfl⟩ := Option.map_eq_some_iff.1 prints
    obtain ⟨v, spells, -, line⟩ := exists_isDocumentLine _ _
    refine .inl ⟨rfl, v, line, ?_⟩
    cases starts with
    | probed enabled =>
      rw [enabled] at disabled
      cases disabled
    | unevaluated =>
      exact .unevaluated disabled merges saves path (Report.ofJson?_of_spells output _ v spells)
  | @evaluated started merged evaluated starts merges saves enabled scores =>
    obtain ⟨output, path, rfl⟩ := Option.map_eq_some_iff.1 prints
    obtain ⟨v, spells, -, line⟩ := exists_isDocumentLine _ _
    refine .inl ⟨rfl, v, line, ?_⟩
    obtain ⟨launches, ended, ends, zero, summary⟩ := Evaluation.exists_ended_of_evaluate scores
    rw [Host.saved_launches] at launches
    rw [Host.saved_launcher, Host.saved_disk] at ends
    have decodes := Report.ofJson?_of_spells output _ v spells
    rw [summary] at decodes
    exact .evaluated enabled starts merges saves launches (Evaluation.idsOfBytes?_input _ _) ends
      zero path decodes

end Run

namespace Program

open CommandLine (Options parse)

variable {options : Options} {env : Environment} {host : Host} {arguments : List SystemText}

/-- A run that is asked for JSON and ends with status zero prints one document,
which tells the facts of the run. If it ends otherwise, nothing is printed, and the
status is one, unless the output path is no text. -/
theorem main_report (accepted : parse arguments = .run options) (json : options.json = true) :
    ((main arguments env host).1.status = 0 ∧
        ∃ v, IsDocumentLine (main arguments env host).1.output v ∧
          Tells (settings options env host.disk) host (main arguments env host).2 v) ∨
      ((main arguments env host).1.status = 1 ∧ (main arguments env host).1.output = "") ∨
      (main arguments env host).1.status = Printed.abortStatus ∧
        (settings options env host.disk).output.raw.text? = none ∧
        (main arguments env host).1.output = "" := by
  rw [main_of_parse accepted, runWith_output]
  cases prints : output? options env host with
  | none =>
    have status := runWith_status_of_none prints
    rw [output?, if_pos json, Printed.report?_eq_none_iff] at prints
    exact .inr (.inr ⟨status, prints.1, rfl⟩)
  | some text =>
    have status := runWith_status_of_isSome (Option.isSome_of_eq_some prints)
    rw [output?, if_pos json] at prints
    rw [status]
    exact ((runOf_course options env host).report prints).imp_right .inl

/-- A command line that asks for JSON. -/
def reportArguments : List SystemText := "--json" :: sampleArguments

def tableLine : String :=
  " Average Precision  (AP) @[ IoU=0.50:0.95 | area=   all | maxDets=100 ] = 0.500\n"

/-- The sample, with programs that print this line if they have more arguments than a probe. -/
def scoringHost : Host where
  disk := sampleDisk
  launcher launch disk :=
    let output := if launch.arguments.length = 2 then "" else tableLine
    (.ok ⟨0, Text.Utf8.encode output.toList, []⟩, disk)

theorem scoringHost_launcher (program : String) (r : Request) (disk : Disk) :
    (scoringHost.launcher (scoreLaunch program r) disk).1 =
      .ok ⟨0, Text.Utf8.encode tableLine.toList, []⟩ := by
  have arguments : (scoreLaunch program r).arguments.length ≠ 2 := by simp [scoreLaunch]
  simp only [scoringHost, if_neg arguments]

/-- The run of the sample prints a document with one score. -/
theorem main_report_scoringHost :
    ∃ v report, IsDocumentLine (main reportArguments sampleEnvironment scoringHost).1.output v ∧
      Tells (settings { sampleOptions with json := true } sampleEnvironment sampleDisk) scoringHost
        (main reportArguments sampleEnvironment scoringHost).2 v ∧
      Report.ofJson? v = some report ∧ report.scores.map (·.kind) = ["AP"] := by
  have accepted : parse reportArguments = .run { sampleOptions with json := true } := by
    decide +kernel
  have status : (main reportArguments sampleEnvironment scoringHost).1.status = 0 := by
    decide +kernel
  obtain ⟨-, v, line, tells⟩ | ⟨failed, -⟩ | ⟨aborted, -⟩ :=
    @main_report _ sampleEnvironment scoringHost _ accepted rfl
  · have told := tells
    cases tells with
    | missing lacks =>
      obtain ⟨-, name, reason, error⟩ := lacks
      cases error
    | unevaluated disabled => cases disabled
    | @evaluated merged started ended output enabled starts merges saves launches input ends zero
        text decodes =>
      have printed : ended.output = Text.Utf8.encode tableLine.toList := by
        have same : started.launcher = scoringHost.launcher := by cases starts <;> rfl
        rw [same, scoringHost_launcher] at ends
        cases ends
        rfl
      have kinds : ((Summary.ofReport (Text.Utf8.decodeLossy
          (Text.Utf8.encode tableLine.toList))).scores.map ReportedScore.ofScore).map (·.kind) =
            ["AP"] := by decide +kernel
      refine ⟨v, _, line, told, decodes, ?_⟩
      simpa only [Report.ofTotals, printed, Option.elim_some] using kinds
  · cases status.symm.trans failed
  · cases status.symm.trans aborted

end Program

end DetectionMerge
