import DetectionMerge.Evaluation.Program
import DetectionMerge.Proofs.Folder.Merge
import DetectionMerge.Proofs.Folder.ResultsText

/-! What evaluators are asked. A merge with detections is one request, for the
images of all files that hold an array; a merge without detections is none. The
image ids reach the evaluator's program as an array on its standard input. -/

namespace DetectionMerge

/-! ### The images of a merge -/

/-- A file with an array, of the image with this id. -/
def DetectionFile.Scores (index : ImageIndex) (suffix : String) (file : DetectionFile)
    (id : Int64) : Prop :=
  index.get? (file.stem ++ suffix) = some id ∧ ∃ boxes, file.Holds (.boxes boxes)

/-- The images to be scored are the right ones for the detections of these files. -/
structure Merged.Covers (index : ImageIndex) (suffix : String) (files : List DetectionFile)
    (merged : Merged) : Prop where
  /-- Every detection is of an image to be scored. -/
  detections : ∀ d ∈ merged.detections, d.imageId ∈ merged.imageIds
  /-- The images to be scored are those of the files that hold an array, which files
  of no known image do not have. -/
  scored : ∀ id, id ∈ merged.imageIds ↔ ∃ file ∈ files, file.Scores index suffix id
  /-- The image of a blank file or of `null` is to be scored only for another file. -/
  unscored : ∀ file ∈ files, file.Holds .noResult →
    ∀ id ∈ merged.imageIds, index.get? (file.stem ++ suffix) = some id →
      ∃ other ∈ files, other ≠ file ∧ other.Scores index suffix id

namespace Contribution

variable {index : ImageIndex} {suffix : String} {file : DetectionFile} {files : List DetectionFile}
  {c : Contribution} {cs : List Contribution}

theorem mem_imageIds_iff (h : file.Contributes index suffix c) (id : Int64) :
    id ∈ c.imageIds ↔ file.Scores index suffix id := by
  cases h with
  | unmatched unknown => simp [imageIds, DetectionFile.Scores, unknown]
  | unscored known holds =>
    refine iff_of_false List.not_mem_nil ?_
    rintro ⟨-, boxes, array⟩
    cases (DetectionFile.read_of_holds holds).symm.trans (DetectionFile.read_of_holds array)
  | scored known holds =>
    rw [imageIds, List.mem_singleton, DetectionFile.Scores, known, Option.some.injEq, eq_comm,
      and_iff_left ⟨_, holds⟩]

theorem imageId_mem_flatMap (h : List.Forall₂ (DetectionFile.Contributes index suffix) files cs) :
    ∀ d ∈ cs.flatMap detections, d.imageId ∈ cs.flatMap imageIds := by
  induction h with
  | nil => exact List.forall_mem_nil _
  | cons contributes _ ih =>
    simp only [List.flatMap_cons, List.mem_append]
    exact fun d => Or.imp (imageId_mem contributes d) (ih d)

theorem mem_flatMap_imageIds_iff
    (h : List.Forall₂ (DetectionFile.Contributes index suffix) files cs) (id : Int64) :
    id ∈ cs.flatMap imageIds ↔ ∃ file ∈ files, file.Scores index suffix id := by
  induction h with
  | nil => simp
  | cons contributes _ ih =>
    rw [List.flatMap_cons, List.mem_append, mem_imageIds_iff contributes, ih,
      List.exists_mem_cons_iff]

end Contribution

theorem Merged.covers_of_ofFolder {disk : Disk} {folder : Path} {index : ImageIndex}
    {suffix : String} {notices : List Notice} {merged : Merged}
    (merges : Merged.ofFolder disk folder index suffix = (notices, .ok merged)) :
    ∃ names stems, disk.Lists folder names ∧ InNameOrder disk folder names stems ∧
      merged.Covers index suffix (stems.map (DetectionFile.inFolder disk folder)) := by
  obtain ⟨names, listing, merges⟩ := ofNames_of_ofFolder merges
  obtain ⟨stems, cs, ordered, contribute, sum, -⟩ := exists_contributions merges
  rw [foldl_plus] at sum
  subst sum
  have scored := Contribution.mem_flatMap_imageIds_iff contribute
  refine ⟨names, stems, ⟨names, listing, .refl _⟩, ordered,
    Contribution.imageId_mem_flatMap contribute, scored, fun file _ empty id member _ => ?_⟩
  obtain ⟨other, inside, scores⟩ := (scored id).1 member
  refine ⟨other, inside, ?_, scores⟩
  rintro rfl
  obtain ⟨-, boxes, array⟩ := scores
  cases (DetectionFile.read_of_holds empty).symm.trans (DetectionFile.read_of_holds array)

/-! ### One evaluation -/

namespace Evaluator

/-- An evaluator with a record of the requests that it has been given. -/
def observed {σ : Type} (evaluator : Evaluator σ) : Evaluator (σ × List Request) where
  name := evaluator.name
  probe s :=
    let reply := evaluator.probe s.1
    ⟨reply.emissions, reply.result, (reply.state, s.2)⟩
  score request s :=
    let reply := evaluator.score request s.1
    ⟨reply.emissions, reply.result, (reply.state, s.2 ++ [request])⟩

end Evaluator

namespace Evaluation

/-- The image ids that a standard input holds. -/
def idsOfBytes? (bytes : List UInt8) : Option (List Int64) := do
  (← (← Json.ofBytes? bytes).items?).mapM Json.int64?

/-- All ids get through, of whatever size and however often. -/
theorem idsOfBytes?_input (program : String) (request : Request) :
    idsOfBytes? (scoreLaunch program request).input = some request.imageIds := by
  obtain ⟨v, ⟨values, rfl, spells⟩, reads⟩ := Json.exists_ofText?_compact
    (.list (request.imageIds.map fun id => .integer id.toInt))
  have value : Json.ofBytes? (scoreLaunch program request).input = some (.array values) := by
    rw [Json.ofBytes?, scoreLaunch, Text.Utf8.symbols_encode]
    exact reads
  rw [idsOfBytes?, value]
  have ids := Json.mapM_eq_map_of_spellsItems (fun _ _ => Json.int64?_of_spells) spells
  rwa [List.map_id'] at ids

end Evaluation

/-! ### Evaluations in a row -/

structure EvaluateCall where
  merged : Merged
  annotations : Path
  output : Path

/-- What a call asks for, if there is anything to be scored. -/
def EvaluateCall.request? (call : EvaluateCall) : Option Request :=
  if call.merged.detections = [] then none
  else some ⟨call.annotations, call.output, call.merged.imageIds, .box⟩

namespace Evaluator

variable {σ β : Type}

def afterCalls (evaluator : Evaluator σ) (calls : List EvaluateCall) (state : σ) : σ :=
  calls.foldl
    (fun state call => (call.merged.evaluate evaluator call.annotations call.output state).state) state

theorem evaluate_of_request? (evaluator : Evaluator σ) (call : EvaluateCall) (state : σ) :
    call.merged.evaluate evaluator call.annotations call.output state =
      call.request?.elim { result := .error .nothingMerged, state := state }
        (evaluator.score · state) := by
  rw [Merged.evaluate, EvaluateCall.request?]
  by_cases nothing : call.merged.detections = []
  · rw [if_pos (List.isEmpty_iff.2 nothing), if_pos nothing]
    rfl
  · rw [if_neg (mt List.isEmpty_iff.1 nothing), if_neg nothing]
    rfl

/-- A record that grows with every request has the requests of all calls. -/
theorem record_afterCalls (evaluator : Evaluator σ) (record : σ → List β) (entry : Request → β)
    (grows : ∀ request state, record (evaluator.score request state).state =
      record state ++ [entry request])
    (calls : List EvaluateCall) (state : σ) :
    record (evaluator.afterCalls calls state) =
      record state ++ (calls.filterMap EvaluateCall.request?).map entry := by
  induction calls generalizing state with
  | nil => simp [afterCalls]
  | cons call calls ih =>
    have rest := ih (call.merged.evaluate evaluator call.annotations call.output state).state
    rw [evaluate_of_request?] at rest
    rw [afterCalls, List.foldl_cons, evaluate_of_request?]
    refine rest.trans ?_
    cases asked : call.request? with
    | none => rw [List.filterMap_cons_none asked, Option.elim_none]
    | some request =>
      rw [List.filterMap_cons_some asked, Option.elim_some, grows, List.map_cons,
        List.append_assoc, List.singleton_append]

theorem observed_afterCalls (evaluator : Evaluator σ) (calls : List EvaluateCall) (state : σ)
    (seen : List Request) :
    evaluator.observed.afterCalls calls (state, seen) =
      (evaluator.afterCalls calls state, seen ++ calls.filterMap EvaluateCall.request?) := by
  refine Prod.ext ?_ ?_
  · induction calls generalizing state seen with
    | nil => rfl
    | cons call calls ih =>
      simp only [afterCalls, List.foldl_cons, evaluate_of_request?] at ih ⊢
      cases call.request? <;> exact ih _ _
  · have record := record_afterCalls evaluator.observed Prod.snd id (fun _ _ => rfl) calls
      (state, seen)
    rwa [List.map_id] at record

theorem launches_afterCalls (program : String) (calls : List EvaluateCall) (host : Host) :
    ((Evaluation.ofProgram program).afterCalls calls host).launches = host.launches ++
      (calls.filterMap EvaluateCall.request?).map (Evaluation.scoreLaunch program) :=
  record_afterCalls (Evaluation.ofProgram program) Host.launches (Evaluation.scoreLaunch program)
    (fun _ _ => rfl) calls host

end Evaluator

/-! ### The requests of a merge -/

/-- What an evaluation of a merge asks of an evaluator. -/
structure Merged.Asks (merged : Merged) (annotations output : Path) : Prop where
  /-- Detections are one request, whatever the evaluator does with it. -/
  request : merged.detections ≠ [] → ∀ {σ : Type} (evaluator : Evaluator σ) (state : σ),
    (merged.evaluate evaluator.observed annotations output (state, [])).state =
      ((merged.evaluate evaluator annotations output state).state,
        [⟨annotations, output, merged.imageIds, .box⟩])
  /-- For an interpreter this is one start, with the paths as arguments and the
  image ids on the standard input. -/
  launch : merged.detections ≠ [] → ∀ (program : String) (host : Host), ∃ launch : Launch,
    (merged.evaluate (Evaluation.ofProgram program) annotations output host).state.launches =
        host.launches ++ [launch] ∧
      launch.program = program ∧
      launch.arguments =
        (["-c", Evaluation.scoreScript, annotations.raw, output.raw, "bbox"] : List SystemText) ∧
      Evaluation.idsOfBytes? launch.input = some merged.imageIds
  /-- Without detections the evaluator is left alone. -/
  nothing : merged.detections = [] → ∀ {σ : Type} (evaluator : Evaluator σ) (state : σ),
    merged.evaluate evaluator annotations output state =
      { result := .error .nothingMerged, state := state }

theorem Merged.asks (merged : Merged) (annotations output : Path) :
    merged.Asks annotations output where
  request some _ evaluator state := by
    have observed := evaluator.observed_afterCalls [⟨merged, annotations, output⟩] state []
    simpa [Evaluator.afterCalls, EvaluateCall.request?, some] using observed
  launch some program host := by
    have launches := Evaluator.launches_afterCalls program [⟨merged, annotations, output⟩] host
    refine ⟨Evaluation.scoreLaunch program ⟨annotations, output, merged.imageIds, .box⟩, ?_, rfl,
      rfl, Evaluation.idsOfBytes?_input _ _⟩
    simpa [Evaluator.afterCalls, EvaluateCall.request?, some] using launches
  nothing none _ evaluator state := by
    rw [evaluate, if_pos (List.isEmpty_iff.2 none)]

/-- A merge that succeeds asks for the images of its detections, of all files that
hold an array and of no others, with one request if there are any detections. Over
calls in a row the requests are those of the merges with detections, in order. -/
theorem Merged.requests_of_ofFolder {disk : Disk} {folder : Path} {index : ImageIndex}
    {suffix : String} {notices : List Notice} {merged : Merged}
    (merges : Merged.ofFolder disk folder index suffix = (notices, .ok merged)) :
    (∃ names stems, disk.Lists folder names ∧ InNameOrder disk folder names stems ∧
      merged.Covers index suffix (stems.map (DetectionFile.inFolder disk folder))) ∧
    (∀ annotations output, merged.Asks annotations output) ∧
    (∀ {σ : Type} (evaluator : Evaluator σ) calls state seen,
      evaluator.observed.afterCalls calls (state, seen) =
        (evaluator.afterCalls calls state, seen ++ calls.filterMap EvaluateCall.request?)) ∧
    ∀ program calls host, ((Evaluation.ofProgram program).afterCalls calls host).launches =
      host.launches ++
        (calls.filterMap EvaluateCall.request?).map (Evaluation.scoreLaunch program) :=
  ⟨covers_of_ofFolder merges, merged.asks, Evaluator.observed_afterCalls,
    Evaluator.launches_afterCalls⟩

/-- The merge of one box asks for its image. -/
theorem Merged.requests_of_sampleDisk : ∃ notices merged,
    ofFolder sampleDisk ⟨"."⟩ sampleIndex ".jpg" = (notices, .ok merged) ∧
      ∀ host : Host, ∃ launch : Launch,
        (merged.evaluate (Evaluation.ofProgram "python3") ⟨"gt.json"⟩ ⟨"out.json"⟩
            host).state.launches = host.launches ++ [launch] ∧
          Evaluation.idsOfBytes? launch.input = some [1] := by
  have evaluates : ((ofFolder sampleDisk ⟨"."⟩ sampleIndex ".jpg").2.toOption.map
      fun merged => (merged.detections.length, merged.imageIds)) = some (1, [1]) := by
    decide +kernel
  cases outcome : (ofFolder sampleDisk ⟨"."⟩ sampleIndex ".jpg").2 with
  | error e =>
    rw [outcome] at evaluates
    cases evaluates
  | ok merged =>
    simp only [outcome, Except.toOption, Option.map_some, Option.some.injEq, Prod.mk.injEq]
      at evaluates
    obtain ⟨one, ids⟩ := evaluates
    refine ⟨_, merged, Prod.ext rfl outcome, fun host => ?_⟩
    obtain ⟨-, asks, -⟩ := requests_of_ofFolder (Prod.ext rfl outcome)
    obtain ⟨launch, started, -, -, input⟩ := (asks ⟨"gt.json"⟩ ⟨"out.json"⟩).launch
      (List.ne_nil_of_length_pos (by omega)) "python3" host
    exact ⟨launch, started, ids ▸ input⟩

end DetectionMerge
