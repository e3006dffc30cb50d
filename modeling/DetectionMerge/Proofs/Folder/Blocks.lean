import DetectionMerge.Proofs.Folder.Merge
import DetectionMerge.Proofs.Record.Index

/-! How the outcome of a merge is laid out. If every image has an id of its own, the
detections of an image stand side by side and in the order of the images, as many as there
are elements in the array of its file. Whatever the ids are, there are no more images than
files of known images, and only categories of the annotation files. -/

namespace DetectionMerge

variable {disk : Disk} {folder : Path} {names : List SystemText} {stems : List String}
  {index : ImageIndex} {suffix : String} {file : DetectionFile} {files : List DetectionFile}
  {c : Contribution} {cs : List Contribution} {merged : Merged} {notices : List Notice}

/-! ### Images with ids of their own -/

theorem InNameOrder.nodup (ordered : InNameOrder disk folder names stems) (once : names.Nodup) :
    stems.Nodup :=
  .of_map _ (ordered.files.nodup_iff.2 (once.filter _))

/-- Files of one folder belong to different images. -/
theorem ImageIndex.IsInjective.nodup (injective : index.IsInjective) (once : stems.Nodup)
    (suffix : String) : (stems.filterMap fun stem => index.get? (stem ++ suffix)).Nodup := by
  refine once.filterMap fun stem stem' id found found' => ?_
  exact String.append_left_inj suffix |>.1 (injective _ _ id found found')

namespace Contribution

/-- The images to be scored are among those that the files belong to, in the same order. -/
theorem imageIds_sublist (h : List.Forall₂ (DetectionFile.Contributes index suffix) files cs) :
    (cs.flatMap imageIds).Sublist
      (files.filterMap fun file => index.get? (file.stem ++ suffix)) := by
  induction h with
  | nil => exact .slnil
  | cons contributes _ ih =>
    cases contributes with
    | unmatched unknown =>
      simp only [List.filterMap_cons, unknown]
      exact ih
    | unscored known =>
      simp only [List.filterMap_cons, known]
      exact ih.cons _
    | scored known =>
      simp only [List.filterMap_cons, known]
      exact ih.cons_cons _

theorem length_imageIds_le (h : List.Forall₂ (DetectionFile.Contributes index suffix) files cs) :
    (cs.flatMap imageIds).length ≤ files.countP (DetectionFile.isMatched index suffix) := by
  refine (imageIds_sublist h).length_le.trans_eq ?_
  rw [List.length_filterMap_eq_countP]
  rfl

/-! ### Blocks of detections -/

/-- Where no image is scored twice, the detections of an image are those of its file. -/
theorem filter_detections {imageId : Int64} {boxes : List CornerDetection}
    {detections : List Detection} (once : (cs.flatMap imageIds).Nodup)
    (labelled : ∀ c ∈ cs, ∀ d ∈ c.detections, d.imageId ∈ c.imageIds)
    (member : scored imageId boxes detections ∈ cs) :
    (cs.flatMap Contribution.detections).filter (·.imageId = imageId) = detections := by
  obtain ⟨before, after, rfl⟩ := List.append_of_mem member
  rw [List.flatMap_append, List.flatMap_cons] at once ⊢
  obtain ⟨-, tail, apart⟩ := List.nodup_append'.1 once
  have elsewhere (others : List Contribution) (subset : others ⊆ before ++ after) :
      (others.flatMap Contribution.detections).filter (·.imageId = imageId) = [] := by
    rw [List.filter_eq_nil_iff]
    intro d inside same
    obtain ⟨c, among, inside⟩ := List.mem_flatMap.1 inside
    obtain rfl : d.imageId = imageId := of_decide_eq_true same
    have scored : d.imageId ∈ c.imageIds :=
      labelled c (List.mem_append.2 ((List.mem_append.1 (subset among)).imp_right (.tail _))) d inside
    rcases List.mem_append.1 (subset among) with first | last
    · exact apart (List.mem_flatMap.2 ⟨c, first, scored⟩) (List.mem_cons_self)
    · exact (List.nodup_cons.1 tail).1 (List.mem_flatMap.2 ⟨c, last, scored⟩)
  have own : detections.filter (·.imageId = imageId) = detections := by
    rw [List.filter_eq_self]
    intro d inside
    exact decide_eq_true (List.mem_singleton.1 (labelled _ member d inside))
  rw [List.filter_append, List.filter_append, elsewhere before (List.subset_append_left _ _),
    elsewhere after (List.subset_append_right _ _), List.append_nil]
  exact own

/-- Each image has its own block. -/
theorem flatMap_filter_detections (once : (cs.flatMap imageIds).Nodup)
    (labelled : ∀ c ∈ cs, ∀ d ∈ c.detections, d.imageId ∈ c.imageIds) :
    (cs.flatMap imageIds).flatMap
        (fun id => (cs.flatMap detections).filter (·.imageId = id)) = cs.flatMap detections := by
  rw [List.flatMap_assoc]
  refine List.flatMap_congr fun c member => ?_
  cases c with
  | unmatched | unscored => rfl
  | scored id boxes detections =>
    rw [imageIds, List.flatMap_singleton, filter_detections once labelled member]
    rfl

/-! ### Categories -/

theorem categoryId_mem (h : file.Contributes index suffix c) :
    ∀ d ∈ c.detections, d.categoryId ∈ Category.ids := by
  cases h with
  | unmatched | unscored => exact List.forall_mem_nil _
  | scored _ _ converts =>
    intro d member
    obtain ⟨box, -, categoryId, category, rfl⟩ := Traversal.exists_mem_of_forall₂ converts member
    rw [Category.ofLabel?] at category
    split_ifs at category
    exact List.mem_of_getElem? category

end Contribution

theorem Category.not_mem_unusedIds {id : UInt32} (used : id ∈ ids) : id ∉ unusedIds := by
  have apart : (ids.all fun id => id ∉ unusedIds) = true := by decide
  exact of_decide_eq_true (List.all_eq_true.1 apart id used)

namespace Merged

def detectionsOf (merged : Merged) (id : Int64) : List Detection :=
  merged.detections.filter (·.imageId = id)

/-- The array in the file of an image. -/
def ArrayOf (disk : Disk) (folder : Path) (names : List SystemText) (index : ImageIndex)
    (suffix : String) (id : Int64) (items : List Json) : Prop :=
  ∃ stem text, detectionName stem ∈ names.filter (isDetectionFile disk folder) ∧
    index.get? (stem ++ suffix) = some id ∧
    (DetectionFile.inFolder disk folder stem).HasText text ∧
    Json.ofText? text = some (.array items)

/-- If different images have different ids, no image is scored twice, and the detections are
one block for each image, in the order of the images, with one detection for each element
of the array in the image's file. Whatever the ids are, no more images are scored than
there are files of known images, and all categories are in use. -/
theorem blocks_of_ofNames (lists : disk.Lists folder names) (once : names.Nodup)
    (succeeds : ofNames disk folder index suffix names = (notices, .ok merged)) :
    (ofFolder disk folder index suffix).2 = .ok merged ∧
      merged.imageIds.length ≤ merged.matched ∧
      (∀ d ∈ merged.detections, d.categoryId ∈ Category.ids ∧ d.categoryId ∉ Category.unusedIds) ∧
      (index.IsInjective → merged.imageIds.Nodup ∧
        merged.detections = merged.imageIds.flatMap merged.detectionsOf ∧
        ∀ id ∈ merged.imageIds, ∃ items, ArrayOf disk folder names index suffix id items ∧
          (merged.detectionsOf id).length = items.length) := by
  refine ⟨by rw [ofFolder_outcome lists, succeeds], ?_⟩
  obtain ⟨stems, cs, ordered, contribute, rfl, -⟩ := exists_contributions succeeds
  have origin (c : Contribution) (member : c ∈ cs) : ∃ stem ∈ stems,
      (DetectionFile.inFolder disk folder stem).Contributes index suffix c :=
    Traversal.exists_mem_of_forall₂ (List.forall₂_map_left_iff.1 contribute) member
  have labelled (c : Contribution) (member : c ∈ cs) :
      ∀ d ∈ c.detections, d.imageId ∈ c.imageIds := by
    obtain ⟨stem, -, contributes⟩ := origin c member
    exact Contribution.imageId_mem contributes
  rw [foldl_plus]
  simp only [detectionsOf, List.nil_append, Nat.zero_add]
  refine ⟨?_, fun d member => ?_, fun injective => ?_⟩
  · rw [countP_matched contribute]
    exact Contribution.length_imageIds_le contribute
  · obtain ⟨c, among, inside⟩ := List.mem_flatMap.1 member
    obtain ⟨stem, -, contributes⟩ := origin c among
    have used := Contribution.categoryId_mem contributes d inside
    exact ⟨used, Category.not_mem_unusedIds used⟩
  · have scoredOnce : (cs.flatMap Contribution.imageIds).Nodup := by
      have images := Contribution.imageIds_sublist contribute
      rw [List.filterMap_map] at images
      exact (injective.nodup (ordered.nodup once) suffix).sublist images
    refine ⟨scoredOnce, (Contribution.flatMap_filter_detections scoredOnce labelled).symm,
      fun id member => ?_⟩
    obtain ⟨c, among, inside⟩ := List.mem_flatMap.1 member
    obtain ⟨stem, file, contributes⟩ := origin c among
    cases contributes with
    | unmatched | unscored => cases inside
    | @scored imageId boxes detections known holds converts =>
      obtain rfl : id = imageId := List.mem_singleton.1 inside
      cases holds with
      | @array text items _ readable _ spells decodes =>
        refine ⟨items, ⟨stem, text, ?_, known, readable, spells⟩, ?_⟩
        · exact ordered.files.mem_iff.1 (List.mem_map_of_mem file)
        · rw [Contribution.filter_detections scoredOnce labelled among, ← converts.length_eq,
            ← decodes.length_eq]

/-- A working directory with a file of one box and a file of none. -/
def pairDisk : Disk :=
  sampleDisk.put ["work", "b.json"] (.file { bytes := Text.Utf8.encode ['[', ']'] })

/-- Ids that are not in the order of the names. -/
def pairIndex : ImageIndex := .ofList [("a.jpg", 2), ("b.jpg", 1)]

theorem blocks_of_pairDisk : ∃ notices merged,
    ofNames pairDisk ⟨"."⟩ pairIndex ".jpg" ["b.json", "a.json"] = (notices, .ok merged) ∧
      pairDisk.Lists ⟨"."⟩ ["b.json", "a.json"] ∧ pairIndex.IsInjective ∧
      merged.imageIds = [2, 1] ∧ merged.detections = merged.imageIds.flatMap merged.detectionsOf ∧
      ∀ id ∈ merged.imageIds, ∃ items,
        ArrayOf pairDisk ⟨"."⟩ ["b.json", "a.json"] pairIndex ".jpg" id items ∧
          (merged.detectionsOf id).length = items.length := by
  have lists : pairDisk.Lists ⟨"."⟩ ["b.json", "a.json"] :=
    ⟨["a.json", "b.json"], by decide +kernel, .swap _ _ _⟩
  have injective : pairIndex.IsInjective := ImageIndex.isInjective_of_nodup (by decide +kernel)
  have ordered : InNameOrder pairDisk ⟨"."⟩ ["b.json", "a.json"] ["a", "b"] :=
    ⟨by decide +kernel, by decide +kernel⟩
  have evaluates : ((ofNames pairDisk ⟨"."⟩ pairIndex ".jpg" ["b.json", "a.json"]).2.toOption.map
      Merged.imageIds) = some [2, 1] := by
    rw [ofNames_eq ordered]
    decide +kernel
  cases outcome : (ofNames pairDisk ⟨"."⟩ pairIndex ".jpg" ["b.json", "a.json"]).2 with
  | error e =>
    rw [outcome] at evaluates
    cases evaluates
  | ok merged =>
    rw [outcome] at evaluates
    obtain ⟨-, -, -, blocks⟩ := blocks_of_ofNames lists (by decide) (Prod.ext rfl outcome)
    obtain ⟨-, detections, arrays⟩ := blocks injective
    exact ⟨_, merged, Prod.ext rfl outcome, lists, injective, Option.some.inj evaluates, detections,
      arrays⟩

end Merged

end DetectionMerge
