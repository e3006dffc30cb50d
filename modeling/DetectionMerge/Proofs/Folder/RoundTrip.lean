import DetectionMerge.Proofs.Folder.Merge
import DetectionMerge.Proofs.Folder.Saving
import DetectionMerge.Proofs.Number.Difference

/-! Results written and read again. The corners of a detection file are finite,
but the sides between them can leave the range; such a side is written as `null`
and not read. -/

namespace DetectionMerge

/-! ### Finite boxes -/

theorem Binary64.exists_of_isFinite {x : Binary64} (h : x.isFinite) :
    ∃ y, x = .finite y := by
  cases x with
  | finite y => exact ⟨y, rfl⟩
  | infinite negative => cases h
  | nan => cases h

theorem Json.isFinite_of_real? {v : Json} {x : Binary64} (h : v.real? = some x) : x.isFinite := by
  cases v with
  | number n =>
    simp only [real?, Decimal.finite?] at h
    split_ifs at h with finite
    exact Option.some.inj h ▸ finite
  | _ => cases h

namespace CornerDetection

/-- A box whose numbers are all finite. -/
def IsFinite (box : CornerDetection) : Prop :=
  box.x1.isFinite ∧ box.y1.isFinite ∧ box.x2.isFinite ∧ box.y2.isFinite ∧ box.confidence.isFinite

/-- A box whose corners are less than the overflow bound apart in both directions. -/
def SidesFit (box : CornerDetection) : Prop :=
  ∃ x1 y1 x2 y2 : FiniteBinary64, box.x1 = .finite x1 ∧ box.y1 = .finite y1 ∧
    box.x2 = .finite x2 ∧ box.y2 = .finite y2 ∧
    (x2.units - x1.units).natAbs < Binary64.overflow ∧
    (y2.units - y1.units).natAbs < Binary64.overflow

theorem isFinite_of_ofJson? {v : Json} {box : CornerDetection} (h : ofJson? v = some box) :
    box.IsFinite := by
  obtain ⟨fields, -, h⟩ := Option.bind_eq_some_iff.1 h
  split at h
  case h_2 => cases h
  obtain ⟨x1, hx1, h⟩ := Option.bind_eq_some_iff.1 h
  obtain ⟨y1, hy1, h⟩ := Option.bind_eq_some_iff.1 h
  obtain ⟨x2, hx2, h⟩ := Option.bind_eq_some_iff.1 h
  obtain ⟨y2, hy2, h⟩ := Option.bind_eq_some_iff.1 h
  obtain ⟨label, -, h⟩ := Option.bind_eq_some_iff.1 h
  obtain ⟨confidence, hconfidence, h⟩ := Option.bind_eq_some_iff.1 h
  cases h
  exact ⟨Json.isFinite_of_real? hx1, Json.isFinite_of_real? hy1, Json.isFinite_of_real? hx2,
    Json.isFinite_of_real? hy2, Json.isFinite_of_real? hconfidence⟩

end CornerDetection

/-- The sides of a converted box are finite exactly if they fit. -/
theorem Detection.isFinite_iff_sidesFit {imageId : Int64} {box : CornerDetection} {d : Detection}
    (finite : box.IsFinite) (converts : box.ConvertsTo imageId d) :
    d.x.isFinite ∧ d.y.isFinite ∧ d.score.isFinite ∧
      (d.width.isFinite ∧ d.height.isFinite ↔ box.SidesFit) := by
  obtain ⟨categoryId, -, rfl⟩ := converts
  obtain ⟨x1, y1, x2, y2, label, confidence⟩ := box
  obtain ⟨hx1, hy1, hx2, hy2, hconfidence⟩ := finite
  refine ⟨hx1, hy1, hconfidence, ?_⟩
  obtain ⟨x1, rfl⟩ := Binary64.exists_of_isFinite hx1
  obtain ⟨y1, rfl⟩ := Binary64.exists_of_isFinite hy1
  obtain ⟨x2, rfl⟩ := Binary64.exists_of_isFinite hx2
  obtain ⟨y2, rfl⟩ := Binary64.exists_of_isFinite hy2
  rw [Binary64.sub_isFinite_iff, Binary64.sub_isFinite_iff]
  constructor
  · rintro ⟨width, height⟩
    exact ⟨x1, y1, x2, y2, rfl, rfl, rfl, rfl, width, height⟩
  · rintro ⟨_, _, _, _, ⟨⟩, ⟨⟩, ⟨⟩, ⟨⟩, width, height⟩
    exact ⟨width, height⟩

/-! ### The boxes of a merge -/

namespace Contribution

/-- What a detection has to do with its box. -/
def FromBox (box : CornerDetection) (d : Detection) : Prop :=
  box.IsFinite ∧ ∃ imageId, box.ConvertsTo imageId d

variable {index : ImageIndex} {suffix : String} {file : DetectionFile} {files : List DetectionFile}
  {c : Contribution} {cs : List Contribution}

/-- The contributions of the detection files of a folder, in the order of their
names. -/
def OfFolder (disk : Disk) (folder : Path) (index : ImageIndex) (suffix : String)
    (cs : List Contribution) : Prop :=
  ∃ names stems, disk.Lists folder names ∧ InNameOrder disk folder names stems ∧
    List.Forall₂ (DetectionFile.Contributes index suffix)
      (stems.map (DetectionFile.inFolder disk folder)) cs

theorem isFinite_of_decodes {items : List Json} {boxes : List CornerDetection}
    (h : List.Forall₂ (fun item box => CornerDetection.ofJson? item = some box) items boxes) :
    ∀ box ∈ boxes, box.IsFinite := by
  induction h with
  | nil => exact List.forall_mem_nil _
  | cons decoded _ ih => exact List.forall_mem_cons.2 ⟨CornerDetection.isFinite_of_ofJson? decoded, ih⟩

theorem fromBox (h : file.Contributes index suffix c) :
    List.Forall₂ FromBox c.boxes c.detections := by
  cases h with
  | unmatched => exact .nil
  | unscored => exact .nil
  | scored known holds converts =>
    cases holds with
    | array readable solid spells decodes =>
      refine (List.forall₂_and_left _ _).2 ⟨isFinite_of_decodes decodes, ?_⟩
      exact converts.imp fun _ _ converts => ⟨_, converts⟩

/-- The boxes of all files and the detections of a merge, one for one. -/
theorem fromBox_flatMap (h : List.Forall₂ (DetectionFile.Contributes index suffix) files cs) :
    List.Forall₂ FromBox (cs.flatMap boxes) (cs.flatMap detections) := by
  induction h with
  | nil => exact .nil
  | cons contributes _ ih => exact List.rel_append (fromBox contributes) ih

theorem forall_sidesFit_iff {boxes : List CornerDetection} {detections : List Detection}
    (h : List.Forall₂ FromBox boxes detections) :
    (∀ d ∈ detections, d.x.isFinite ∧ d.y.isFinite ∧ d.score.isFinite) ∧
      ((∀ d ∈ detections, d.width.isFinite ∧ d.height.isFinite) ↔ ∀ box ∈ boxes, box.SidesFit) := by
  induction h with
  | nil => simp
  | @cons box d _ _ from_ _ ih =>
    obtain ⟨finite, imageId, converts⟩ := from_
    obtain ⟨x, y, score, sides⟩ := Detection.isFinite_iff_sidesFit finite converts
    simp only [List.forall_mem_cons]
    exact ⟨⟨⟨x, y, score⟩, ih.1⟩, and_congr sides ih.2⟩

end Contribution

/-! ### Saving and loading -/

namespace Results

variable {detections : List Detection}

theorem all_isFinite_iff (corners : ∀ d ∈ detections, d.x.isFinite ∧ d.y.isFinite ∧ d.score.isFinite) :
    detections.all Detection.isFinite ↔ ∀ d ∈ detections, d.width.isFinite ∧ d.height.isFinite := by
  rw [List.all_eq_true]
  refine forall₂_congr fun d member => ?_
  obtain ⟨x, y, score⟩ := corners d member
  simp [Detection.isFinite, x, y, score]

/-- What a merge accepts has finite corners and scores, but it is read back from
where it was saved exactly if the sides of all boxes fit into the range and the
path still leads to the file. Otherwise the file is malformed, although it was
saved, or the path went through a symbolic link that the file has replaced. -/
theorem load_save_iff {disk : Disk} {folder : Path} {index : ImageIndex} {suffix : String}
    {notices : List Notice} {merged : Merged}
    (merges : Merged.ofFolder disk folder index suffix = (notices, .ok merged)) :
    ∃ contributions, Contribution.OfFolder disk folder index suffix contributions ∧
      merged.detections = contributions.flatMap Contribution.detections ∧
      (∀ d ∈ merged.detections, d.x.isFinite ∧ d.y.isFinite ∧ d.score.isFinite) ∧
      ((∀ d ∈ merged.detections, d.width.isFinite ∧ d.height.isFinite) ↔
        ∀ box ∈ contributions.flatMap Contribution.boxes, box.SidesFit) ∧
      ∀ before path saved, save before path merged.detections = (.ok (), saved) →
        (load saved path = .ok merged.detections ↔
          (∀ box ∈ contributions.flatMap Contribution.boxes, box.SidesFit) ∧ saved.isFile path) ∧
        (saved.isFile path →
          (¬∀ box ∈ contributions.flatMap Contribution.boxes, box.SidesFit) →
          load saved path = .error (.malformed path)) ∧
        (¬saved.isFile path → load saved path = .error (.fileUnreadable path) ∧
          ∃ place link, before.node? place = some (.link link) ∧ saved.node? place =
            some (.file { bytes := Text.Utf8.encode (text merged.detections) })) := by
  obtain ⟨names, listing, merges⟩ := Merged.ofNames_of_ofFolder merges
  obtain ⟨stems, contributions, ordered, contribute, sum, -⟩ := Merged.exists_contributions merges
  have detections : merged.detections = contributions.flatMap Contribution.detections := by
    rw [sum, Merged.foldl_plus]
    rfl
  obtain ⟨corners, sides⟩ :=
    Contribution.forall_sidesFit_iff (Contribution.fromBox_flatMap contribute)
  rw [← detections] at corners sides
  refine ⟨contributions, ⟨names, stems, ⟨names, listing, .refl _⟩, ordered, contribute⟩, detections,
    corners, sides, fun before path saved saves => ?_⟩
  rw [← sides, ← all_isFinite_iff corners]
  obtain ⟨there, loaded⟩ | ⟨lost, loaded, replaced⟩ := load_of_save saves
  · rw [loaded]
    refine ⟨?_, fun _ infinite => if_neg infinite, fun lost => absurd there lost⟩
    split_ifs with finite
    · simp [finite, there]
    · simp [finite]
  · exact ⟨by simp [loaded, lost], fun there => by simp [lost] at there, fun _ => ⟨loaded, replaced⟩⟩

/-- A box from one end of the range to the other. -/
def wideText : String :=
  "[\x7b\"x1\":1e308,\"y1\":0,\"x2\":-1e308,\"y2\":0,\"label\":0,\"conf\":0.5\x7d]"

/-- A working directory with a detection file of this box. -/
def wideDisk : Disk :=
  (Disk.blank "work").put ["work", "a.json"] (.file { bytes := Text.Utf8.encode wideText.toList })

def wideMerged : Merged :=
  (Merged.ofFolder wideDisk ⟨"."⟩ Merged.sampleIndex ".jpg").2.toOption.getD {}

/-- The merge of the wide box succeeds and is saved, and it is not read back. -/
theorem load_save_iff_wideDisk :
    (save wideDisk ⟨"results.json"⟩ wideMerged.detections).1 = .ok () ∧
      ∃ contributions, Contribution.OfFolder wideDisk ⟨"."⟩ Merged.sampleIndex ".jpg" contributions ∧
        (¬∀ box ∈ contributions.flatMap Contribution.boxes, box.SidesFit) ∧
        load (save wideDisk ⟨"results.json"⟩ wideMerged.detections).2 ⟨"results.json"⟩ =
          .error (.malformed ⟨"results.json"⟩) := by
  have merges : Merged.ofFolder wideDisk ⟨"."⟩ Merged.sampleIndex ".jpg" =
      ((Merged.ofFolder wideDisk ⟨"."⟩ Merged.sampleIndex ".jpg").1, .ok wideMerged) := by
    decide +kernel
  have saves : (save wideDisk ⟨"results.json"⟩ wideMerged.detections).1 = .ok () := by
    decide +kernel
  have there : (save wideDisk ⟨"results.json"⟩ wideMerged.detections).2.isFile ⟨"results.json"⟩ := by
    decide +kernel
  have infinite : ¬∀ d ∈ wideMerged.detections, d.width.isFinite ∧ d.height.isFinite := by
    decide +kernel
  obtain ⟨contributions, source, -, -, sides, loads⟩ := load_save_iff merges
  rw [sides] at infinite
  obtain ⟨-, malformed, -⟩ := loads wideDisk ⟨"results.json"⟩ _ (Prod.ext saves rfl)
  exact ⟨saves, contributions, source, infinite, malformed there infinite⟩

end Results

end DetectionMerge
