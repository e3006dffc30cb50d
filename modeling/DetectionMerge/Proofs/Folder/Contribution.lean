import DetectionMerge.Folder.Merge
import DetectionMerge.Proofs.Traversal

/-! What a single detection file adds to a merge, and which fault ends it. Both
are described by the form of the file's text; the functions of the merge decide
between them, so a file of a known image has a contribution or one fault. -/

namespace DetectionMerge

open Traversal (mapM_eq_some_iff mapM_eq_none_iff mapM_eq_ok_iff mapM_eq_error_iff)

/-! ### Labels -/

/-- The labels of the detector's classes. -/
def InLabelRange (label : Int64) : Prop := 0 ≤ label.toInt ∧ label.toInt < 80

theorem Category.ofLabel?_isSome_iff {label : Int64} :
    (ofLabel? label).isSome ↔ InLabelRange label := by
  have length : ids.length = 80 := rfl
  unfold ofLabel? InLabelRange
  split_ifs with negative
  · simp only [Option.isSome_none, Bool.false_eq_true, false_iff]
    omega
  · rw [Option.isSome_iff_ne_none, ne_eq, List.getElem?_eq_none_iff, length]
    omega

/-! ### The text of a file -/

namespace DetectionFile

variable {file : DetectionFile} {text : List Char} {content : FileContent} {e : MergeError}

/-- A file can be read, and it holds this text. -/
def HasText (file : DetectionFile) (text : List Char) : Prop :=
  ∃ bytes, file.content = .ok bytes ∧ Text.Utf8.decode? bytes = some text

/-- What a file holds: nothing if it is blank or `null`, and otherwise an array
of boxes. -/
inductive Holds (file : DetectionFile) : FileContent → Prop
  | blank {text : List Char} (readable : file.HasText text) (blank : text.all Text.isBlank) :
    Holds file .noResult
  | null {text : List Char} (readable : file.HasText text) (solid : ¬text.all Text.isBlank)
      (spells : Json.ofText? text = some .null) : Holds file .noResult
  | array {text : List Char} {items : List Json} {boxes : List CornerDetection}
      (readable : file.HasText text) (solid : ¬text.all Text.isBlank)
      (spells : Json.ofText? text = some (.array items))
      (decodes : List.Forall₂ (fun item box => CornerDetection.ofJson? item = some box) items boxes) :
    Holds file (.boxes boxes)

/-- What is wrong with a file. A file that cannot be read has no form, and only
an array whose elements are all boxes has labels. -/
inductive HasFault (file : DetectionFile) : MergeError → Prop
  | unreadable (textless : ∀ text, ¬file.HasText text) : HasFault file (.fileUnreadable file.path)
  | malformed {text : List Char} (readable : file.HasText text) (solid : ¬text.all Text.isBlank)
      (notNull : Json.ofText? text ≠ some .null)
      (noBoxes : ∀ items, Json.ofText? text = some (.array items) →
        ∃ item ∈ items, CornerDetection.ofJson? item = none) :
    HasFault file (.malformed file.path)
  | label {before after : List CornerDetection} {box : CornerDetection}
      (holds : file.Holds (.boxes (before ++ box :: after)))
      (fine : ∀ b ∈ before, InLabelRange b.label) (outside : ¬InLabelRange box.label) :
    HasFault file (.labelOutOfRange file.path box.label)

/-! ### Reading a file -/

theorem read_of_hasText (h : file.HasText text) :
    file.read = (boxesOf? text).elim (.error (.malformed file.path)) .ok := by
  obtain ⟨bytes, content, decoded⟩ := h
  simp only [read, content, decoded]

theorem read_of_textless (h : ∀ text, ¬file.HasText text) :
    file.read = .error (.fileUnreadable file.path) := by
  unfold read
  cases content : file.content with
  | error fault => rfl
  | ok bytes =>
    cases decoded : Text.Utf8.decode? bytes with
    | none => simp only [decoded]
    | some text => exact absurd ⟨bytes, content, decoded⟩ (h text)

theorem boxesOf?_blank (blank : text.all Text.isBlank) : boxesOf? text = some .noResult :=
  if_pos blank

theorem boxesOf?_null (solid : ¬text.all Text.isBlank) (spells : Json.ofText? text = some .null) :
    boxesOf? text = some .noResult := by
  rw [boxesOf?, if_neg solid, spells]

theorem boxesOf?_array {items : List Json} (solid : ¬text.all Text.isBlank)
    (spells : Json.ofText? text = some (.array items)) :
    boxesOf? text = (items.mapM CornerDetection.ofJson?).map .boxes := by
  rw [boxesOf?, if_neg solid, spells]
  simp only [Json.items?, Option.bind_eq_bind, Option.bind_some]
  cases items.mapM CornerDetection.ofJson? <;> rfl

theorem boxesOf?_malformed (solid : ¬text.all Text.isBlank)
    (notNull : Json.ofText? text ≠ some .null)
    (noBoxes : ∀ items, Json.ofText? text = some (.array items) →
      ∃ item ∈ items, CornerDetection.ofJson? item = none) : boxesOf? text = none := by
  cases spells : Json.ofText? text with
  | none => rw [boxesOf?, if_neg solid, spells]
  | some v =>
    cases v with
    | null => exact absurd spells notNull
    | array items =>
      rw [boxesOf?_array solid spells, mapM_eq_none_iff.2 (noBoxes items spells)]
      rfl
    | _ =>
      rw [boxesOf?, if_neg solid, spells]
      rfl

/-- A file with a text holds something, or it is malformed. -/
theorem holds_or_malformed (readable : file.HasText text) :
    (∃ content, file.Holds content) ∨ file.HasFault (.malformed file.path) := by
  by_cases blank : text.all Text.isBlank
  · exact .inl ⟨_, .blank readable blank⟩
  by_cases null : Json.ofText? text = some .null
  · exact .inl ⟨_, .null readable blank null⟩
  by_cases decodes : ∃ items boxes, Json.ofText? text = some (.array items) ∧
      items.mapM CornerDetection.ofJson? = some boxes
  · obtain ⟨items, boxes, spells, decoded⟩ := decodes
    exact .inl ⟨_, .array readable blank spells (mapM_eq_some_iff.1 decoded)⟩
  · refine .inr (.malformed readable blank null fun items spells => ?_)
    rw [← mapM_eq_none_iff, Option.eq_none_iff_forall_ne_some]
    exact fun boxes decoded => decodes ⟨items, boxes, spells, decoded⟩

theorem read_of_holds (h : file.Holds content) : file.read = .ok content := by
  cases h with
  | blank readable blank => rw [read_of_hasText readable, boxesOf?_blank blank]; rfl
  | null readable solid spells => rw [read_of_hasText readable, boxesOf?_null solid spells]; rfl
  | array readable solid spells decodes =>
    rw [read_of_hasText readable, boxesOf?_array solid spells, mapM_eq_some_iff.2 decodes]
    rfl

theorem holds_or_hasFault (file : DetectionFile) :
    (∃ content, file.Holds content) ∨ ∃ e, file.HasFault e := by
  by_cases textless : ∀ text, ¬file.HasText text
  · exact .inr ⟨_, .unreadable textless⟩
  · obtain ⟨text, readable⟩ := not_forall_not.1 textless
    exact (holds_or_malformed readable).imp_right fun fault => ⟨_, fault⟩

end DetectionFile

/-! ### Contributions -/

/-- What a detection file adds to a merge. -/
inductive Contribution
  /-- The file belongs to no known image. -/
  | unmatched
  /-- The image has no result. -/
  | unscored (imageId : Int64)
  | scored (imageId : Int64) (boxes : List CornerDetection) (detections : List Detection)

namespace Contribution

def boxes : Contribution → List CornerDetection
  | scored _ boxes _ => boxes
  | _ => []

def detections : Contribution → List Detection
  | scored _ _ detections => detections
  | _ => []

def imageIds : Contribution → List Int64
  | scored imageId _ _ => [imageId]
  | _ => []

def notice (suffix : String) (file : DetectionFile) : Contribution → Notice
  | unmatched => .unmatched (file.stem ++ suffix)
  | unscored imageId => .holdsNoResult file.path imageId
  | scored imageId _ detections => .detectionsRead detections.length file.path imageId

/-- Whether the file belongs to no known image. -/
def isUnmatched : Contribution → Bool
  | unmatched => true
  | _ => false

end Contribution

/-- A box in the form of the results file: its corner, its sides, and the
category of its label. -/
def CornerDetection.ConvertsTo (imageId : Int64) (box : CornerDetection) (d : Detection) : Prop :=
  ∃ categoryId, Category.ofLabel? box.label = some categoryId ∧
    d = ⟨imageId, categoryId, box.x1, box.y1, box.x2 - box.x1, box.y2 - box.y1, box.confidence⟩

namespace DetectionFile

variable {index : ImageIndex} {suffix : String} {file : DetectionFile} {e : MergeError}

def isMatched (index : ImageIndex) (suffix : String) (file : DetectionFile) : Bool :=
  (index.get? (file.stem ++ suffix)).isSome

/-- What a file adds, by the image that it belongs to and by what it holds. -/
inductive Contributes (index : ImageIndex) (suffix : String) (file : DetectionFile) :
    Contribution → Prop
  | unmatched (unknown : index.get? (file.stem ++ suffix) = none) :
    Contributes index suffix file .unmatched
  | unscored {imageId : Int64} (known : index.get? (file.stem ++ suffix) = some imageId)
      (holds : file.Holds .noResult) : Contributes index suffix file (.unscored imageId)
  | scored {imageId : Int64} {boxes : List CornerDetection} {detections : List Detection}
      (known : index.get? (file.stem ++ suffix) = some imageId) (holds : file.Holds (.boxes boxes))
      (converts : List.Forall₂ (CornerDetection.ConvertsTo imageId) boxes detections) :
    Contributes index suffix file (.scored imageId boxes detections)

/-- A file of a known image that ends the merge. -/
def Ends (index : ImageIndex) (suffix : String) (file : DetectionFile) (e : MergeError) : Prop :=
  file.isMatched index suffix ∧ file.HasFault e

theorem convertsTo_iff {path : Path} {imageId : Int64} {box : CornerDetection} {d : Detection} :
    (match Category.ofLabel? box.label with
      | some categoryId => .ok (box.toDetection imageId categoryId)
      | none => .error (.labelOutOfRange path box.label)) = (.ok d : Except MergeError Detection) ↔
      box.ConvertsTo imageId d := by
  unfold CornerDetection.ConvertsTo
  cases Category.ofLabel? box.label with
  | none => simp
  | some categoryId =>
    simp only [Except.ok.injEq, Option.some.injEq, exists_eq_left']
    exact eq_comm

theorem convert_eq_ok_iff {path : Path} {imageId : Int64} {boxes : List CornerDetection}
    {detections : List Detection} :
    convert path imageId boxes = .ok detections ↔
      List.Forall₂ (CornerDetection.ConvertsTo imageId) boxes detections := by
  rw [convert, mapM_eq_ok_iff]
  exact ⟨fun h => h.imp fun _ _ => convertsTo_iff.1, fun h => h.imp fun _ _ => convertsTo_iff.2⟩

theorem convert_eq_error {path : Path} {imageId : Int64} {before after : List CornerDetection}
    {box : CornerDetection} (fine : ∀ b ∈ before, InLabelRange b.label)
    (outside : ¬InLabelRange box.label) :
    convert path imageId (before ++ box :: after) = .error (.labelOutOfRange path box.label) := by
  rw [convert, mapM_eq_error_iff]
  refine ⟨before, box, after, rfl, fun b hb => ?_, ?_⟩
  · obtain ⟨categoryId, known⟩ :=
      Option.isSome_iff_exists.1 (Category.ofLabel?_isSome_iff.2 (fine b hb))
    exact ⟨b.toDetection imageId categoryId, by simp only [known]⟩
  · have unknown : Category.ofLabel? box.label = none := by
      rwa [← Category.ofLabel?_isSome_iff, Option.not_isSome_iff_eq_none] at outside
    simp only [unknown]

/-- The boxes of a file are converted, or the first label without a category is
its fault. -/
theorem converts_or_hasFault {boxes : List CornerDetection} (imageId : Int64)
    (holds : file.Holds (.boxes boxes)) :
    (∃ detections, List.Forall₂ (CornerDetection.ConvertsTo imageId) boxes detections) ∨
      ∃ e, file.HasFault e := by
  cases converted : convert file.path imageId boxes with
  | ok detections => exact .inl ⟨detections, convert_eq_ok_iff.1 converted⟩
  | error e =>
    obtain ⟨before, box, after, rfl, fine, fails⟩ := mapM_eq_error_iff.1 converted
    refine .inr ⟨_, .label holds (fun b hb => ?_) fun inside => ?_⟩
    · obtain ⟨d, converted⟩ := fine b hb
      obtain ⟨categoryId, known, -⟩ := convertsTo_iff.1 converted
      rw [← Category.ofLabel?_isSome_iff, known]
      rfl
    · obtain ⟨categoryId, known⟩ :=
        Option.isSome_iff_exists.1 (Category.ofLabel?_isSome_iff.2 inside)
      rw [known] at fails
      cases fails

/-- Every file contributes to a merge or ends it. -/
theorem contributes_or_ends (index : ImageIndex) (suffix : String) (file : DetectionFile) :
    (∃ c, file.Contributes index suffix c) ∨ ∃ e, file.Ends index suffix e := by
  cases known : index.get? (file.stem ++ suffix) with
  | none => exact .inl ⟨_, .unmatched known⟩
  | some imageId =>
    have matched : file.isMatched index suffix := by simp [isMatched, known]
    obtain ⟨content, holds⟩ | ⟨e, fault⟩ := file.holds_or_hasFault
    · cases content with
      | noResult => exact .inl ⟨_, .unscored known holds⟩
      | boxes boxes =>
        obtain ⟨detections, converts⟩ | ⟨e, fault⟩ := converts_or_hasFault imageId holds
        · exact .inl ⟨_, .scored known holds converts⟩
        · exact .inr ⟨e, matched, fault⟩
    · exact .inr ⟨e, matched, fault⟩

end DetectionFile

namespace Contribution

variable {index : ImageIndex} {suffix : String} {file : DetectionFile} {c : Contribution}

theorem imageId_of_convertsTo {imageId : Int64} {boxes : List CornerDetection}
    {detections : List Detection}
    (h : List.Forall₂ (CornerDetection.ConvertsTo imageId) boxes detections) :
    ∀ d ∈ detections, d.imageId = imageId := by
  induction h with
  | nil => exact List.forall_mem_nil _
  | cons converts _ ih =>
    obtain ⟨categoryId, -, rfl⟩ := converts
    exact List.forall_mem_cons.2 ⟨rfl, ih⟩

theorem imageId_mem (h : file.Contributes index suffix c) :
    ∀ d ∈ c.detections, d.imageId ∈ c.imageIds := by
  cases h with
  | unmatched | unscored => exact List.forall_mem_nil _
  | scored _ _ converts =>
    exact fun d member => List.mem_singleton.2 (imageId_of_convertsTo converts d member)

end Contribution

/-! ### One step of a merge -/

namespace Merged

open DetectionFile (convert)

variable {index : ImageIndex} {suffix : String} {merged result : Merged} {file : DetectionFile}
  {e : MergeError} {c : Contribution} {notices : List Notice}

/-- The outcome with one more contribution. -/
def plus (merged : Merged) (c : Contribution) : Merged where
  detections := merged.detections ++ c.detections
  unmatched := merged.unmatched + c.isUnmatched.toNat
  matched := merged.matched + (!c.isUnmatched).toNat
  imageIds := merged.imageIds ++ c.imageIds

theorem add_of_contributes (h : file.Contributes index suffix c) :
    add index suffix merged file = ([c.notice suffix file], .ok (merged.plus c)) := by
  cases h with
  | unmatched unknown =>
    simp [add, DetectionFile.imageName, unknown, plus, Contribution.notice, Contribution.detections,
      Contribution.imageIds, Contribution.isUnmatched]
  | unscored known holds =>
    simp [add, DetectionFile.imageName, known, DetectionFile.read_of_holds holds, plus,
      Contribution.notice, Contribution.detections, Contribution.imageIds, Contribution.isUnmatched]
  | scored known holds converts =>
    have converted : convert file.path _ _ = .ok _ := DetectionFile.convert_eq_ok_iff.2 converts
    simp [add, DetectionFile.imageName, known, DetectionFile.read_of_holds holds, converted, plus,
      Contribution.notice, Contribution.detections, Contribution.imageIds, Contribution.isUnmatched,
      converts.length_eq]

theorem add_of_ends (h : file.Ends index suffix e) :
    (add index suffix merged file).2 = .error e := by
  obtain ⟨matched, fault⟩ := h
  obtain ⟨imageId, known⟩ := Option.isSome_iff_exists.1 matched
  cases fault with
  | unreadable textless =>
    simp [add, DetectionFile.imageName, known, DetectionFile.read_of_textless textless]
  | malformed readable solid notNull noBoxes =>
    simp [add, DetectionFile.imageName, known, DetectionFile.read_of_hasText readable,
      DetectionFile.boxesOf?_malformed solid notNull noBoxes]
  | label holds fine outside =>
    simp [add, DetectionFile.imageName, known, DetectionFile.read_of_holds holds,
      DetectionFile.convert_eq_error fine outside]

theorem not_ends_of_contributes (h : file.Contributes index suffix c) :
    ¬file.Ends index suffix e := by
  intro ends
  have ended : (add index suffix {} file).2 = .error e := add_of_ends ends
  rw [add_of_contributes h] at ended
  cases ended

theorem ends_unique {e' : MergeError} (h : file.Ends index suffix e)
    (h' : file.Ends index suffix e') : e = e' := by
  have ended : (add index suffix {} file).2 = .error e := add_of_ends h
  rw [add_of_ends h'] at ended
  exact (Except.error.inj ended).symm

end Merged

end DetectionMerge
