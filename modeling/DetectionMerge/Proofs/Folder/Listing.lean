import DetectionMerge.Folder.Entry
import DetectionMerge.Proofs.Text.System
import Mathlib.Data.List.Sort

/-! The detection files of a folder in the order of their names. However the
folder is listed, there is one such order: by the bytes of the whole names,
their ending included. Names that are no text are of no detection file. -/

namespace DetectionMerge

open Text Utf8

/-- The names in the folder that a path leads to, in whatever order they are
listed. -/
def Disk.Lists (disk : Disk) (folder : Path) (names : List SystemText) : Prop :=
  ∃ listed, disk.list folder = .ok listed ∧ names.Perm listed

def detectionName (stem : String) : SystemText := SystemText.ofString (stem ++ detectionExtension)

/-- The detection file with a stem in the folder that a path leads to. -/
def DetectionFile.inFolder (disk : Disk) (folder : Path) (stem : String) : DetectionFile :=
  let path := folder.join (detectionName stem)
  ⟨stem, path, disk.read path⟩

/-! ### Names of detection files -/

theorem detectionName_injective : Function.Injective detectionName := by
  intro a b same
  have names : a ++ detectionExtension = b ++ detectionExtension :=
    SystemText.ofString_injective same
  exact (String.append_left_inj _).1 names

theorem detectionStem?_eq_some_iff {name : SystemText} {stem : String} :
    detectionStem? name = some stem ↔ name = detectionName stem := by
  rw [detectionName, ← SystemText.text?_eq_some_iff, detectionStem?, Option.bind_eq_bind,
    Option.bind_eq_some_iff]
  simp only [List.isSuffixOf_iff_suffix]
  constructor
  · rintro ⟨text, reads, h⟩
    split_ifs at h with ends
    cases h
    rw [reads, Option.some.injEq, ← String.toList_inj, String.toList_append, String.toList_ofList]
    exact (List.suffix_iff_eq_append.1 ends).symm
  · intro reads
    refine ⟨_, reads, ?_⟩
    rw [String.toList_append, if_pos (List.suffix_append _ _), List.length_append,
      Nat.add_sub_cancel, List.take_left, String.ofList_toList]

@[simp] theorem detectionStem?_detectionName (stem : String) :
    detectionStem? (detectionName stem) = some stem :=
  detectionStem?_eq_some_iff.2 rfl

/-- Whether a name in a folder is that of a detection file: a regular file,
links followed, whose name is a text with the ending of a detection file. -/
def isDetectionFile (disk : Disk) (folder : Path) (name : SystemText) : Bool :=
  name.text?.any (fun text => detectionExtension.toList.isSuffixOf text.toList) &&
    disk.isFile (folder.join name)

def detectionStemIn? (disk : Disk) (folder : Path) (name : SystemText) : Option String :=
  if disk.isFile (folder.join name) then detectionStem? name else none

theorem isSome_detectionStem? (name : SystemText) : (detectionStem? name).isSome =
    name.text?.any fun text => detectionExtension.toList.isSuffixOf text.toList := by
  unfold detectionStem?
  cases name.text? with
  | none => rfl
  | some text =>
    simp only [Option.bind_eq_bind, Option.bind_some, Option.any_some]
    cases detectionExtension.toList.isSuffixOf text.toList <;> rfl

theorem detectionStemIn?_append (disk : Disk) (folder : Path) (name : SystemText) :
    (detectionStemIn? disk folder name).map detectionName =
      if isDetectionFile disk folder name then some name else none := by
  rw [isDetectionFile, ← isSome_detectionStem?, detectionStemIn?]
  cases stem : detectionStem? name with
  | none => simp
  | some stem' =>
    have spelled : detectionName stem' = name := (detectionStem?_eq_some_iff.1 stem).symm
    by_cases file : disk.isFile (folder.join name) <;> simp [file, spelled]

theorem detectionFile_ofName (disk : Disk) (folder : Path) (name : SystemText) :
    ((FolderEntry.ofName disk folder name).detectionFile folder).toOption =
      (detectionStemIn? disk folder name).map (DetectionFile.inFolder disk folder) := by
  simp only [FolderEntry.detectionFile, FolderEntry.ofName, detectionStemIn?]
  cases stem : detectionStem? name with
  | none => by_cases file : disk.isFile (folder.join name) <;> simp [file, Except.toOption]
  | some stem' =>
    have spelled : name = detectionName stem' := detectionStem?_eq_some_iff.1 stem
    by_cases file : disk.isFile (folder.join name)
    · rw [if_pos file, if_pos file, Option.map_some, DetectionFile.inFolder, ← spelled]
      rfl
    · rw [if_neg file, if_neg file]
      rfl

/-! ### The order of the files -/

/-- The bytes of a detection file's whole name, its ending included. -/
def nameBytes (stem : String) : List UInt8 := Utf8.encode (stem ++ detectionExtension).toList

/-- The stems of a folder's detection files, ordered by the bytes of their whole
names. -/
structure InNameOrder (disk : Disk) (folder : Path) (names : List SystemText)
    (stems : List String) : Prop where
  files : (stems.map detectionName).Perm (names.filter (isDetectionFile disk folder))
  ordered : stems.Pairwise fun a b => ¬nameBytes b < nameBytes a

theorem not_nameBytes_lt_iff {a b : String} :
    ¬nameBytes b < nameBytes a ↔ detectionName a ≤ detectionName b := Iff.rfl

section Order

variable {disk : Disk} {folder : Path} {names names' : List SystemText}
  {stems stems' : List String}

theorem InNameOrder.sorted (h : InNameOrder disk folder names stems) :
    (stems.map detectionName).Pairwise (· ≤ ·) := by
  rw [List.pairwise_map]
  exact h.ordered.imp not_nameBytes_lt_iff.1

/-- The order of a listing does not matter, and it leaves no choice. -/
theorem InNameOrder.eq (h : InNameOrder disk folder names stems)
    (h' : InNameOrder disk folder names' stems') (same : names.Perm names') : stems = stems' := by
  have perm : (stems.map detectionName).Perm (stems'.map detectionName) :=
    h.files.trans ((same.filter _).trans h'.files.symm)
  have equal := perm.eq_of_pairwise (fun _ _ _ _ => SystemText.le_antisymm) h.sorted h'.sorted
  exact detectionName_injective.list_map equal

/-- The sorted names of the detection files, without their ending. -/
theorem inNameOrder_mergeSort (disk : Disk) (folder : Path) (names : List SystemText) :
    InNameOrder disk folder names
      ((names.mergeSort fun a b => a ≤ b).filterMap (detectionStemIn? disk folder)) := by
  have spelled : ((names.mergeSort fun a b => a ≤ b).filterMap (detectionStemIn? disk folder)).map
      detectionName =
        (names.mergeSort fun a b => a ≤ b).filter (isDetectionFile disk folder) := by
    rw [List.map_filterMap, ← List.filterMap_eq_filter]
    congr 1
    funext name
    exact detectionStemIn?_append disk folder name
  refine ⟨?_, ?_⟩
  · rw [spelled]
    exact (names.mergeSort_perm _).filter _
  · have sorted : (names.mergeSort fun a b => a ≤ b).Pairwise fun a b => decide (a ≤ b) := by
      refine List.pairwise_mergeSort (fun a b c => ?_) (fun a b => ?_) names
      · simpa using SystemText.le_trans
      · simpa using SystemText.le_total a b
    have files := sorted.filter (isDetectionFile disk folder)
    rw [← spelled, List.pairwise_map] at files
    exact files.imp fun h => not_nameBytes_lt_iff.2 (of_decide_eq_true h)

theorem exists_inNameOrder (disk : Disk) (folder : Path) (names : List SystemText) :
    ∃ stems, InNameOrder disk folder names stems :=
  ⟨_, inNameOrder_mergeSort disk folder names⟩

theorem InNameOrder.of_perm (h : InNameOrder disk folder names stems) (same : names.Perm names') :
    InNameOrder disk folder names' stems :=
  ⟨h.files.trans (same.filter _), h.ordered⟩

/-- The detection files that a merge goes through are those of the folder, in
the order of their names. -/
theorem detectionFiles_ofName (h : InNameOrder disk folder names stems) :
    FolderEntry.detectionFiles folder (names.map (FolderEntry.ofName disk folder)) =
      stems.map (DetectionFile.inFolder disk folder) := by
  have sorted : (names.map (FolderEntry.ofName disk folder)).mergeSort FolderEntry.before =
      (names.mergeSort fun a b => a ≤ b).map (FolderEntry.ofName disk folder) :=
    (List.map_mergeSort (f := FolderEntry.ofName disk folder) fun _ _ _ _ => rfl).symm
  rw [FolderEntry.detectionFiles, sorted, List.filterMap_map,
    h.eq (inNameOrder_mergeSort disk folder names) (.refl _), List.map_filterMap]
  congr 1
  funext name
  exact detectionFile_ofName disk folder name

end Order

end DetectionMerge
