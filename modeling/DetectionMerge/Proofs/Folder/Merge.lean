import DetectionMerge.Proofs.Folder.Contribution
import DetectionMerge.Proofs.Folder.Listing

/-! The merge of a whole folder. Its outcome is the sum of the files'
contributions in the order of their names, or the fault of the first file of a
known image that has one. Files of no known image are counted and otherwise have
no part in it. -/

namespace DetectionMerge

/-- Whether a detection file of this name belongs to a known image. -/
def ImageIndex.knows (index : ImageIndex) (suffix : String) (name : SystemText) : Bool :=
  (detectionStem? name).any fun stem => (index.get? (stem ++ suffix)).isSome

namespace Merged

open Traversal (exists_first_cons)

variable {index : ImageIndex} {suffix : String} {merged result : Merged}
  {file : DetectionFile} {files : List DetectionFile} {e : MergeError} {c : Contribution}
  {cs : List Contribution} {notices : List Notice}

/-! ### A run over detection files -/

theorem addAll_cons_of_contributes (h : file.Contributes index suffix c) :
    addAll index suffix merged (file :: files) =
      (c.notice suffix file :: (addAll index suffix (merged.plus c) files).1,
        (addAll index suffix (merged.plus c) files).2) := by
  rw [addAll, add_of_contributes h]
  rfl

theorem addAll_cons_of_ends (h : file.Ends index suffix e) :
    (addAll index suffix merged (file :: files)).2 = .error e := by
  have ended : (add index suffix merged file).2 = .error e := add_of_ends h
  rw [addAll]
  generalize add index suffix merged file = outcome at ended ⊢
  obtain ⟨notices, result⟩ := outcome
  obtain rfl : result = .error e := ended
  rfl

theorem addAll_eq_ok_iff : addAll index suffix merged files = (notices, .ok result) ↔
    ∃ cs, List.Forall₂ (DetectionFile.Contributes index suffix) files cs ∧
      notices = List.zipWith (fun file c => c.notice suffix file) files cs ∧
      result = cs.foldl plus merged := by
  induction files generalizing merged notices with
  | nil =>
    rw [addAll, Prod.mk.injEq, Except.ok.injEq]
    constructor
    · rintro ⟨rfl, rfl⟩
      exact ⟨[], .nil, rfl, rfl⟩
    · rintro ⟨_, ⟨⟩, rfl, rfl⟩
      exact ⟨rfl, rfl⟩
  | cons file files ih =>
    constructor
    · intro h
      obtain ⟨c, contributes⟩ | ⟨e, ends⟩ := file.contributes_or_ends index suffix
      · rw [addAll_cons_of_contributes contributes, Prod.mk.injEq] at h
        obtain ⟨rfl, succeeds⟩ := h
        obtain ⟨cs, rest, said, sum⟩ := ih.1 (Prod.ext rfl succeeds)
        exact ⟨c :: cs, .cons contributes rest, congrArg (c.notice suffix file :: ·) said, sum⟩
      · have ended : (addAll index suffix merged (file :: files)).2 = .error e :=
          addAll_cons_of_ends ends
        rw [h] at ended
        cases ended
    · rintro ⟨_, _ | ⟨contributes, rest⟩, rfl, rfl⟩
      rw [addAll_cons_of_contributes contributes, ih.2 ⟨_, rest, rfl, rfl⟩]
      rfl

theorem addAll_eq_error_iff : (addAll index suffix merged files).2 = .error e ↔
    ∃ before file after, files = before ++ file :: after ∧
      (∀ f ∈ before, ∀ e', ¬f.Ends index suffix e') ∧ file.Ends index suffix e := by
  induction files generalizing merged with
  | nil => simp [addAll]
  | cons file files ih =>
    rw [exists_first_cons]
    obtain ⟨c, contributes⟩ | ⟨e', ends⟩ := file.contributes_or_ends index suffix
    · have fine : ∀ e', ¬file.Ends index suffix e' := fun _ => not_ends_of_contributes contributes
      rw [addAll_cons_of_contributes contributes, ih, and_iff_right fine, or_iff_right (fine e)]
    · have fault : file.Ends index suffix e ↔ e' = e :=
        ⟨ends_unique ends, fun same => same ▸ ends⟩
      have faulty : ¬∀ e', ¬file.Ends index suffix e' := fun fine => fine e' ends
      rw [addAll_cons_of_ends ends, Except.error.injEq, fault, or_iff_left fun h => faulty h.1]

theorem exists_addAll_eq_error_iff : (∃ e, (addAll index suffix merged files).2 = .error e) ↔
    ∃ file ∈ files, ∃ e, file.Ends index suffix e := by
  induction files generalizing merged with
  | nil => simp [addAll]
  | cons file files ih =>
    rw [List.exists_mem_cons_iff]
    obtain ⟨c, contributes⟩ | ⟨e, ends⟩ := file.contributes_or_ends index suffix
    · rw [addAll_cons_of_contributes contributes, ih]
      refine ⟨.inr, fun h => h.resolve_left ?_⟩
      rintro ⟨e, ends⟩
      exact not_ends_of_contributes contributes ends
    · exact iff_of_true ⟨e, addAll_cons_of_ends ends⟩ (.inl ⟨e, ends⟩)

/-! ### Sums of contributions -/

theorem foldl_plus (cs : List Contribution) (merged : Merged) :
    cs.foldl plus merged =
      { detections := merged.detections ++ cs.flatMap Contribution.detections
        unmatched := merged.unmatched + cs.countP Contribution.isUnmatched
        matched := merged.matched + cs.countP (! Contribution.isUnmatched ·)
        imageIds := merged.imageIds ++ cs.flatMap Contribution.imageIds } := by
  induction cs generalizing merged with
  | nil => simp
  | cons c cs ih =>
    rw [List.foldl_cons, ih, plus]
    simp only [List.flatMap_cons, List.append_assoc, List.countP_cons, Merged.mk.injEq, true_and,
      and_true]
    cases c.isUnmatched
    · simp only [Bool.toNat_false, Bool.not_false, Bool.toNat_true, Bool.false_eq_true, if_false,
        if_true]
      omega
    · simp only [Bool.toNat_true, Bool.not_true, Bool.toNat_false, Bool.false_eq_true, if_false,
        if_true]
      omega

theorem isUnmatched_of_contributes (h : file.Contributes index suffix c) :
    c.isUnmatched = !file.isMatched index suffix := by
  cases h with
  | unmatched unknown => simp [Contribution.isUnmatched, DetectionFile.isMatched, unknown]
  | unscored known holds => simp [Contribution.isUnmatched, DetectionFile.isMatched, known]
  | scored known holds converts => simp [Contribution.isUnmatched, DetectionFile.isMatched, known]

theorem countP_matched (h : List.Forall₂ (DetectionFile.Contributes index suffix) files cs) :
    cs.countP (! Contribution.isUnmatched ·) = files.countP (DetectionFile.isMatched index suffix) := by
  induction h with
  | nil => rfl
  | cons contributes _ ih =>
    rw [List.countP_cons, List.countP_cons, ih, isUnmatched_of_contributes contributes,
      Bool.not_not]

/-! ### Files of no known image -/

/-- The outcome with so many more files of no known image. -/
def withUnmatched (count : ℕ) (merged : Merged) : Merged :=
  { merged with unmatched := merged.unmatched + count }

theorem plus_withUnmatched (count : ℕ) (merged : Merged) (c : Contribution) :
    (merged.withUnmatched count).plus c = (merged.plus c).withUnmatched count := by
  simp only [plus, withUnmatched, Merged.mk.injEq, true_and, and_true]
  omega

theorem plus_unmatched (h : c.isUnmatched) : merged.plus c = merged.withUnmatched 1 := by
  cases c with
  | unmatched => simp [plus, withUnmatched, Contribution.detections, Contribution.imageIds,
      Contribution.isUnmatched]
  | unscored imageId => cases h
  | scored imageId boxes detections => cases h

/-- The count of files of no known image takes no part in a run. -/
theorem addAll_withUnmatched (count : ℕ) :
    (addAll index suffix (merged.withUnmatched count) files).2 =
      (addAll index suffix merged files).2.map (withUnmatched count) := by
  induction files generalizing merged with
  | nil => rfl
  | cons file files ih =>
    obtain ⟨c, contributes⟩ | ⟨e, ends⟩ := file.contributes_or_ends index suffix
    · rw [addAll_cons_of_contributes contributes, addAll_cons_of_contributes contributes]
      simp only [plus_withUnmatched]
      exact ih
    · rw [addAll_cons_of_ends ends, addAll_cons_of_ends ends]
      rfl

/-- The outcome of a run is that of its files of known images, apart from the
count of the others. -/
theorem addAll_filter : (addAll index suffix merged files).2 =
    (addAll index suffix merged (files.filter (DetectionFile.isMatched index suffix))).2.map
      (withUnmatched (files.countP (! DetectionFile.isMatched index suffix ·))) := by
  induction files generalizing merged with
  | nil => rfl
  | cons file files ih =>
    cases matched : file.isMatched index suffix with
    | true =>
      rw [List.filter_cons_of_pos matched, List.countP_cons_of_neg (by simp [matched])]
      obtain ⟨c, contributes⟩ | ⟨e, ends⟩ := file.contributes_or_ends index suffix
      · rw [addAll_cons_of_contributes contributes, addAll_cons_of_contributes contributes]
        exact ih
      · rw [addAll_cons_of_ends ends, addAll_cons_of_ends ends]
        rfl
    | false =>
      rw [List.filter_cons_of_neg (by simp [matched]), List.countP_cons_of_pos (by simp [matched])]
      obtain ⟨c, contributes⟩ | ⟨e, ends⟩ := file.contributes_or_ends index suffix
      · have unmatched : c.isUnmatched := by simp [isUnmatched_of_contributes contributes, matched]
        rw [addAll_cons_of_contributes contributes, plus_unmatched unmatched]
        simp only [ih, addAll_withUnmatched]
        cases (addAll index suffix merged
          (files.filter (DetectionFile.isMatched index suffix))).2 with
        | error e => rfl
        | ok result => simp [Except.map, withUnmatched, Nat.add_assoc, Nat.add_comm]
      · exact absurd ends.1 (by simp [matched])

/-! ### A folder in any order -/

variable {disk disk₁ disk₂ : Disk} {folder : Path} {names names₁ names₂ : List SystemText}
  {stems : List String}

theorem ofNames_eq (h : InNameOrder disk folder names stems) :
    ofNames disk folder index suffix names =
      (FolderEntry.skipped folder (names.map (FolderEntry.ofName disk folder)) ++
          (addAll index suffix {} (stems.map (DetectionFile.inFolder disk folder))).1,
        (addAll index suffix {} (stems.map (DetectionFile.inFolder disk folder))).2) := by
  rw [ofNames, ofEntries, detectionFiles_ofName h]

/-- The order in which a folder is listed does not change the outcome. -/
theorem ofFolder_outcome (lists : disk.Lists folder names) :
    (ofFolder disk folder index suffix).2 = (ofNames disk folder index suffix names).2 := by
  obtain ⟨listed, listing, order⟩ := lists
  obtain ⟨stems, sorted⟩ := exists_inNameOrder disk folder names
  rw [ofFolder, listing]
  simp only
  rw [ofNames_eq sorted, ofNames_eq (sorted.of_perm order)]

theorem ofNames_of_ofFolder
    (merges : ofFolder disk folder index suffix = (notices, .ok merged)) :
    ∃ names, disk.list folder = .ok names ∧
      ofNames disk folder index suffix names = (notices, .ok merged) := by
  unfold ofFolder at merges
  cases listing : disk.list folder with
  | error fault => simp [listing] at merges
  | ok names => exact ⟨names, rfl, by simpa [listing] using merges⟩

theorem heading_notDetectionName (path : Path) : (Notice.notDetectionName path).heading =
    "skipping non-" ++ ("detection entry " ++ path.display) := by
  have spelled : "skipping non-detection entry " = "skipping non-" ++ "detection entry " := by simp
  rw [← String.append_assoc, ← spelled]
  rfl

theorem heading_notRegularFile (path : Path) : (Notice.notRegularFile path).heading =
    "skipping non-" ++ ("file entry " ++ path.display) := by
  have spelled : "skipping non-file entry " = "skipping non-" ++ "file entry " := by simp
  rw [← String.append_assoc, ← spelled]
  rfl

/-- The notices about other entries say so. -/
theorem heading_of_skipped {entries : List FolderEntry} {n : Notice}
    (h : n ∈ FolderEntry.skipped folder entries) : ∃ rest, n.heading = "skipping non-" ++ rest := by
  obtain ⟨entry, -, skips⟩ := List.mem_filterMap.1 h
  cases why : entry.detectionFile folder with
  | ok file => simp [why] at skips
  | error n' =>
    obtain rfl : n' = n := by simpa [why] using skips
    unfold FolderEntry.detectionFile at why
    split at why
    · cases why
      exact ⟨_, heading_notDetectionName _⟩
    · cases why
      exact ⟨_, heading_notRegularFile _⟩
    · cases why

/-- There is one such notice for each entry that is no detection file. -/
theorem length_skipped (disk : Disk) (folder : Path) (names : List SystemText) :
    (FolderEntry.skipped folder (names.map (FolderEntry.ofName disk folder))).length =
      names.countP (! isDetectionFile disk folder ·) := by
  rw [FolderEntry.skipped, List.length_filterMap_eq_countP, List.countP_map]
  congr 1
  funext name
  have file := congrArg Option.isSome (detectionFile_ofName disk folder name)
  have stem := congrArg Option.isSome (detectionStemIn?_append disk folder name)
  rw [Option.isSome_map] at file stem
  rw [← file] at stem
  simp only [Function.comp]
  cases outcome : (FolderEntry.ofName disk folder name).detectionFile folder <;>
    cases yes : isDetectionFile disk folder name <;> simp [outcome, yes, Except.toOption] at stem ⊢

/-- Only files of no known image are worth a warning. -/
theorem level_zipWith (h : List.Forall₂ (DetectionFile.Contributes index suffix) files cs) :
    (List.zipWith (fun file c => c.notice suffix file) files cs).map Notice.level =
      cs.map (fun c => if c.isUnmatched then .warn else .debug) := by
  induction h with
  | nil => rfl
  | @cons file c _ _ contributes _ ih =>
    rw [List.zipWith_cons_cons, List.map_cons, List.map_cons, ih]
    cases c <;> rfl

/-- A merge that succeeds adds up the contributions of the detection files. -/
theorem exists_contributions
    (succeeds : ofNames disk folder index suffix names = (notices, .ok merged)) :
    ∃ stems cs, InNameOrder disk folder names stems ∧
      List.Forall₂ (DetectionFile.Contributes index suffix)
        (stems.map (DetectionFile.inFolder disk folder)) cs ∧
      merged = cs.foldl plus {} ∧
      notices = FolderEntry.skipped folder (names.map (FolderEntry.ofName disk folder)) ++
        List.zipWith (fun file c => c.notice suffix file)
          (stems.map (DetectionFile.inFolder disk folder)) cs := by
  obtain ⟨stems, ordered⟩ := exists_inNameOrder disk folder names
  rw [ofNames_eq ordered, Prod.mk.injEq] at succeeds
  obtain ⟨spoken, outcome⟩ := succeeds
  obtain ⟨cs, contribute, said, sum⟩ := addAll_eq_ok_iff.1 (Prod.ext rfl outcome)
  exact ⟨stems, cs, ordered, contribute, sum, spoken.symm.trans (congrArg _ said)⟩

section Sample

/-- A box of the last class. -/
def sampleText : String :=
  "[\x7b\"x1\":1,\"y1\":2,\"x2\":4,\"y2\":6,\"label\":79,\"conf\":0.5\x7d]"

/-- A working directory with a detection file of this box. -/
def sampleDisk : Disk :=
  (Disk.blank "work").put ["work", "a.json"] (.file { bytes := Text.Utf8.encode sampleText.toList })

def strayDisk : Disk := sampleDisk.put ["work", "b.json"] (.file { bytes := [255] })

def sampleIndex : ImageIndex := .ofList [("a.jpg", 1)]

theorem sampleDisk_lists : sampleDisk.Lists ⟨"."⟩ ["a.json"] :=
  ⟨_, rfl, .refl _⟩

/-- A folder can be listed in either order. -/
theorem strayDisk_lists : strayDisk.Lists ⟨"."⟩ ["b.json", "a.json"] :=
  ⟨["a.json", "b.json"], rfl, .swap _ _ _⟩

/-- A working directory with files of all kinds: with the box, without one, with `null`,
blank, of no known image, and with another ending. -/
def mixedDisk : Disk :=
  let others : List (SystemText × String) :=
    [("a-b.json", "[]"), ("c.json", "null"), ("d.json", " "), ("e.json", "?"), ("notes.txt", "[]")]
  others.foldl (fun disk (name, text) =>
    disk.put ["work", name] (.file { bytes := Text.Utf8.encode text.toList })) sampleDisk

def mixedNames : List SystemText :=
  ["notes.txt", "e.json", "d.json", "c.json", "a-b.json", "a.json"]

def mixedIndex : ImageIndex :=
  .ofList [("a.jpg", 1), ("a-b.jpg", 2), ("c.jpg", 3), ("d.jpg", 4)]

theorem mixedDisk_lists : mixedDisk.Lists ⟨"."⟩ mixedNames :=
  ⟨mixedNames.reverse, rfl, (List.reverse_perm _).symm⟩

end Sample

/-- A merge that succeeds loses nothing, adds nothing and keeps the order: it is
the sum of the contributions of the folder's detection files, ordered by the
bytes of their names. There is one notice for each of them, and one for each other
entry, which says that it is skipped. -/
theorem sum_of_ofNames (lists : disk.Lists folder names)
    (succeeds : ofNames disk folder index suffix names = (notices, .ok merged)) :
    (ofFolder disk folder index suffix).2 = .ok merged ∧
      ∃ stems contributions skipped said, InNameOrder disk folder names stems ∧
        List.Forall₂
          (fun stem => (DetectionFile.inFolder disk folder stem).Contributes index suffix)
          stems contributions ∧
        merged.detections = contributions.flatMap Contribution.detections ∧
        merged.imageIds = contributions.flatMap Contribution.imageIds ∧
        merged.matched = stems.countP (fun stem => (index.get? (stem ++ suffix)).isSome) ∧
        merged.matched + merged.unmatched = stems.length ∧
        notices = skipped ++ said ∧ skipped.length + stems.length = names.length ∧
        (∀ notice ∈ skipped, ∃ rest, notice.heading = "skipping non-" ++ rest) ∧
        said = List.zipWith
          (fun stem c => c.notice suffix (DetectionFile.inFolder disk folder stem))
          stems contributions ∧
        said.map Notice.level =
          contributions.map (fun c => if c.isUnmatched then .warn else .debug) := by
  refine ⟨by rw [ofFolder_outcome lists, succeeds], ?_⟩
  obtain ⟨stems, contributions, ordered, contribute, sum, spoken⟩ := exists_contributions succeeds
  rw [foldl_plus] at sum
  refine ⟨stems, contributions, _, _, ordered, List.forall₂_map_left_iff.1 contribute, ?_, ?_, ?_, ?_,
    spoken, ?_, fun _ => heading_of_skipped, List.zipWith_map_left, level_zipWith contribute⟩
  · simp only [sum, List.nil_append]
  · simp only [sum, List.nil_append]
  · simp only [sum, Nat.zero_add, countP_matched contribute, List.countP_map]
    rfl
  · have total := contributions.length_eq_countP_add_countP Contribution.isUnmatched
    have length := contribute.length_eq
    rw [List.length_map] at length
    simp only [sum, length, total, Nat.zero_add, Bool.not_eq_true, Bool.decide_eq_false]
    omega
  · have files := ordered.files.length_eq
    rw [List.length_map, ← List.countP_eq_length_filter] at files
    rw [length_skipped, files, Nat.add_comm,
      List.length_eq_countP_add_countP (isDetectionFile disk folder)]
    simp only [Bool.not_eq_true, Bool.decide_eq_false]

theorem sum_of_mixedDisk : ∃ notices merged stems, ∃ contributions : List Contribution,
    (ofNames mixedDisk ⟨"."⟩ mixedIndex ".jpg" mixedNames = (notices, .ok merged) ∧
      merged.imageIds = [2, 1] ∧ merged.detections.length = 1 ∧ merged.matched = 4 ∧
      merged.unmatched = 1 ∧ notices.length = 6) ∧
      InNameOrder mixedDisk ⟨"."⟩ mixedNames stems ∧
      merged.detections = contributions.flatMap Contribution.detections ∧
      merged.matched + merged.unmatched = stems.length := by
  -- A hyphen comes before the dot of the ending.
  have named : InNameOrder mixedDisk ⟨"."⟩ mixedNames ["a-b", "a", "c", "d", "e"] :=
    ⟨by decide +kernel, by decide⟩
  have evaluates : (ofNames mixedDisk ⟨"."⟩ mixedIndex ".jpg" mixedNames).1.length = 6 ∧
      (ofNames mixedDisk ⟨"."⟩ mixedIndex ".jpg" mixedNames).2.toOption.map (fun merged =>
        (merged.imageIds, merged.detections.length, merged.matched, merged.unmatched)) =
          some ([2, 1], 1, 4, 1) := by
    rw [ofNames_eq named]
    decide +kernel
  cases outcome : (ofNames mixedDisk ⟨"."⟩ mixedIndex ".jpg" mixedNames).2 with
  | error e =>
    rw [outcome] at evaluates
    cases evaluates.2
  | ok merged =>
    rw [outcome] at evaluates
    obtain ⟨notices, values⟩ := evaluates
    simp only [Except.toOption, Option.map_some, Option.some.injEq, Prod.mk.injEq] at values
    obtain ⟨imageIds, detections, matched, unmatched⟩ := values
    obtain ⟨-, stems, contributions, _, _, ordered, -, sum, -, -, count, -⟩ :=
      sum_of_ofNames mixedDisk_lists (Prod.ext rfl outcome)
    exact ⟨_, merged, stems, contributions,
      ⟨Prod.ext rfl outcome, imageIds, detections, matched, unmatched, notices⟩, ordered, sum,
      count⟩

/-- The bytes of a name that is no text, with the ending of a detection file. -/
def textlessName : SystemText := ⟨[0xFF]⟩ ++ SystemText.ofString detectionExtension

def textlessDisk : Disk :=
  sampleDisk.put ["work", textlessName] (.file { bytes := Text.Utf8.encode ['[', ']'] })

def textlessNames : List SystemText := ["a.json", textlessName]

/-- Whether a name stands for a regular file and has the ending of a detection file, be it
a text or not. -/
def isFileWithExtension (disk : Disk) (folder : Path) (name : SystemText) : Bool :=
  (SystemText.ofString detectionExtension).bytes.isSuffixOf name.bytes &&
    disk.isFile (folder.join name)

theorem textlessDisk_lists : textlessDisk.Lists ⟨"."⟩ textlessNames := ⟨_, rfl, .refl _⟩

theorem textlessDisk_inNameOrder : InNameOrder textlessDisk ⟨"."⟩ textlessNames ["a"] :=
  ⟨.refl _, List.pairwise_singleton _ _⟩

/-- A file is passed over if its name is no text. -/
theorem total_of_textlessDisk : textlessDisk.Lists ⟨"."⟩ textlessNames ∧
    (ofNames textlessDisk ⟨"."⟩ sampleIndex ".jpg" textlessNames).2.toOption.map
      (fun merged => merged.matched + merged.unmatched) = some 1 ∧
    textlessNames.countP (isFileWithExtension textlessDisk ⟨"."⟩) = 2 := by
  refine ⟨textlessDisk_lists, ?_, by decide +kernel⟩
  rw [ofNames_eq textlessDisk_inNameOrder]
  decide +kernel

theorem ofNames_error_of_order (ordered : InNameOrder disk folder names stems) :
    (ofNames disk folder index suffix names).2 = .error e ↔
      ∃ before stem after, stems = before ++ stem :: after ∧
        (∀ s ∈ before, ∀ e', ¬(DetectionFile.inFolder disk folder s).Ends index suffix e') ∧
        (DetectionFile.inFolder disk folder stem).Ends index suffix e := by
  rw [ofNames_eq ordered]
  refine addAll_eq_error_iff.trans ⟨?_, ?_⟩
  · rintro ⟨before, file, after, split, fine, ends⟩
    obtain ⟨before, rest, rfl, rfl, tail⟩ := List.map_eq_append_iff.1 split
    obtain ⟨stem, after, rfl, rfl, rfl⟩ := List.map_eq_cons_iff.1 tail
    exact ⟨before, stem, after, rfl, fun s hs => fine _ (List.mem_map_of_mem hs), ends⟩
  · rintro ⟨before, stem, after, rfl, fine, ends⟩
    exact ⟨before.map _, _, after.map _, List.map_append, List.forall_mem_map.2 fine, ends⟩

/-- A merge fails exactly if some file of a known image has a fault. The error is
that of the first such file in the order of the names. A folder that agrees as
far as this file fails in the same way, whatever its later files hold. -/
theorem ofNames_eq_error_iff (lists : disk.Lists folder names) :
    (ofFolder disk folder index suffix).2 = (ofNames disk folder index suffix names).2 ∧
      ∃ stems, InNameOrder disk folder names stems ∧
        ((∃ e, (ofNames disk folder index suffix names).2 = .error e) ↔
          ∃ stem ∈ stems, ∃ e, (DetectionFile.inFolder disk folder stem).Ends index suffix e) ∧
        (∀ e, (ofNames disk folder index suffix names).2 = .error e ↔
          ∃ before stem after, stems = before ++ stem :: after ∧
            (∀ s ∈ before, ∀ e', ¬(DetectionFile.inFolder disk folder s).Ends index suffix e') ∧
            (DetectionFile.inFolder disk folder stem).Ends index suffix e) ∧
        ∀ e, (ofNames disk folder index suffix names).2 = .error e →
          ∃ before stem after, stems = before ++ stem :: after ∧
            ∀ disk' names' after', InNameOrder disk' folder names' (before ++ stem :: after') →
              (∀ s ∈ before ++ [stem],
                DetectionFile.inFolder disk' folder s = DetectionFile.inFolder disk folder s) →
              (ofNames disk' folder index suffix names').2 = .error e := by
  refine ⟨ofFolder_outcome lists, ?_⟩
  obtain ⟨stems, ordered⟩ := exists_inNameOrder disk folder names
  refine ⟨stems, ordered, ?_, fun e => ofNames_error_of_order ordered, fun e fails => ?_⟩
  · simp only [ofNames_eq ordered, exists_addAll_eq_error_iff, List.mem_map,
      exists_exists_and_eq_and]
  · obtain ⟨before, stem, after, split, fine, ends⟩ := (ofNames_error_of_order ordered).1 fails
    refine ⟨before, stem, after, split, fun disk' names' after' ordered' agrees => ?_⟩
    refine (ofNames_error_of_order ordered').2 ⟨before, stem, after', rfl, fun s hs e' => ?_, ?_⟩
    · rw [agrees s (by simp [hs])]
      exact fine s hs e'
    · rw [agrees stem (by simp)]
      exact ends

/-- A working directory with three files that have a fault. That of `0.json` belongs to no
known image, and `b.json` has a label out of range before an element that is no box. -/
def faultyDisk : Disk :=
  let files : List (SystemText × List UInt8) :=
    [("c.json", [255]), ("0.json", [255]), ("b.json", Text.Utf8.encode
      "[\x7b\"x1\":1,\"y1\":2,\"x2\":4,\"y2\":6,\"label\":80,\"conf\":0.5\x7d,5]".toList)]
  files.foldl (fun disk (name, bytes) => disk.put ["work", name] (.file { bytes := bytes }))
    sampleDisk

def faultyNames : List SystemText := ["c.json", "0.json", "b.json", "a.json"]

def faultyIndex : ImageIndex := .ofList [("a.jpg", 1), ("b.jpg", 2), ("c.jpg", 3)]

theorem ofNames_eq_error_iff_faultyDisk :
    faultyDisk.Lists ⟨"."⟩ faultyNames ∧
      ∃ stems, InNameOrder faultyDisk ⟨"."⟩ faultyNames stems ∧
        ∃ before stem after, stems = before ++ stem :: after ∧
          (∀ s ∈ before, ∀ e',
            ¬(DetectionFile.inFolder faultyDisk ⟨"."⟩ s).Ends faultyIndex ".jpg" e') ∧
          (DetectionFile.inFolder faultyDisk ⟨"."⟩ stem).Ends faultyIndex ".jpg"
            (.malformed ⟨"./b.json"⟩) := by
  have lists : faultyDisk.Lists ⟨"."⟩ faultyNames :=
    ⟨["a.json", "c.json", "0.json", "b.json"], rfl, by decide +kernel⟩
  have named : InNameOrder faultyDisk ⟨"."⟩ faultyNames ["0", "a", "b", "c"] :=
    ⟨by decide +kernel, by decide⟩
  have failed : (ofNames faultyDisk ⟨"."⟩ faultyIndex ".jpg" faultyNames).2 =
      .error (.malformed ⟨"./b.json"⟩) := by
    rw [ofNames_eq named]
    decide +kernel
  obtain ⟨-, stems, ordered, -, first, -⟩ := ofNames_eq_error_iff lists
  exact ⟨lists, stems, ordered, (first _).1 failed⟩

/-! ### Two folders with the same files of known images -/

deriving instance DecidableEq for DetectionFile

/-- The detection files of a folder in the order of its listing. -/
def listedFiles (disk : Disk) (folder : Path) (names : List SystemText) : List DetectionFile :=
  (names.filterMap (detectionStemIn? disk folder)).map (DetectionFile.inFolder disk folder)

theorem listedFiles_perm (ordered : InNameOrder disk folder names stems) :
    (stems.map (DetectionFile.inFolder disk folder)).Perm (listedFiles disk folder names) := by
  rw [ordered.eq (inNameOrder_mergeSort disk folder names) (.refl _)]
  exact ((names.mergeSort_perm _).filterMap _).map _

theorem pairwise_inFolder (ordered : InNameOrder disk folder names stems) :
    (stems.map (DetectionFile.inFolder disk folder)).Pairwise
      fun a b => detectionName a.stem ≤ detectionName b.stem := by
  rw [List.pairwise_map]
  exact List.pairwise_map.1 ordered.sorted

/-- Two folders that agree on the files of known images go through them in the
same order. -/
theorem filter_isMatched_eq {stems₁ stems₂ : List String}
    (ordered₁ : InNameOrder disk₁ folder names₁ stems₁)
    (ordered₂ : InNameOrder disk₂ folder names₂ stems₂)
    (same : ((listedFiles disk₁ folder names₁).filter (DetectionFile.isMatched index suffix)).Perm
      ((listedFiles disk₂ folder names₂).filter (DetectionFile.isMatched index suffix))) :
    (stems₁.map (DetectionFile.inFolder disk₁ folder)).filter (DetectionFile.isMatched index suffix) =
      (stems₂.map (DetectionFile.inFolder disk₂ folder)).filter
        (DetectionFile.isMatched index suffix) := by
  have perm := ((listedFiles_perm ordered₁).filter (DetectionFile.isMatched index suffix)).trans
    (same.trans ((listedFiles_perm ordered₂).filter _).symm)
  refine perm.eq_of_pairwise (fun a b ha hb below above => ?_)
    ((pairwise_inFolder ordered₁).filter _) ((pairwise_inFolder ordered₂).filter _)
  -- Files of one folder are told apart by their names.
  obtain ⟨s, -, rfl⟩ := List.mem_map.1 (List.mem_filter.1 ha).1
  obtain ⟨t, -, rfl⟩ := List.mem_map.1 (List.mem_filter.1 (perm.mem_iff.2 hb)).1
  have names : s = t := detectionName_injective (SystemText.le_antisymm below above)
  rw [names]

theorem ofFolder_eq_map (lists : disk.Lists folder names)
    (ordered : InNameOrder disk folder names stems) :
    (ofFolder disk folder index suffix).2 =
      (addAll index suffix {} ((stems.map (DetectionFile.inFolder disk folder)).filter
        (DetectionFile.isMatched index suffix))).2.map
      (withUnmatched
        ((listedFiles disk folder names).countP (! DetectionFile.isMatched index suffix ·))) := by
  rw [ofFolder_outcome lists, ofNames_eq ordered, addAll_filter,
    (listedFiles_perm ordered).countP_eq]

/-- Two folders with the same files of known images have the same outcome, and
the files of no known image are only counted. -/
theorem ofFolder_of_same_matched (lists₁ : disk₁.Lists folder names₁)
    (lists₂ : disk₂.Lists folder names₂)
    (same : ((listedFiles disk₁ folder names₁).filter (DetectionFile.isMatched index suffix)).Perm
      ((listedFiles disk₂ folder names₂).filter (DetectionFile.isMatched index suffix))) :
    (∃ e, (ofFolder disk₁ folder index suffix).2 = .error e ∧
        (ofFolder disk₂ folder index suffix).2 = .error e) ∨
      ∃ merged₁ merged₂, (ofFolder disk₁ folder index suffix).2 = .ok merged₁ ∧
        (ofFolder disk₂ folder index suffix).2 = .ok merged₂ ∧
        merged₁.detections = merged₂.detections ∧ merged₁.imageIds = merged₂.imageIds ∧
        merged₁.matched = merged₂.matched ∧
        (merged₁.unmatched : ℤ) - merged₂.unmatched =
          (listedFiles disk₁ folder names₁).countP (! DetectionFile.isMatched index suffix ·) -
            (listedFiles disk₂ folder names₂).countP (! DetectionFile.isMatched index suffix ·) := by
  obtain ⟨stems₁, ordered₁⟩ := exists_inNameOrder disk₁ folder names₁
  obtain ⟨stems₂, ordered₂⟩ := exists_inNameOrder disk₂ folder names₂
  rw [ofFolder_eq_map lists₁ ordered₁, ofFolder_eq_map lists₂ ordered₂,
    filter_isMatched_eq ordered₁ ordered₂ same]
  cases (addAll index suffix {} ((stems₂.map (DetectionFile.inFolder disk₂ folder)).filter
    (DetectionFile.isMatched index suffix))).2 with
  | error e => exact .inl ⟨e, rfl, rfl⟩
  | ok merged =>
    refine .inr ⟨_, _, rfl, rfl, rfl, rfl, rfl, ?_⟩
    simp only [withUnmatched, Nat.cast_add]
    ring

theorem ofFolder_of_same_matched_strayDisk :
    ((listedFiles sampleDisk ⟨"."⟩ ["a.json"]).filter
        (DetectionFile.isMatched sampleIndex ".jpg")).Perm
      ((listedFiles strayDisk ⟨"."⟩ ["b.json", "a.json"]).filter
        (DetectionFile.isMatched sampleIndex ".jpg")) ∧
    ∃ merged₁ merged₂, (ofFolder sampleDisk ⟨"."⟩ sampleIndex ".jpg").2 = .ok merged₁ ∧
      (ofFolder strayDisk ⟨"."⟩ sampleIndex ".jpg").2 = .ok merged₂ ∧
      merged₁.detections = merged₂.detections ∧ merged₁.matched = merged₂.matched ∧
      merged₂.unmatched = merged₁.unmatched + 1 := by
  have same : (listedFiles sampleDisk ⟨"."⟩ ["a.json"]).filter
      (DetectionFile.isMatched sampleIndex ".jpg") =
        (listedFiles strayDisk ⟨"."⟩ ["b.json", "a.json"]).filter
          (DetectionFile.isMatched sampleIndex ".jpg") := by decide +kernel
  have succeeds : (ofFolder sampleDisk ⟨"."⟩ sampleIndex ".jpg").2.isOk := by decide +kernel
  have others : (listedFiles sampleDisk ⟨"."⟩ ["a.json"]).countP
        (! DetectionFile.isMatched sampleIndex ".jpg" ·) = 0 ∧
      (listedFiles strayDisk ⟨"."⟩ ["b.json", "a.json"]).countP
        (! DetectionFile.isMatched sampleIndex ".jpg" ·) = 1 := by decide +kernel
  refine ⟨.of_eq same, ?_⟩
  obtain ⟨e, fails, -⟩ | ⟨merged₁, merged₂, outcome₁, outcome₂, detections, -, matched, unmatched⟩ :=
    ofFolder_of_same_matched sampleDisk_lists strayDisk_lists (.of_eq same)
  · rw [fails] at succeeds
    cases succeeds
  · rw [others.1, others.2] at unmatched
    exact ⟨merged₁, merged₂, outcome₁, outcome₂, detections, matched, by omega⟩

/-- Two folders with the same files of known images can differ in a file that is not
counted, as its name is no text. -/
theorem unmatched_of_textlessDisk :
    sampleDisk.Lists ⟨"."⟩ ["a.json"] ∧ textlessDisk.Lists ⟨"."⟩ textlessNames ∧
    ((listedFiles sampleDisk ⟨"."⟩ ["a.json"]).filter
        (DetectionFile.isMatched sampleIndex ".jpg")).Perm
      ((listedFiles textlessDisk ⟨"."⟩ textlessNames).filter
        (DetectionFile.isMatched sampleIndex ".jpg")) ∧
    (ofFolder sampleDisk ⟨"."⟩ sampleIndex ".jpg").2.toOption.map Merged.unmatched = some 0 ∧
    (ofFolder textlessDisk ⟨"."⟩ sampleIndex ".jpg").2.toOption.map Merged.unmatched = some 0 ∧
    List.countP (fun name => isFileWithExtension sampleDisk ⟨"."⟩ name &&
      !sampleIndex.knows ".jpg" name) ["a.json"] = 0 ∧
    List.countP (fun name => isFileWithExtension textlessDisk ⟨"."⟩ name &&
      !sampleIndex.knows ".jpg" name) textlessNames = 1 := by
  refine ⟨sampleDisk_lists, textlessDisk_lists, .of_eq (by decide +kernel), by decide +kernel, ?_,
    by decide +kernel, by decide +kernel⟩
  rw [ofFolder_outcome textlessDisk_lists, ofNames_eq textlessDisk_inNameOrder]
  decide +kernel

end Merged

end DetectionMerge
