import DetectionMerge.Proofs.Folder.Merge

/-! A folder to which detection files are added. As long as the files of known images
are those that were there and hold what they held, a merge has the same outcome and
counts the new files. -/

namespace DetectionMerge

/-- The names of the detection files in the folder that a path leads to. -/
def Disk.detectionNames (disk : Disk) (folder : Path) : List SystemText :=
  ((disk.list folder).toOption.getD []).filter (isDetectionFile disk folder)

variable {disk disk₁ disk₂ : Disk} {folder : Path} {names names₁ names₂ : List SystemText}
  {name : SystemText} {index : ImageIndex} {suffix stem : String} {file : DetectionFile}
  {merged : Merged}

theorem ImageIndex.knows_detectionName (index : ImageIndex) (suffix stem : String) :
    index.knows suffix (detectionName stem) = (index.get? (stem ++ suffix)).isSome := by
  rw [knows, detectionStem?_detectionName, Option.any_some]

theorem Disk.detectionNames_of_list (lists : disk.list folder = .ok names) :
    disk.detectionNames folder = names.filter (isDetectionFile disk folder) := by
  rw [detectionNames, lists]
  rfl

theorem Disk.isFile_of_mem (h : name ∈ disk.detectionNames folder) :
    disk.isFile (folder.join name) := by
  rw [detectionNames, List.mem_filter, isDetectionFile, Bool.and_eq_true] at h
  exact h.2.2

namespace Merged

/-! ### The listed files by their names -/

theorem map_listedFiles (lists : disk.list folder = .ok names) :
    (listedFiles disk folder names).map (fun file => detectionName file.stem) =
      disk.detectionNames folder := by
  rw [listedFiles, List.map_map, List.map_filterMap, Disk.detectionNames_of_list lists,
    ← List.filterMap_eq_filter]
  congr 1
  funext name
  exact detectionStemIn?_append disk folder name

theorem mem_listedFiles_iff (lists : disk.list folder = .ok names) :
    file ∈ listedFiles disk folder names ↔
      detectionName file.stem ∈ disk.detectionNames folder ∧
        file = DetectionFile.inFolder disk folder file.stem := by
  have inFolder {file : DetectionFile} (listed : file ∈ listedFiles disk folder names) :
      file = DetectionFile.inFolder disk folder file.stem := by
    obtain ⟨stem, -, rfl⟩ := List.mem_map.1 listed
    rfl
  rw [← map_listedFiles lists, List.mem_map]
  constructor
  · intro listed
    exact ⟨⟨file, listed, rfl⟩, inFolder listed⟩
  · rintro ⟨⟨file', listed, same⟩, form⟩
    have stems : file'.stem = file.stem := detectionName_injective same
    rw [form, ← stems, ← inFolder listed]
    exact listed

theorem nodup_detectionNames (lists : disk.list folder = .ok names) (once : names.Nodup) :
    (disk.detectionNames folder).Nodup := by
  rw [Disk.detectionNames_of_list lists]
  exact once.filter _

theorem nodup_listedFiles (lists : disk.list folder = .ok names) (once : names.Nodup) :
    (listedFiles disk folder names).Nodup :=
  .of_map _ (map_listedFiles lists ▸ nodup_detectionNames lists once)

theorem countP_listedFiles (lists : disk.list folder = .ok names) :
    (listedFiles disk folder names).countP (! DetectionFile.isMatched index suffix ·) =
      (disk.detectionNames folder).countP (! index.knows suffix ·) := by
  rw [← map_listedFiles lists, List.countP_map]
  congr 1
  funext file
  rw [Function.comp, ImageIndex.knows_detectionName, DetectionFile.isMatched]

/-! ### More files -/

/-- What a list has is what a part of it has, and the rest. -/
theorem perm_append_filter {as bs : List SystemText} (once : as.Nodup) (once' : bs.Nodup)
    (part : as ⊆ bs) : bs.Perm (as ++ bs.filter (· ∉ as)) := by
  have old : (bs.filter (· ∈ as)).Perm as := by
    refine (List.perm_ext_iff_of_nodup (once'.filter _) once).2 fun name => ?_
    rw [List.mem_filter, decide_eq_true_iff]
    exact and_iff_right_of_imp fun member => part member
  refine .trans ?_ (old.append_right _)
  have split := List.filter_append_perm (fun name => decide (name ∈ as)) bs
  simpa only [decide_not] using split.symm

/-- The outcome after detection files have been added to a folder. -/
theorem ofFolder_of_added (lists₁ : disk₁.list folder = .ok names₁)
    (lists₂ : disk₂.list folder = .ok names₂) (once₁ : names₁.Nodup) (once₂ : names₂.Nodup)
    (kept : disk₁.detectionNames folder ⊆ disk₂.detectionNames folder)
    (known : ∀ name ∈ disk₂.detectionNames folder, index.knows suffix name →
      name ∈ disk₁.detectionNames folder)
    (same : ∀ name ∈ disk₂.detectionNames folder, index.knows suffix name →
      disk₂.read (folder.join name) = disk₁.read (folder.join name))
    (merges : (ofFolder disk₁ folder index suffix).2 = .ok merged) :
    (ofFolder disk₂ folder index suffix).2 = .ok (merged.withUnmatched
      ((disk₂.detectionNames folder).countP (· ∉ disk₁.detectionNames folder))) := by
  obtain ⟨stems₁, ordered₁⟩ := exists_inNameOrder disk₁ folder names₁
  obtain ⟨stems₂, ordered₂⟩ := exists_inNameOrder disk₂ folder names₂
  have matched : ((listedFiles disk₂ folder names₂).filter
      (DetectionFile.isMatched index suffix)).Perm
        ((listedFiles disk₁ folder names₁).filter (DetectionFile.isMatched index suffix)) := by
    refine (List.perm_ext_iff_of_nodup ((nodup_listedFiles lists₂ once₂).filter _)
      ((nodup_listedFiles lists₁ once₁).filter _)).2 fun file => ?_
    rw [List.mem_filter, List.mem_filter, mem_listedFiles_iff lists₂, mem_listedFiles_iff lists₁]
    refine and_congr_left fun matched => ?_
    rw [DetectionFile.isMatched, ← ImageIndex.knows_detectionName] at matched
    have agree (listed : detectionName file.stem ∈ disk₂.detectionNames folder) :
        DetectionFile.inFolder disk₂ folder file.stem =
          DetectionFile.inFolder disk₁ folder file.stem := by
      simp only [DetectionFile.inFolder, same _ listed matched]
    constructor
    · rintro ⟨listed, form⟩
      exact ⟨known _ listed matched, form.trans (agree listed)⟩
    · rintro ⟨listed, form⟩
      exact ⟨kept listed, form.trans (agree (kept listed)).symm⟩
  have counts : (disk₂.detectionNames folder).countP (! index.knows suffix ·) =
      (disk₁.detectionNames folder).countP (! index.knows suffix ·) +
        (disk₂.detectionNames folder).countP (· ∉ disk₁.detectionNames folder) := by
    have parts := perm_append_filter (nodup_detectionNames lists₁ once₁)
      (nodup_detectionNames lists₂ once₂) kept
    have unknown : ((disk₂.detectionNames folder).filter (· ∉ disk₁.detectionNames folder)).countP
        (! index.knows suffix ·) = (disk₂.detectionNames folder).countP
          (· ∉ disk₁.detectionNames folder) := by
      rw [List.countP_eq_length.2, List.countP_eq_length_filter]
      intro name new
      rw [List.mem_filter, decide_eq_true_iff] at new
      rw [Bool.not_eq_true', Bool.eq_false_iff]
      exact fun knows => new.2 (known name new.1 knows)
    rw [parts.countP_eq, List.countP_append, unknown]
  rw [ofFolder_eq_map ⟨names₁, lists₁, .refl _⟩ ordered₁, countP_listedFiles lists₁] at merges
  rw [ofFolder_eq_map ⟨names₂, lists₂, .refl _⟩ ordered₂, filter_isMatched_eq ordered₂ ordered₁ matched,
    countP_listedFiles lists₂, counts]
  generalize (addAll index suffix {} _).2 = outcome at merges ⊢
  cases outcome with
  | error e => cases merges
  | ok matched =>
    cases merges
    simp [Except.map, withUnmatched, Nat.add_assoc]

end Merged

end DetectionMerge
