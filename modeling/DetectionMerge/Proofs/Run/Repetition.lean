import DetectionMerge.Proofs.Folder.Additions
import DetectionMerge.Proofs.Host.Elsewhere
import DetectionMerge.Proofs.Run.Program

/-! Loading, merging and saving again, on the disk that the first time has left. The
results file may be one of the detection files then. As long as it is neither the
annotations nor a file of a known image, the results are the same, and from the second
time on nothing changes any more. -/

namespace DetectionMerge

open Disk (MakesWay Replaced stat_eq_ok_iff isFile_iff)

/-! ### Rounds -/

/-- One round: the index is loaded, the folder merged, and the results are saved. -/
def Settings.round (s : Settings) (wording : Wording) (disk : Disk) :
    Except Failure Merged × Disk :=
  match (Annotations.loadIndex disk s.annotations).2 with
  | .error fault => (.error (.loading fault (Annotations.cause wording disk s.annotations)), disk)
  | .ok index =>
    match (Merged.ofFolder disk s.folder index s.suffix).2 with
    | .error fault => (.error (.merging fault (fault.cause? wording disk)), disk)
    | .ok merged =>
      match s.save disk merged with
      | (.error fault, after) => (.error (.saving fault (fault.cause? wording disk)), after)
      | (.ok (), after) => (.ok merged, after)

/-- So many rounds, each on the disk that the one before has left. -/
def Settings.rounds (s : Settings) (wording : Wording) :
    ℕ → Disk → List (Except Failure Merged) × Disk
  | 0, disk => ([], disk)
  | n + 1, disk =>
    let (outcome, disk) := s.round wording disk
    let (outcomes, disk) := s.rounds wording n disk
    (outcome :: outcomes, disk)

variable {s : Settings} {wording : Wording} {disk before made after : Disk} {index : ImageIndex}
  {merged : Merged} {path folder : Path} {names names' : List SystemText} {place p : Place}
  {f : File} {route : Route}

theorem Settings.round_eq_ok_iff : s.round wording disk = (.ok merged, after) ↔
    ∃ index, (Annotations.loadIndex disk s.annotations).2 = .ok index ∧
      (Merged.ofFolder disk s.folder index s.suffix).2 = .ok merged ∧
      s.save disk merged = (.ok (), after) := by
  unfold round
  constructor
  · intro h
    split at h
    · cases h
    next index loads =>
    split at h
    · cases h
    next merged' merges =>
    split at h
    · cases h
    next after' saves =>
    cases h
    exact ⟨index, loads, merges, saves⟩
  · rintro ⟨index, loads, merges, saves⟩
    simp only [loads, merges, saves]

/-- A run without an evaluation is one round. -/
theorem Run.all_eq_round {evaluator : Evaluator Host} {host : Host} (disabled : s.evaluate = false) :
    (all evaluator s host).host.disk = (s.round host.wording host.disk).2 ∧
      (all evaluator s host).outcome =
        match (s.round host.wording host.disk).1 with
        | .error failure => .failed failure
        | .ok merged => .finished (totals merged) := by
  have course := all_course evaluator s host
  generalize (all evaluator s host).outcome = outcome at course ⊢
  generalize (all evaluator s host).host = ended at course ⊢
  unfold Settings.round
  cases course with
  | evaluatorMissing enabled | notProbed enabled | notEvaluated _ _ _ enabled
  | evaluated _ _ _ enabled => simp [disabled] at enabled
  | notLoaded starts error =>
    obtain rfl := starts.eq_of_unevaluated disabled
    simp only [error, and_self]
  | notMerged starts loads error =>
    obtain rfl := starts.eq_of_unevaluated disabled
    simp only [loads, error, and_self]
  | @notSaved started merged cause starts merges error =>
    obtain rfl := starts.eq_of_unevaluated disabled
    obtain ⟨index, loads, merges⟩ := merges
    simp only [loads, merges, Host.saved_disk]
    generalize s.save started.disk merged = saving at error ⊢
    obtain ⟨_, after⟩ := saving
    cases error
    exact ⟨rfl, rfl⟩
  | @unevaluated started merged starts merges saves =>
    obtain rfl := starts.eq_of_unevaluated disabled
    obtain ⟨index, loads, merges⟩ := merges
    simp only [loads, merges, Host.saved_disk]
    generalize s.save started.disk merged = saving at saves ⊢
    obtain ⟨_, after⟩ := saving
    cases saves
    exact ⟨rfl, rfl⟩

/-- A run without an evaluation, on the disk of a round that succeeds. -/
theorem Run.all_of_round (round : s.round wording before = (.ok merged, after))
    (disabled : s.evaluate = false) (evaluator : Evaluator Host) {host : Host}
    (starts : host.disk = before) :
    (all evaluator s host).outcome = .finished (totals merged) ∧
      (all evaluator s host).host.disk = after := by
  have round' : s.round host.wording host.disk = (.ok merged, after) :=
    starts ▸ Settings.round_eq_ok_iff.2 (Settings.round_eq_ok_iff.1 round)
  obtain ⟨ends, outcome⟩ := @all_eq_round s evaluator host disabled
  rw [round'] at ends outcome
  exact ⟨outcome, ends⟩

theorem Settings.rounds_of_round_eq (fixed : s.round wording disk = (.ok merged, disk)) (n : ℕ) :
    s.rounds wording n disk = (List.replicate n (.ok merged), disk) := by
  induction n with
  | zero => rfl
  | succ n ih => simp only [rounds, fixed, ih, List.replicate_succ]

/-! ### The annotations -/

/-- Only a regular file holds annotations. -/
theorem Annotations.exists_stat (loads : (loadIndex disk path).2 = .ok index) :
    ∃ f, disk.stat path = .ok (.file f) := by
  unfold loadIndex load at loads
  cases opened : disk.openNode path with
  | error fault => simp [opened] at loads
  | ok node =>
    rw [opened] at loads
    have there := Disk.stat_of_openNode opened
    cases node with
    | file f => exact ⟨f, there⟩
    | directory | link | emptyDevice => cases loads

theorem Annotations.loadIndex_of_stat_eq (same : after.stat path = before.stat path) :
    loadIndex after path = loadIndex before path := by
  rw [loadIndex, loadIndex, load, load, Disk.openNode, Disk.openNode, same]

/-! ### The paths of a round -/

/-- The results file is neither the annotations nor a detection file of a known image. -/
structure Settings.KeepsApart (s : Settings) (index : ImageIndex) (disk : Disk) : Prop where
  annotations : disk.locate true s.annotations ≠ disk.locate true s.output
  entries : ∀ name ∈ disk.detectionNames s.folder, index.knows s.suffix name →
    disk.locate true (s.folder.join name) ≠ disk.locate true s.output

instance (s : Settings) (index : ImageIndex) (disk : Disk) : Decidable (s.KeepsApart index disk) :=
  decidable_of_iff
    (disk.locate true s.annotations ≠ disk.locate true s.output ∧
      ∀ name ∈ disk.detectionNames s.folder, index.knows s.suffix name →
        disk.locate true (s.folder.join name) ≠ disk.locate true s.output)
    ⟨fun h => ⟨h.1, h.2⟩, fun h => ⟨h.annotations, h.entries⟩⟩

/-- After a save the paths of a round lead to files and to a folder as before, and no
detection file is gone. -/
structure Settings.StillLeads (s : Settings) (before after : Disk) : Prop where
  annotations : after.isFile s.annotations
  folder : ∃ names, after.list s.folder = .ok names
  output : after.isFile s.output
  entries : before.detectionNames s.folder ⊆ after.detectionNames s.folder

/-- Unless the results took the place of a link, no detection file is gone. -/
theorem Disk.exists_list_and_subset (ways : MakesWay before made route)
    (replaced : Replaced made after place f)
    (noLink : ∀ target, before.node? place ≠ some (.link target)) (listed : before.list folder = .ok names) :
    ∃ names', after.list folder = .ok names' ∧
      before.detectionNames folder ⊆ after.detectionNames folder := by
  obtain ⟨names', lists, more⟩ := exists_list_of_noLink ways replaced noLink listed
  refine ⟨names', lists, fun name member => ?_⟩
  rw [detectionNames_of_list listed, List.mem_filter, isDetectionFile, Bool.and_eq_true] at member
  rw [detectionNames_of_list lists, List.mem_filter, isDetectionFile, Bool.and_eq_true]
  obtain ⟨inside, ends, file⟩ := member
  exact ⟨more inside, ends, isFile_of_noLink ways replaced noLink file⟩

/-- If they could be cut off only by a link that is replaced, the paths lead on. -/
theorem Settings.stillLeads_of_round (round : s.round wording before = (.ok merged, after))
    (leads : (∃ place target, before.node? place = some (.link target) ∧
      after.node? place ≠ some (.link target)) → s.StillLeads before after) :
    s.StillLeads before after := by
  obtain ⟨index, loads, merges, saves⟩ := round_eq_ok_iff.1 round
  obtain ⟨made, destination, ways, named, located, replaced⟩ :=
    Disk.replaceFile_eq_ok (Results.replaceFile_of_save saves)
  by_cases noLink : ∀ target, before.node? destination.place ≠ some (.link target)
  · obtain ⟨f, annotations⟩ := Annotations.exists_stat loads
    obtain ⟨names, listed, -⟩ := Merged.ofNames_of_ofFolder (Prod.ext rfl merges)
    obtain ⟨names', lists, entries⟩ := Disk.exists_list_and_subset ways replaced noLink listed
    refine ⟨Disk.isFile_of_noLink ways replaced noLink (isFile_iff.2 ⟨f, annotations⟩),
      ⟨names', lists⟩, ?_, entries⟩
    obtain there | ⟨-, target, linked⟩ := replaced.stat located named
    · exact isFile_iff.2 ⟨_, there⟩
    · exact absurd (ways.link linked) (noLink target)
  · obtain ⟨target, linked⟩ := not_forall_not.1 noLink
    exact leads ⟨_, target, linked, by simp [replaced.present]⟩

/-! ### The second round -/

/-- After a first round a second one has the same results and counts the new detection
files, and every further one is like the second. Runs that do not evaluate are such rounds,
on any host. The results file must be apart from what the round reads, and no file of a
known image may come to light through a directory that the save has made. Where the save
has replaced a link, none of the paths may have gone on through it. -/
theorem Settings.rounds_of_round
    (loads : (Annotations.loadIndex before s.annotations).2 = .ok index)
    (round : s.round wording before = (.ok merged, after))
    (once : ∀ names, before.list s.folder = .ok names → names.Nodup)
    (apart : s.KeepsApart index after)
    (known : ∀ name ∈ after.detectionNames s.folder, index.knows s.suffix name →
      name ∈ before.detectionNames s.folder)
    (leads : (∃ place target, before.node? place = some (.link target) ∧
      after.node? place ≠ some (.link target)) → s.StillLeads before after) :
    ∃ again : Merged, (∀ n, s.rounds wording n after = (List.replicate n (.ok again), after)) ∧
      (s.evaluate = false → ∀ (evaluator : Evaluator Host) (host : Host),
        (host.disk = before → (Run.all evaluator s host).outcome = .finished (Run.totals merged) ∧
          (Run.all evaluator s host).host.disk = after) ∧
        (host.disk = after → (Run.all evaluator s host).outcome = .finished (Run.totals again) ∧
          (Run.all evaluator s host).host.disk = after)) ∧
      again.detections = merged.detections ∧ again.imageIds = merged.imageIds ∧
      again.matched = merged.matched ∧
      again.unmatched = merged.unmatched +
        (after.detectionNames s.folder).countP (· ∉ before.detectionNames s.folder) ∧
      after.stat s.output =
        .ok (.file { bytes := Text.Utf8.encode (Results.text merged.detections) }) := by
  obtain ⟨index', loads', merges, saves⟩ := round_eq_ok_iff.1 round
  obtain rfl : index' = index := Except.ok.inj (loads'.symm.trans loads)
  obtain ⟨made, destination, ways, named, located, replaced⟩ :=
    Disk.replaceFile_eq_ok (Results.replaceFile_of_save saves)
  have still : s.StillLeads before after := stillLeads_of_round round leads
  have found := replaced.locate_of_isFile located named still.output true
  -- The second round reads what the first one has read.
  have loadsAgain : (Annotations.loadIndex after s.annotations).2 = .ok index' := by
    have same := Disk.stat_eq_of_isFile ways replaced (isFile_iff.2 (Annotations.exists_stat loads))
      still.annotations (found ▸ apart.annotations)
    rw [Annotations.loadIndex_of_stat_eq same, loads]
  have mergesAgain : (Merged.ofFolder after s.folder index' s.suffix).2 =
      .ok (merged.withUnmatched ((after.detectionNames s.folder).countP
        (· ∉ before.detectionNames s.folder))) := by
    obtain ⟨names, listed, -⟩ := Merged.ofNames_of_ofFolder (Prod.ext rfl merges)
    obtain ⟨names', lists⟩ := still.folder
    obtain ⟨p, rfl, rfl⟩ := Disk.exists_namesIn_of_list ways replaced listed lists
    refine Merged.ofFolder_of_added listed lists (once _ listed)
      (Disk.nodup_namesIn_of_replaceFile (Results.replaceFile_of_save saves) (once _ listed))
      still.entries known (fun name member knows => ?_) merges
    have old : name ∈ before.detectionNames s.folder := known name member knows
    exact Disk.read_of_stat_eq (Disk.stat_eq_of_isFile ways replaced (Disk.isFile_of_mem old)
      (Disk.isFile_of_mem member) (found ▸ apart.entries name member knows))
  have savesAgain : s.save after _ = (.ok (), after) := Results.save_again saves still.output
  have second : s.round wording after = (.ok _, after) :=
    round_eq_ok_iff.2 ⟨index', loadsAgain, mergesAgain, savesAgain⟩
  refine ⟨_, rounds_of_round_eq second, fun disabled evaluator host => ?_, rfl, rfl, rfl, rfl, ?_⟩
  · exact ⟨Run.all_of_round round disabled evaluator, Run.all_of_round second disabled evaluator⟩
  · exact stat_eq_ok_iff.2 ⟨_, found, replaced.present⟩

deriving instance DecidableEq for ImageIndex

/-- Settings for a folder and an output path. -/
def sampleSettings (folder output : SystemText) : Settings :=
  ⟨⟨"gt.json"⟩, ⟨folder⟩, ".jpg", ⟨output⟩, "python3", false⟩

/-- The results are saved among the detection files. -/
def insideSettings : Settings := sampleSettings "dets" "dets/out.json"

/-- The first round on the sample. -/
def insideRound : Except Failure Merged × Disk := insideSettings.round {} Program.sampleDisk

theorem Settings.rounds_of_sampleDisk :
    ∃ merged after again, insideSettings.round {} Program.sampleDisk = (.ok merged, after) ∧
      insideSettings.KeepsApart Merged.sampleIndex after ∧
      (∀ n, insideSettings.rounds {} n after = (List.replicate n (.ok again), after)) ∧
      again.detections = merged.detections ∧ merged.imageIds = [1] ∧
      merged.unmatched = 0 ∧ again.unmatched = 1 ∧
      (Run.all (Evaluation.ofProgram insideSettings.program) insideSettings
        { Program.sampleHost with disk := after }).outcome = .finished (Run.totals again) := by
  have loads : (Annotations.loadIndex Program.sampleDisk insideSettings.annotations).2 =
      .ok Merged.sampleIndex := by decide +kernel
  have once : ∀ names, Program.sampleDisk.list insideSettings.folder = .ok names → names.Nodup := by
    have listed : Program.sampleDisk.list insideSettings.folder =
        .ok (["a.json"] : List SystemText) := by decide +kernel
    intro names listed'
    rw [← Except.ok.inj (listed.symm.trans listed')]
    exact List.nodup_singleton _
  have facts :
      insideRound.1.map (fun merged => (merged.imageIds, merged.unmatched)) = .ok ([1], 0) ∧
      insideSettings.KeepsApart Merged.sampleIndex insideRound.2 ∧
      (∀ name ∈ insideRound.2.detectionNames insideSettings.folder,
        Merged.sampleIndex.knows insideSettings.suffix name →
          name ∈ Program.sampleDisk.detectionNames insideSettings.folder) ∧
      insideRound.2.isFile insideSettings.annotations ∧
      insideRound.2.list insideSettings.folder =
        .ok (["a.json", "out.json"] : List SystemText) ∧
      insideRound.2.isFile insideSettings.output ∧
      Program.sampleDisk.detectionNames insideSettings.folder ⊆
        insideRound.2.detectionNames insideSettings.folder ∧
      (insideRound.2.detectionNames insideSettings.folder).countP
        (· ∉ Program.sampleDisk.detectionNames insideSettings.folder) = 1 := by decide +kernel
  obtain ⟨evaluates, apart, known, annotations, lists, output, entries, added⟩ := facts
  cases outcome : insideRound.1 with
  | error failure =>
    rw [outcome] at evaluates
    cases evaluates
  | ok merged =>
    rw [outcome] at evaluates
    obtain ⟨images, unmatched⟩ := Prod.mk.inj (Except.ok.inj evaluates)
    have round : insideSettings.round {} Program.sampleDisk = (.ok merged, insideRound.2) :=
      Prod.ext outcome rfl
    obtain ⟨again, repeats, runs, detections, -, -, counts, -⟩ :=
      rounds_of_round loads round once apart known
        (fun _ => ⟨annotations, ⟨_, lists⟩, output, entries⟩)
    refine ⟨merged, _, again, round, apart, repeats, detections, images, unmatched, ?_, ?_⟩
    · rw [counts, unmatched, added]
    · exact ((runs rfl _ _).2 rfl).1

/-- A folder that is reached through a link. -/
def linkedSettings : Settings := sampleSettings "folder" "folder"

def linkedDisk : Disk := Program.sampleDisk.put ["work", "folder"] (.link ⟨"dets"⟩)

/-- A detection file behind a directory that is not there. -/
def danglingSettings : Settings := sampleSettings "dets" "new/out.json"

def danglingDisk : Disk :=
  (Program.sampleDisk.put ["work", "a.json"] (Program.sampleFile "[]")).put ["work", "dets", "a.json"]
    (.link ⟨"../new/../a.json"⟩)

/-- The folder holds a link to the results file, under a name that is no text. -/
def textlessSettings : Settings := sampleSettings "links" "out.json"

def textlessLinkDisk : Disk :=
  (Program.sampleDisk.put ["work", "links"] .directory).put ["work", "links", Merged.textlessName]
    (.link ⟨"../out.json"⟩)

/-- Even if the results file is apart, the second round may be another one: the save may
take the place of a link that leads to the folder, and it may make a directory that a
detection file lies behind. And a file that has come to light is not counted if its name
is no text. -/
theorem Settings.exists_round_and_differs :
    ((linkedSettings.round {} linkedDisk).1.map Merged.matched = .ok 1 ∧
      linkedSettings.KeepsApart Merged.sampleIndex linkedDisk ∧
      linkedSettings.KeepsApart Merged.sampleIndex (linkedSettings.round {} linkedDisk).2 ∧
      (linkedSettings.round {} (linkedSettings.round {} linkedDisk).2).1.map Merged.matched =
        .error (.merging (.folderUnreadable ⟨"folder"⟩)
          ((MergeError.folderUnreadable ⟨"folder"⟩).cause? {}
            (linkedSettings.round {} linkedDisk).2))) ∧
    ((danglingSettings.round {} danglingDisk).1.map Merged.matched = .ok 0 ∧
      danglingSettings.KeepsApart Merged.sampleIndex danglingDisk ∧
      danglingSettings.KeepsApart Merged.sampleIndex (danglingSettings.round {} danglingDisk).2 ∧
      (danglingSettings.round {} (danglingSettings.round {} danglingDisk).2).1.map Merged.matched =
        .ok 1) ∧
    (textlessSettings.round {} textlessLinkDisk).1.map Merged.unmatched = .ok 0 ∧
      textlessSettings.KeepsApart Merged.sampleIndex textlessLinkDisk ∧
      textlessSettings.KeepsApart Merged.sampleIndex
        (textlessSettings.round {} textlessLinkDisk).2 ∧
      (textlessSettings.round {} (textlessSettings.round {} textlessLinkDisk).2).1.map
        Merged.unmatched = .ok 0 ∧
      Merged.isFileWithExtension textlessLinkDisk ⟨"links"⟩ Merged.textlessName = false ∧
      Merged.isFileWithExtension (textlessSettings.round {} textlessLinkDisk).2 ⟨"links"⟩
        Merged.textlessName = true := by
  refine ⟨?_, ?_, ?_⟩ <;> decide +kernel

end DetectionMerge
