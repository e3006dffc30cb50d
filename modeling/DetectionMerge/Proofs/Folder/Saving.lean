import DetectionMerge.Proofs.Folder.ResultsText
import DetectionMerge.Proofs.Host.Again

/-! Saving results in one step. The results are in the place that the path names,
or everything is as it was, apart from directories on the way to it. Loading them
again finds them where the path still leads. -/

namespace DetectionMerge.Results

open Disk (MakesWay Replaced exists_replacement)

variable {before saved : Disk} {path : Path} {detections : List Detection}

theorem replaceFile_of_save (h : save before path detections = (.ok (), saved)) :
    before.replaceFile path (Text.Utf8.encode (text detections)) = (.ok (), saved) := by
  unfold save at h
  split at h
  · next disk replaced =>
    cases h
    exact replaced
  · cases h

theorem save_again (h : save before path detections = (.ok (), saved)) (there : saved.isFile path) :
    save saved path detections = (.ok (), saved) := by
  rw [save, Disk.replaceFile_again (replaceFile_of_save h) there]

/-- Loading what was saved gives the detections if they are finite and the path
leads to the file. -/
theorem load_of_save (h : save before path detections = (.ok (), saved)) :
    saved.isFile path ∧ load saved path =
        (if detections.all Detection.isFinite then .ok detections else .error (.malformed path)) ∨
      saved.isFile path = false ∧ load saved path = .error (.fileUnreadable path) ∧
        ∃ place link, before.node? place = some (.link link) ∧
          saved.node? place = some (.file { bytes := Text.Utf8.encode (text detections) }) := by
  obtain there | ⟨refused, replaced⟩ := Disk.stat_of_replaceFile (replaceFile_of_save h)
  · left
    have opened : saved.openNode path =
        .ok (.file { bytes := Text.Utf8.encode (text detections) }) := by
      simp [Disk.openNode, there, bind, Except.bind]
    refine ⟨by simp [Disk.isFile, there], ?_⟩
    simp only [load, opened, Disk.bytesOf, Except.toOption, Option.bind_some, ofBytes?_text]
    split_ifs <;> rfl
  · right
    refine ⟨by simp [Disk.isFile, refused], ?_, replaced⟩
    simp [load, Disk.openNode, refused, bind, Except.bind]

/-- A save that fails keeps every node, and all that is new are directories on the
way to the path. After a save that succeeds, the array is the file at the place
that the path names: the path is not followed through a link there, which is
replaced itself, and all other nodes are as they are with the new directories. The
path leads to this file, unless it went on through the link that is replaced. -/
theorem save_inOneStep (before : Disk) (path : Path) (detections : List Detection) :
    match save before path detections with
    | (.error e, after) => e = .unwritable path ∧ MakesWay before after path.parent
    | (.ok (), after) =>
      ∃ made destination, MakesWay before made path.parent ∧
        made.locate false path = .ok destination ∧
        Replaced made after destination.place { bytes := Text.Utf8.encode (text detections) } ∧
        (after.stat path = .ok (.file { bytes := Text.Utf8.encode (text detections) }) ∨
          after.stat path = .error .notDirectory ∧
            ∃ link, made.node? destination.place = some (.link link)) := by
  rw [save]
  cases saves : before.replaceFile path (Text.Utf8.encode (text detections)) with
  | mk outcome after =>
    obtain ⟨made, ways, replacement⟩ := exists_replacement saves
    cases replacement with
    | failed same current => exact ⟨rfl, ways.of_same same current⟩
    | done leads named replaced =>
      exact ⟨made, _, ways, leads, replaced, replaced.stat leads named⟩

/-- A link to a directory beside it. -/
def linkedDisk : Disk :=
  ((Disk.blank "work").put ["work", "real"] .directory).put ["work", "l"] (.link ⟨"real"⟩)

/-- The link is replaced, and then the path through it leads nowhere. -/
theorem exists_save_and_stat_eq_error :
    ∃ saved, save linkedDisk ⟨"l/../l"⟩ [] = (.ok (), saved) ∧
      saved.node? ["work", "l"] = some (.file { bytes := Text.Utf8.encode (text []) }) ∧
      saved.stat ⟨"l/../l"⟩ = .error .notDirectory := by
  have succeeds : (save linkedDisk ⟨"l/../l"⟩ []).1 = .ok () := by decide +kernel
  exact ⟨_, Prod.ext succeeds rfl, by decide +kernel, by decide +kernel⟩

end DetectionMerge.Results
