import DetectionMerge.Folder.Entry
import DetectionMerge.Host.Process
import DetectionMerge.Record.Detection
import DetectionMerge.Record.Image
import DetectionMerge.Text.Blank

/-! Merging a detection folder: every detection file of a known image
contributes its detections, in the order of the files and within a file in the
order of the array. The first faulty file of a known image ends the merge. -/

namespace DetectionMerge

/-- Why reading or writing detections fails. -/
inductive MergeError
  | folderUnreadable (folder : Path)
  | fileUnreadable (path : Path)
  | malformed (path : Path)
  | labelOutOfRange (path : Path) (label : Int64)
  | unwritable (path : Path)
  deriving DecidableEq, Repr

/-- The text of an error, without its cause. -/
def MergeError.message : MergeError → String
  | .folderUnreadable folder => s!"failed to read detection folder {folder.display}"
  | .fileUnreadable path => s!"failed to read detection file {path.display}"
  | .malformed path => s!"malformed detection file {path.display}"
  | .labelOutOfRange path label =>
    s!"label {label.toInt} in {path.display} is outside the COCO label map (expected 0..80)"
  | .unwritable path => s!"failed to write merged detections to {path.display}"

/-- What has caused an error on a disk, in the words of others. -/
def MergeError.cause? (wording : Wording) (disk : Disk) : MergeError → Option String
  | .folderUnreadable folder => (Fault.of? (disk.list folder)).map Fault.message
  | .fileUnreadable path =>
    some ((Fault.of? (disk.read path)).elim "stream did not contain valid UTF-8" Fault.message)
  | .malformed path => some (wording.detections ((disk.read path).toOption.getD []))
  | .labelOutOfRange .. => none
  | .unwritable path => (Fault.of? (disk.replaceFile path []).1).map (wording.saving path)

/-- The outcome of a merge. -/
structure Merged where
  detections : List Detection := []
  /-- How many detection files belong to no known image. -/
  unmatched : Nat := 0
  /-- How many belong to one. -/
  matched : Nat := 0
  /-- The image of every file that holds an array, also an empty one. -/
  imageIds : List Int64 := []
  deriving DecidableEq

instance : Inhabited Merged := ⟨{}⟩

/-- What the content of a detection file amounts to. -/
inductive FileContent
  /-- Blank text or `null`: the image is not scored. -/
  | noResult
  | boxes (boxes : List CornerDetection)
  deriving DecidableEq

namespace DetectionFile

def imageName (file : DetectionFile) (suffix : String) : String := file.stem ++ suffix

/-- The boxes of a text: none for blank text and `null`. -/
def boxesOf? (text : List Char) : Option FileContent :=
  if text.all Text.isBlank then some .noResult
  else
    match Json.ofText? text with
    | some .null => some .noResult
    | some v => do return .boxes (← (← v.items?).mapM CornerDetection.ofJson?)
    | none => none

/-- What a file holds. It is read as text before its form is looked at. -/
def read (file : DetectionFile) : Except MergeError FileContent :=
  match file.content with
  | .error _ => .error (.fileUnreadable file.path)
  | .ok bytes =>
    match Text.Utf8.decode? bytes with
    | none => .error (.fileUnreadable file.path)
    | some text => (boxesOf? text).elim (.error (.malformed file.path)) .ok

/-- The detections of a file's boxes; the first label without a category is an
error. -/
def convert (path : Path) (imageId : Int64) (boxes : List CornerDetection) :
    Except MergeError (List Detection) :=
  boxes.mapM fun box =>
    match Category.ofLabel? box.label with
    | some categoryId => .ok (box.toDetection imageId categoryId)
    | none => .error (.labelOutOfRange path box.label)

end DetectionFile

namespace Merged

/-- What one detection file adds, with the notice about it. -/
def add (index : ImageIndex) (suffix : String) (merged : Merged) (file : DetectionFile) :
    List Notice × Except MergeError Merged :=
  let imageName := file.imageName suffix
  match index.get? imageName with
  | none => ([.unmatched imageName], .ok { merged with unmatched := merged.unmatched + 1 })
  | some imageId =>
    let merged := { merged with matched := merged.matched + 1 }
    match file.read with
    | .error e => ([], .error e)
    | .ok .noResult => ([.holdsNoResult file.path imageId], .ok merged)
    | .ok (.boxes boxes) =>
      let notice := Notice.detectionsRead boxes.length file.path imageId
      match DetectionFile.convert file.path imageId boxes with
      | .error e => ([notice], .error e)
      | .ok detections =>
        ([notice], .ok { merged with
          detections := merged.detections ++ detections
          imageIds := merged.imageIds ++ [imageId] })

/-- What a list of detection files adds, up to the first error. -/
def addAll (index : ImageIndex) (suffix : String) :
    Merged → List DetectionFile → List Notice × Except MergeError Merged
  | merged, [] => ([], .ok merged)
  | merged, file :: files =>
    match add index suffix merged file with
    | (notices, .error e) => (notices, .error e)
    | (notices, .ok merged) =>
      let (more, result) := addAll index suffix merged files
      (notices ++ more, result)

def ofEntries (folder : Path) (index : ImageIndex) (suffix : String) (entries : List FolderEntry) :
    List Notice × Except MergeError Merged :=
  let (notices, result) := addAll index suffix {} (FolderEntry.detectionFiles folder entries)
  (FolderEntry.skipped folder entries ++ notices, result)

/-- The merge of the folder that a path leads to, its names listed in some
order. -/
def ofNames (disk : Disk) (folder : Path) (index : ImageIndex) (suffix : String)
    (names : List SystemText) : List Notice × Except MergeError Merged :=
  ofEntries folder index suffix (names.map (FolderEntry.ofName disk folder))

def ofFolder (disk : Disk) (folder : Path) (index : ImageIndex) (suffix : String) :
    List Notice × Except MergeError Merged :=
  match disk.list folder with
  | .error _ => ([], .error (.folderUnreadable folder))
  | .ok names => ofNames disk folder index suffix names

end Merged

end DetectionMerge
