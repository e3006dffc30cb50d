import DetectionMerge.Host.Process
import DetectionMerge.Notice
import DetectionMerge.Record.Image

/-! Reading the images of an annotation file. -/

namespace DetectionMerge

/-- Why an annotation file cannot be used. -/
inductive AnnotationError
  | unreadable (path : Path)
  | malformed (path : Path)
  deriving DecidableEq, Repr

/-- The text of an error, without its cause. -/
def AnnotationError.message : AnnotationError → String
  | .unreadable path => s!"failed to read ground truth {path.display}"
  | .malformed path => s!"malformed ground truth {path.display}"

namespace Annotations

def ofText (path : Path) (text : List Char) : Except AnnotationError (List ImageRecord) :=
  ((Json.ofText? text).bind ImageRecord.listOfJson?).elim (.error (.malformed path)) .ok

def ofBytes (path : Path) (bytes : List UInt8) : Except AnnotationError (List ImageRecord) :=
  ((Json.ofBytes? bytes).bind ImageRecord.listOfJson?).elim (.error (.malformed path)) .ok

/-- The images of the annotation file at a path. What can be opened and is no
annotation file is malformed. -/
def load (disk : Disk) (path : Path) : Except AnnotationError (List ImageRecord) :=
  match disk.openNode path with
  | .error _ => .error (.unreadable path)
  | .ok node =>
    match Disk.bytesOf node with
    | .error _ => .error (.malformed path)
    | .ok bytes => ofBytes path bytes

/-- What has caused an error with the annotation file at a path, in the words of
others. -/
def cause (wording : Wording) (disk : Disk) (path : Path) : String :=
  match disk.openNode path with
  | .error fault => fault.message
  | .ok node =>
    match Disk.bytesOf node with
    | .error fault => fault.message
    | .ok bytes => wording.annotations bytes

def loadIndex (disk : Disk) (path : Path) : List Notice × Except AnnotationError ImageIndex :=
  match load disk path with
  | .error e => ([], .error e)
  | .ok images =>
    let index := ImageIndex.ofRecords images
    ([.imagesIndexed index.size], .ok index)

end Annotations

end DetectionMerge
