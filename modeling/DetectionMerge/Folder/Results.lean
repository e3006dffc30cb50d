import DetectionMerge.Folder.Merge

/-! The results file: the merged detections as an array on one line. -/

namespace DetectionMerge.Results

def text (detections : List Detection) : List Char :=
  (Json.Document.list (detections.map Detection.document)).compact

def ofBytes? (bytes : List UInt8) : Option (List Detection) := do
  (← (← Json.ofBytes? bytes).items?).mapM Detection.ofJson?

/-- Writes a results file, in place of what is at the path. -/
def save (disk : Disk) (path : Path) (detections : List Detection) :
    Except MergeError Unit × Disk :=
  match disk.replaceFile path (Text.Utf8.encode (text detections)) with
  | (.ok (), disk) => (.ok (), disk)
  | (.error _, disk) => (.error (.unwritable path), disk)

/-- Reads a results file. What can be opened and is no results file is
malformed. -/
def load (disk : Disk) (path : Path) : Except MergeError (List Detection) :=
  match disk.openNode path with
  | .error _ => .error (.fileUnreadable path)
  | .ok node =>
    match (Disk.bytesOf node).toOption.bind ofBytes? with
    | some detections => .ok detections
    | none => .error (.malformed path)

end DetectionMerge.Results
