import DetectionMerge.Host.Disk
import DetectionMerge.Notice
import DetectionMerge.Text.Utf8

/-! The entries of a detection folder, and the detection files among them:
regular files, links followed, whose name is a text that ends in `.json`. Entries whose
name is no text are skipped, like those with another ending. The files come in
the order of their names, whatever order the folder is listed in. -/

namespace DetectionMerge

structure FolderEntry where
  name : SystemText
  /-- The bytes of the regular file that the entry leads to, or why they cannot
  be read; nothing for other entries. -/
  content : Option (Except Fault (List UInt8))

/-- A detection file: its stem, its path, and its bytes. -/
structure DetectionFile where
  stem : String
  path : Path
  content : Except Fault (List UInt8)

/-- How the name of a detection file ends. -/
def detectionExtension : String := ".json"

/-- The name without its ending, if it is a text with the ending of a detection file. -/
def detectionStem? (name : SystemText) : Option String := do
  let cs := (← name.text?).toList
  let ending := detectionExtension.toList
  if ending.isSuffixOf cs then some (String.ofList (cs.take (cs.length - ending.length))) else none

namespace FolderEntry

/-- The entry of a name in the folder that a path leads to. -/
def ofName (disk : Disk) (folder : Path) (name : SystemText) : FolderEntry :=
  let path := folder.join name
  ⟨name, if disk.isFile path then some (disk.read path) else none⟩

/-- The detection file that an entry is, or why it is none. -/
def detectionFile (folder : Path) (e : FolderEntry) : Except Notice DetectionFile :=
  match detectionStem? e.name, e.content with
  | none, _ => .error (.notDetectionName (folder.join e.name))
  | some _, none => .error (.notRegularFile (folder.join e.name))
  | some stem, some content => .ok ⟨stem, folder.join e.name, content⟩

/-- Whether an entry comes before another: by their names. -/
def before (a b : FolderEntry) : Bool := a.name ≤ b.name

/-- The notices about the entries that are no detection files, in the order of
the entries. -/
def skipped (folder : Path) (entries : List FolderEntry) : List Notice :=
  entries.filterMap fun e =>
    match e.detectionFile folder with
    | .error notice => some notice
    | .ok _ => none

/-- The detection files, in the order of their names. -/
def detectionFiles (folder : Path) (entries : List FolderEntry) : List DetectionFile :=
  (entries.mergeSort before).filterMap fun e => (e.detectionFile folder).toOption

end FolderEntry

end DetectionMerge
