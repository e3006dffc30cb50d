import DetectionMerge.Host.Disk

/-! Trees of files: a directory with all that is in it, moved or copied. -/

namespace DetectionMerge.Disk

/-- What is at a place and below it, each with its way from there. -/
def treeAt (disk : Disk) (place : Place) : List (Place × Node) :=
  disk.nodes.filterMap fun (p, node) =>
    if place.isPrefixOf p then some (p.drop place.length, node) else none

/-- The disk without what is at a place and below it. -/
def eraseTree (disk : Disk) (place : Place) : Disk :=
  { disk with nodes := disk.nodes.filter fun (p, _) => !place.isPrefixOf p }

/-- The disk with a tree at a place, on top of what is there. -/
def putTree (disk : Disk) (place : Place) (tree : List (Place × Node)) : Disk :=
  tree.foldl (fun disk (p, node) => disk.put (place ++ p) node) disk

/-- Moves a tree to a place where none of its own names stands. -/
def moveTree (disk : Disk) (source target : Place) : Disk :=
  if source = target then disk
  else ((disk.eraseTree source).eraseTree target).putTree target (disk.treeAt source)

def isEmptyAt (disk : Disk) (place : Place) : Bool := (disk.namesIn place).isEmpty

def setExecutable (disk : Disk) (path : Path) (executable : Bool) : Except Fault Disk := do
  match ← disk.locate true path with
  | .existing place =>
    match disk.node? place with
    | some (.file f) => return disk.put place (.file { f with executable := executable })
    | _ => return disk
  | .missing .. => .error .notFound

end DetectionMerge.Disk
