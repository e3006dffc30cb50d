import DetectionMerge.Run.Machine

/-! The command line. What a run may look at is read into a disk, the run takes
place on that disk, and what has changed is written back before anything is
printed. The evaluator is a shell script among the files that were read. Arguments,
variables and names come as texts here, so that files with other names are not seen. -/

namespace DetectionMerge.CommandLine

/-- The variables that a run may ask for. -/
def variableNames : List String :=
  [Configuration.fileVariable, "XDG_CONFIG_HOME", "HOME", Program.filterVariable,
    Program.styleVariable, "NO_COLOR", "CLICOLOR_FORCE", "CLICOLOR", "TERM", "CI"]

def readEnvironment : IO Environment := do
  let set ← variableNames.filterMapM fun name => do
    return (← IO.getEnv name).map fun value => (name, SystemText.ofString value)
  let output ← (← IO.getStdout).isTty
  let errors ← (← IO.getStderr).isTty
  return { bindings := set, accountHome := ⟨"/"⟩, terminals := ⟨output, errors⟩ }

def placeText (place : Place) : String :=
  "/" ++ String.intercalate "/" (place.map SystemText.display)

/-- Whether a file is a script, by its first two octets. -/
def isScript (bytes : List UInt8) : Bool := bytes.take 2 = [0x23, 0x21]

/-- What is at a place, links followed. -/
def readNode (place : Place) : IO (Option Node) := do
  try
    let file ← IO.FS.realPath (placeText place)
    if ← file.isDir then return some .directory
    let bytes := (← IO.FS.readBinFile file).toList
    return some (.file { bytes := bytes, executable := isScript bytes })
  catch _ =>
    return none

/-- The disk with what is at a place, and whether there is anything. -/
def readPlace (disk : Disk) (place : Place) : IO (Disk × Bool) := do
  if (disk.node? place).isSome then return (disk, true)
  match ← readNode place with
  | some node => return (disk.put place node, true)
  | none => return (disk, false)

/-- The names in a directory. -/
def readNames (place : Place) : IO (List String) := do
  try
    let folder ← IO.FS.realPath (placeText place)
    return (← folder.readDir).toList.map (·.fileName)
  catch _ =>
    return []

/-- The disk with what lies on the way along some names. -/
def readAlong (disk : Disk) (place : Place) : List SystemText → IO (Disk × Place)
  | [] => return (disk, place)
  | name :: rest => do
    let next := if name = ".." then place.dropLast else place ++ [name]
    let (disk, found) ← readPlace disk next
    if found then readAlong disk next rest else return (disk, next)

/-- The disk with what a path leads to, and with the entries of a directory. -/
def readPath (disk : Disk) (path : Path) : IO Disk := do
  let names := path.route.names.filter fun (name : SystemText) => name ≠ "" ∧ name ≠ "."
  let (disk, place) ← readAlong disk (if path.isAbsolute then [] else disk.current) names
  if disk.node? place = some .directory then
    (← readNames place).foldlM (fun disk name => return (← readPlace disk (place ++ [↑name])).1) disk
  else return disk

/-- The paths that a run may look at besides its configuration. -/
def pathsOf (settings : Settings) : List Path :=
  [settings.annotations, settings.folder, settings.output] ++
    if settings.evaluate then [⟨settings.program⟩, ⟨"."⟩] else []

def readDisk (arguments : List SystemText) (env : Environment) : IO Disk := do
  let folder : Path := ⟨(← IO.currentDir).toString⟩
  let current := folder.route.names.filter fun (name : SystemText) => name ≠ ""
  let start : Disk := { nodes := Disk.fixtures, current := current, refuses := fun _ => none }
  let (disk, _) ← readAlong start [] current
  match parse arguments with
  | .run options =>
    let disk ← readPath disk (Configuration.file env)
    (pathsOf (Program.settingsOf options env disk).1).foldlM readPath disk
  | _ => return disk

/-- Writes a node. A file takes its place in one step. -/
def writeNode (place : Place) : Node → IO Unit
  | .directory => IO.FS.createDirAll (placeText place)
  | .link _ | .emptyDevice => pure ()
  | .file f => do
    let temporary := placeText place ++ ".part"
    IO.FS.writeBinFile temporary ⟨f.bytes.toArray⟩
    IO.FS.rename temporary (placeText place)

/-- Writes what differs between two disks. -/
def writeChanges (before after : Disk) : IO Unit := do
  for (place, node) in after.nodes do
    if before.node? place ≠ some node then writeNode place node
  for (place, node) in before.nodes do
    if (after.node? place).isNone ∧ node ≠ .directory then IO.FS.removeFile (placeText place)

end DetectionMerge.CommandLine

open DetectionMerge CommandLine in
def main (arguments : List String) : IO UInt32 := do
  let arguments := arguments.map SystemText.ofString
  let env ← readEnvironment
  let disk ← readDisk arguments env
  let (printed, host) :=
    Program.main arguments env { disk := disk, launcher := Program.machine 1 env.bindings }
  try
    writeChanges disk host.disk
  catch fault =>
    IO.eprintln s!"Error: {fault}"
    return 1
  IO.print printed.output
  (← IO.getStderr).write ⟨printed.errors.toArray⟩
  return .ofNat printed.status
