import DetectionMerge.Host.Path

/-! The file system: files, directories and symbolic links by place, and the
operations of an operating system on them. -/

namespace DetectionMerge

/-- Why the operating system refuses an operation. -/
inductive Fault
  | notFound
  | notDirectory
  | isDirectory
  | alreadyExists
  | permissionDenied
  | tooManyLinks
  | nameTooLong
  | invalidName
  | notExecutable
  | busy
  | noSpace
  deriving DecidableEq, Repr

/-- The operating system's words for a fault, and its number. Some faults are
found before the operating system is asked. -/
def Fault.description : Fault → String × Option Nat
  | .notFound => ("No such file or directory", some 2)
  | .notDirectory => ("Not a directory", some 20)
  | .isDirectory => ("Is a directory", some 21)
  | .alreadyExists => ("File exists", some 17)
  | .permissionDenied => ("Permission denied", some 13)
  | .tooManyLinks => ("Too many levels of symbolic links", some 40)
  | .nameTooLong => ("File name too long", some 36)
  | .invalidName => ("nul byte found in provided data", none)
  | .notExecutable => ("Exec format error", some 8)
  | .busy => ("Device or resource busy", some 16)
  | .noSpace => ("No space left on device", some 28)

def Fault.message (fault : Fault) : String :=
  match fault.description with
  | (words, some number) => s!"{words} (os error {number})"
  | (words, none) => words

/-- The fault of an operation, if it is refused. -/
def Fault.of? {α : Type} : Except Fault α → Option Fault
  | .error fault => some fault
  | .ok _ => none

/-- The names from the root to a file or directory, through no link. -/
abbrev Place := List SystemText

structure File where
  bytes : List UInt8
  executable : Bool := false
  readable : Bool := true
  deriving DecidableEq, Repr

/-- What is at a place. -/
inductive Node
  | file (f : File)
  | directory
  | link (target : Path)
  /-- A device that is always empty and takes whatever is written to it. -/
  | emptyDevice
  deriving DecidableEq, Repr

/-- What a device can refuse although the paths allow it. -/
inductive DiskOperation
  | makeDirectory | makeTemporary | write | flush | rename
  deriving DecidableEq, Repr

/-- A file system with a working directory. -/
structure Disk where
  nodes : List (Place × Node)
  current : Place
  /-- The operations that fail for a reason of the device. -/
  refuses : DiskOperation → Option Fault

inductive Destination
  | existing (place : Place)
  /-- To a name that its existing directory does not have. -/
  | missing (folder : Place) (name : SystemText)
  deriving DecidableEq, Repr

namespace Disk

/-- The directories of every file system. -/
def standardDirectories : List Place :=
  [["bin"], ["boot"], ["dev"], ["etc"], ["home"], ["lib"], ["media"], ["mnt"], ["opt"], ["proc"],
    ["root"], ["run"], ["sbin"], ["srv"], ["sys"], ["tmp"], ["usr"], ["var"],
    ["usr", "bin"], ["usr", "include"], ["usr", "lib"], ["usr", "local"], ["usr", "sbin"],
    ["usr", "share"], ["usr", "local", "bin"], ["var", "lib"], ["var", "log"], ["var", "tmp"]]

/-- What every file system has: its directories, the empty device, and a
standard input with nothing in it. -/
def fixtures : List (Place × Node) :=
  let devices : List Place := [["dev", "null"], ["dev", "stdin"]]
  standardDirectories.map (·, .directory) ++ devices.map (·, .emptyDevice)

/-- A file system with nothing but its fixtures and a working directory in the
root. -/
def blank (name : SystemText) : Disk := ⟨fixtures ++ [([name], .directory)], [name], fun _ => none⟩

instance : Inhabited Disk := ⟨blank "work"⟩

/-- What is at a place. The root is always there. -/
def node? (disk : Disk) (place : Place) : Option Node :=
  if place = [] then some .directory else (disk.nodes.find? (·.1 = place)).map (·.2)

def put (disk : Disk) (place : Place) (node : Node) : Disk :=
  { disk with nodes := disk.nodes.filter (·.1 ≠ place) ++ [(place, node)] }

def erase (disk : Disk) (place : Place) : Disk :=
  { disk with nodes := disk.nodes.filter (·.1 ≠ place) }

def namesIn (disk : Disk) (place : Place) : List SystemText :=
  disk.nodes.filterMap fun (p, _) => if p.dropLast = place then p.getLast? else none

/-! ### Following a route -/

/-- Follows names from a place. A link is replaced by its target and handed to
`expand`, except for a last one that is not to be followed. -/
def visit (disk : Disk) (follow : Bool)
    (expand : Place → List SystemText → Except Fault Destination) :
    Place → List SystemText → Except Fault Destination
  | place, [] => .ok (.existing place)
  | place, name :: rest =>
    if disk.node? place ≠ some .directory then .error .notDirectory
    else if name = "" ∨ name = "." then visit disk follow expand place rest
    else if name = ".." then visit disk follow expand place.dropLast rest
    else if name.bytes.contains 0 then .error .invalidName
    else if 255 < name.bytes.length then .error .nameTooLong
    else
      match disk.node? (place ++ [name]) with
      | none => if rest.all (· = "") then .ok (.missing place name) else .error .notFound
      | some (.link target) =>
        if rest = [] ∧ !follow then .ok (.existing (place ++ [name]))
        else expand (if target.isAbsolute then [] else place) (target.route.names ++ rest)
      | some _ => visit disk follow expand (place ++ [name]) rest

/-- Follows names from a place, through at most so many links. -/
def walk (disk : Disk) (follow : Bool) :
    Nat → Place → List SystemText → Except Fault Destination
  | 0 => disk.visit follow fun _ _ => .error .tooManyLinks
  | links + 1 => disk.visit follow (walk disk follow links)

/-- Where a route leads, through at most forty links. -/
def destination (disk : Disk) (follow : Bool) (route : Route) : Except Fault Destination :=
  disk.walk follow 40 (if route.absolute then [] else disk.current) route.names

def longestPath : Nat := 4095

/-- Where a path leads. -/
def locate (disk : Disk) (follow : Bool) (path : Path) : Except Fault Destination :=
  if path.raw = "" then .error .notFound
  else if path.raw.bytes.contains 0 then .error .invalidName
  else if longestPath < path.raw.bytes.length then .error .nameTooLong
  else disk.destination follow path.route

/-- The node that a path leads to, through links. -/
def stat (disk : Disk) (path : Path) : Except Fault Node := do
  match ← disk.locate true path with
  | .existing place => (disk.node? place).elim (.error .notFound) .ok
  | .missing .. => .error .notFound

/-! ### Reading -/

/-- The bytes of an open node. A directory can be opened but not read. -/
def bytesOf : Node → Except Fault (List UInt8)
  | .file f => .ok f.bytes
  | .emptyDevice => .ok []
  | _ => .error .isDirectory

/-- Opens a path for reading. -/
def openNode (disk : Disk) (path : Path) : Except Fault Node := do
  match ← disk.stat path with
  | .file f => if f.readable then .ok (.file f) else .error .permissionDenied
  | node => .ok node

/-- The bytes of the file that a path leads to. -/
def read (disk : Disk) (path : Path) : Except Fault (List UInt8) := do
  bytesOf (← disk.openNode path)

def isFile (disk : Disk) (path : Path) : Bool :=
  match disk.stat path with
  | .ok (.file _) => true
  | _ => false

def isDirectory (disk : Disk) (route : Route) : Bool :=
  match disk.destination true route with
  | .ok (.existing place) => disk.node? place = some .directory
  | _ => false

/-- The names in the directory that a path leads to. -/
def list (disk : Disk) (path : Path) : Except Fault (List SystemText) := do
  match ← disk.locate true path with
  | .existing place =>
    if disk.node? place = some .directory then .ok (disk.namesIn place) else .error .notDirectory
  | .missing .. => .error .notFound

/-! ### Writing -/

/-- Fails where the device refuses an operation. -/
def allow (disk : Disk) (operation : DiskOperation) : Except Fault Unit :=
  (disk.refuses operation).elim (.ok ()) .error

def makeDirectory (disk : Disk) (route : Route) : Except Fault Disk := do
  match ← disk.destination false route with
  | .existing _ => .error .alreadyExists
  | .missing folder name =>
    disk.allow .makeDirectory
    return disk.put (folder ++ [name]) .directory

/-- Makes a directory and the missing ones above it, given by their names in
reverse. What has been made before a failure stays. -/
def makeDirectories (disk : Disk) (absolute : Bool) :
    List SystemText → Except Fault Unit × Disk
  | [] => (.ok (), disk)
  | name :: above =>
    let route : Route := ⟨absolute, (name :: above).reverse⟩
    match disk.makeDirectory route with
    | .ok disk => (.ok (), disk)
    | .error .notFound =>
      match makeDirectories disk absolute above with
      | (.error fault, disk) => (.error fault, disk)
      | (.ok (), disk) =>
        match disk.makeDirectory route with
        | .ok disk => (.ok (), disk)
        | .error fault => if disk.isDirectory route then (.ok (), disk) else (.error fault, disk)
    | .error fault => if disk.isDirectory route then (.ok (), disk) else (.error fault, disk)

/-- A name that a directory does not have. Among as many candidates as there
are nodes and one more, one is free. -/
def freshName (disk : Disk) (folder : Place) : SystemText :=
  let candidates : List SystemText :=
    (List.range (disk.nodes.length + 1)).map fun n => SystemText.ofString (".tmp" ++ toString n)
  (candidates.find? fun name => (disk.node? (folder ++ [name])).isNone).getD ".tmp"

/-- Makes an empty file with a fresh name in a directory. -/
def makeTemporary (disk : Disk) (folder : Route) : Except Fault (Place × Disk) := do
  match ← disk.destination true folder with
  | .missing .. => .error .notFound
  | .existing place =>
    if disk.node? place ≠ some .directory then .error .notDirectory
    else
      disk.allow .makeTemporary
      let temporary := place ++ [disk.freshName place]
      return (temporary, disk.put temporary (.file { bytes := [] }))

/-- Moves a file to a path. A file or link that is there is replaced itself. -/
def rename (disk : Disk) (source : Place) (target : Path) : Except Fault Disk := do
  let destination ← disk.locate false target
  if target.fileName?.isNone then .error .busy
  match disk.node? source, destination with
  | none, _ => .error .notFound
  | some node, .missing folder name =>
    disk.allow .rename
    return (disk.erase source).put (folder ++ [name]) node
  | some node, .existing place =>
    if disk.node? place = some .directory then .error .isDirectory
    else
      disk.allow .rename
      return (disk.erase source).put place node

/-- Fills a temporary file and moves it to its path. -/
def fillAndMove (disk : Disk) (temporary : Place) (target : Path) (bytes : List UInt8) :
    Except Fault Disk := do
  disk.allow .write
  let disk := disk.put temporary (.file { bytes := bytes })
  disk.allow .flush
  disk.rename temporary target

/-- Puts a file at a path in one step: the bytes go to a temporary file in the
same directory, which is then moved over the path. Missing directories are made
first. If a step fails, the temporary file is removed. -/
def replaceFile (disk : Disk) (target : Path) (bytes : List UInt8) : Except Fault Unit × Disk :=
  let parent := target.parent
  if longestPath < target.folder.bytes.length then (.error .nameTooLong, disk)
  else
    match disk.makeDirectories parent.absolute parent.names.reverse with
    | (.error fault, disk) => (.error fault, disk)
    | (.ok (), disk) =>
      match disk.makeTemporary parent with
      | .error fault => (.error fault, disk)
      | .ok (temporary, disk) =>
        match disk.fillAndMove temporary target bytes with
        | .ok disk => (.ok (), disk)
        | .error fault => (.error fault, disk.erase temporary)

/-- Writes a file at a path in place, through links. -/
def writeFile (disk : Disk) (path : Path) (bytes : List UInt8) : Except Fault Disk := do
  match ← disk.locate true path with
  | .missing folder name =>
    if path.fileName?.isNone then .error .isDirectory
    else return disk.put (folder ++ [name]) (.file { bytes := bytes })
  | .existing place =>
    match disk.node? place with
    | some (.file f) => return disk.put place (.file { f with bytes := bytes })
    | some .emptyDevice => return disk
    | _ => .error .isDirectory

/-- Removes a file, a link or a directory with all that is in it. -/
def removeTree (disk : Disk) (path : Path) : Disk :=
  match disk.locate false path with
  | .ok (.existing place) =>
    { disk with nodes := disk.nodes.filter fun (p, _) => !place.isPrefixOf p }
  | _ => disk

end Disk

end DetectionMerge
