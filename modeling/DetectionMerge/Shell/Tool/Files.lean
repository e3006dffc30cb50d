import DetectionMerge.Host.Tree
import DetectionMerge.Shell.Tool.Basic
import DetectionMerge.Text.Digit

/-! Tools that change files and directories, or tell about them. -/

namespace DetectionMerge.Shell

/-- Something done to one argument: the disk after it, or a complaint. -/
abbrev Deed := Disk → Octets → Except Octets Disk

/-- Does something to each argument. What goes wrong with one does not keep the
others from it. -/
def forEach (deed : Deed) (operands : List Octets) : Tool := fun call =>
  operands.foldl (fun e operand =>
    match deed e.disk operand with
    | .ok disk => { e with disk := disk }
    | .error text => { e with status := 1, errors := e.errors ++ call.complaint text })
    (call.ending 0)

/-- A complaint: what cannot be done to a name, and why. -/
def cannot (deed name : Octets) (fault : Fault) : Octets :=
  ofString "cannot " ++ deed ++ ' ' :: inQuotes name ++ [':', ' '] ++ faultWords fault

def withOperands (operands : List Octets) (tool : Tool) : Tool := fun call =>
  if operands.isEmpty then call.misused 1 (ofString "missing operand") else tool call

/-- The last name of a path without slashes at its end. -/
def lastName (path : Octets) : Octets :=
  let kept := (path.reverse.dropWhile (· = '/')).reverse
  if kept = [] then path.take 1 else (kept.reverse.takeWhile (· ≠ '/')).reverse

def folderOf (path : Octets) : Octets :=
  let kept := (path.reverse.dropWhile (· = '/')).reverse
  let above := kept.reverse.dropWhile (· ≠ '/')
  if kept = [] then (if path = [] then ['.'] else ['/'])
  else if above = [] then ['.']
  else
    let folder := (above.dropWhile (· = '/')).reverse
    if folder = [] then ['/'] else folder

/-! ### Removing -/

/-- Removes a file, or also an empty directory, or any directory. -/
def removal (directories empty silent : Bool) : Deed := fun disk name =>
  match disk.locate false (Call.path name) with
  | .ok (.existing place) =>
    if disk.node? place = some .directory ∧ !directories then
      if !empty then .error (cannot (ofString "remove") name .isDirectory)
      else if disk.isEmptyAt place then .ok (disk.erase place)
      else .error (ofString "cannot remove " ++ inQuotes name ++ ofString ": Directory not empty")
    else .ok (disk.eraseTree place)
  | .ok (.missing ..) =>
    if silent then .ok disk else .error (cannot (ofString "remove") name .notFound)
  | .error fault =>
    if silent ∧ (fault = .notFound ∨ fault = .notDirectory) then .ok disk
    else .error (cannot (ofString "remove") name fault)

/-- `rm`. -/
def remove : Tool := withOptions "rRfidv" "" 1 fun s =>
  if s.operands.isEmpty ∧ s.has 'f' then fun call => call.ending 0
  else withOperands s.operands (forEach (removal (s.has 'r' || s.has 'R') (s.has 'd') (s.has 'f'))
    s.operands)

/-- `rmdir`. -/
def removeDirectory : Tool := withOptions "pv" "" 1 fun s =>
  withOperands s.operands (forEach (fun disk name =>
    let failed (words : String) : Except Octets Disk :=
      .error (ofString "failed to remove " ++ inQuotes name ++ ofString s!": {words}")
    match disk.locate false (Call.path name) with
    | .ok (.existing place) =>
      if disk.node? place ≠ some .directory then failed "Not a directory"
      else if disk.isEmptyAt place then .ok (disk.erase place)
      else failed "Directory not empty"
    | .ok (.missing ..) => failed "No such file or directory"
    | .error fault => failed fault.description.1) s.operands)

/-! ### Making -/

/-- `mkdir`. -/
def makeDirectoryTool : Tool := withOptions "pv" "m" 1 fun s =>
  withOperands s.operands (forEach (fun disk name =>
    let route := (Call.path name).route
    let made : Except Fault Disk :=
      if s.has 'p' then
        let names := route.names.filter fun (name : SystemText) => name ≠ "" ∧ name ≠ "."
        match disk.makeDirectories route.absolute names.reverse with
        | (.ok (), disk) => .ok disk
        | (.error fault, _) => .error fault
      else disk.makeDirectory route
    match made with
    | .ok disk => .ok disk
    | .error fault =>
      .error (ofString "cannot create directory " ++ inMarks name ++ [':', ' '] ++
        faultWords fault)) s.operands)

def touch : Tool := withOptions "acmh" "drt" 1 fun s => fun call =>
  if s.operands.isEmpty then call.misused 1 (ofString "missing file operand")
  else forEach (fun disk name =>
    match disk.stat (Call.path name) with
    | .ok _ => .ok disk
    | .error .notFound =>
      if s.has 'c' then .ok disk
      else
        match disk.writeFile (Call.path name) [] with
        | .ok disk => .ok disk
        | .error .isDirectory => .error (ofString "setting times of " ++ inQuotes name ++
            ofString ": No such file or directory")
        | .error fault => .error (cannot (ofString "touch") name fault)
    | .error fault => .error (cannot (ofString "touch") name fault)) s.operands call

/-- Whether a text is a mode: octal digits, or clauses of who, how and what. -/
def isMode (mode : Octets) : Bool :=
  let isClause (clause : Octets) : Bool :=
    let rest := clause.dropWhile fun c => c ∈ ['u', 'g', 'o', 'a']
    rest ≠ [] && rest.head?.any (fun c => c ∈ ['+', '-', '=']) &&
      rest.all fun c => "+-=rwxXstugo".toList.contains c
  (mode ≠ [] && mode.length ≤ 5 && mode.all fun c => '0' ≤ c ∧ c ≤ '7') ||
    (Text.splitAt ',' mode).all isClause

/-- Whether a mode lets a file be run, if it says so. -/
def runnable? (mode : Octets) : Option Bool :=
  if mode.all Char.isDigit then some (mode.any fun c => c.toNat % 2 = 1)
  else
    let clauses := Text.splitAt ',' mode
    clauses.foldl (fun answer clause =>
      if !clause.contains 'x' then answer
      else if clause.contains '-' then some false
      else some true) none

/-- `chmod`. -/
def changeMode : Tool := fun call =>
  let isSwitch : Octets → Bool
    | ['-', c] => c ∈ ['R', 'v', 'f', 'c', '-']
    | _ => false
  match call.arguments.dropWhile isSwitch with
  | [] => call.misused 1 (ofString "missing operand")
  | [mode] => call.misused 1 (ofString "missing operand after " ++ inMarks mode)
  | mode :: files =>
    if !isMode mode then call.misused 1 (ofString "invalid mode: " ++ inMarks mode)
    else forEach (fun disk name =>
      match runnable? mode with
      | none => .ok disk
      | some executable =>
        match disk.setExecutable (Call.path name) executable with
        | .ok disk => .ok disk
        | .error fault => .error (cannot (ofString "access") name fault)) files call

/-! ### Moving and copying -/

/-- The name that something gets inside a directory, or at another name. -/
def placedAt (disk : Disk) (target source : Octets) : Octets :=
  if (disk.stat (Call.path target)).toOption = some .directory then
    withSlash target ++ lastName source
  else target
where
  /-- A folder's name with one slash behind it. -/
  withSlash (folder : Octets) : Octets :=
    if folder.getLast? = some '/' then folder else folder ++ ['/']

/-- A tool with sources and, as its last argument, a target. -/
def withTarget (operands : List Octets) (deed : Octets → Deed) : Tool := fun call =>
  match operands.getLast? with
  | none => call.misused 1 (ofString "missing file operand")
  | some target =>
    let sources := operands.dropLast
    if sources.isEmpty then
      call.misused 1 (ofString "missing destination file operand after " ++ inQuotes target)
    else if sources.length > 1 ∧
        (call.disk.stat (Call.path target)).toOption ≠ some .directory then
      match call.disk.stat (Call.path target) with
      | .error fault =>
        call.failing 1 (ofString "target " ++ inQuotes target ++ [':', ' '] ++ faultWords fault)
      | .ok _ =>
        call.failing 1 (ofString "target " ++ inQuotes target ++ ofString ": Not a directory")
    else forEach (deed target) sources call

def movement (keep : Bool) (target : Octets) : Deed := fun disk source =>
  let target := placedAt disk target source
  let failed (fault : Fault) : Except Octets Disk :=
    .error (ofString "cannot move " ++ inQuotes source ++ ofString " to " ++ inQuotes target ++
      [':', ' '] ++ faultWords fault)
  match disk.locate false (Call.path source) with
  | .error fault => .error (cannot (ofString "stat") source fault)
  | .ok (.missing ..) => .error (cannot (ofString "stat") source .notFound)
  | .ok (.existing place) =>
    let isFolder : Bool := disk.node? place = some .directory
    match disk.locate false (Call.path target) with
    | .error fault => failed fault
    | .ok (.missing folder name) =>
      if place.isPrefixOf folder ∧ isFolder then
        .error (ofString "cannot move " ++ inQuotes source ++
          ofString " to a subdirectory of itself, " ++ inQuotes target)
      else if !isFolder ∧ (Call.path target).fileName?.isNone then failed .notDirectory
      else .ok (disk.moveTree place (folder ++ [name]))
    | .ok (.existing there) =>
      if keep then .ok disk
      else if place = there then
        .error (inQuotes source ++ ofString " and " ++ inQuotes target ++
          ofString " are the same file")
      else if isFolder ∧ disk.node? there ≠ some .directory then
        .error (ofString "cannot overwrite non-directory " ++ inQuotes target ++
          ofString " with directory " ++ inQuotes source)
      else if !isFolder ∧ disk.node? there = some .directory then
        .error (ofString "cannot overwrite directory " ++ inQuotes target ++
          ofString " with non-directory")
      else if isFolder ∧ !disk.isEmptyAt there then
        .error (ofString "cannot overwrite " ++ inQuotes target ++ ofString ": Directory not empty")
      else .ok (disk.moveTree place there)

/-- `mv`. -/
def move : Tool := withOptions "finvuT" "" 1 fun s => withTarget s.operands (movement (s.has 'n'))

def copying (directories keep : Bool) (target : Octets) : Deed := fun disk source =>
  let target := placedAt disk target source
  match disk.stat (Call.path source), disk.locate true (Call.path source) with
  | .error fault, _ | _, .error fault => .error (cannot (ofString "stat") source fault)
  | .ok _, .ok (.missing ..) => .error (cannot (ofString "stat") source .notFound)
  | .ok .directory, .ok (.existing place) =>
    if !directories then
      .error (ofString "-r not specified; omitting directory " ++ inQuotes source)
    else
      match disk.locate true (Call.path target) with
      | .error fault => .error (cannot (ofString "create directory") target fault)
      | .ok (.missing folder name) =>
        if place.isPrefixOf folder then
          .error (ofString "cannot copy a directory, " ++ inQuotes source ++
            ofString ", into itself, " ++ inQuotes target)
        else .ok (disk.putTree (folder ++ [name]) (disk.treeAt place))
      | .ok (.existing there) =>
        if disk.node? there = some .directory then .ok (disk.putTree there (disk.treeAt place))
        else
          .error (ofString "cannot overwrite non-directory " ++ inQuotes target ++
            ofString " with directory " ++ inQuotes source)
  | .ok node, .ok (.existing place) =>
    match disk.locate true (Call.path target) with
    | .error fault => .error (cannot (ofString "create regular file") target fault)
    | .ok (.missing folder name) =>
      if (Call.path target).fileName?.isNone then
        .error (cannot (ofString "create regular file") target .notDirectory)
      else
        let copy : File := match node with
          | .file f => f
          | _ => { bytes := [] }
        .ok (disk.put (folder ++ [name]) (.file copy))
    | .ok (.existing there) =>
      if place = there then
        .error (inQuotes source ++ ofString " and " ++ inQuotes target ++
          ofString " are the same file")
      else if keep then .ok disk
      else
        match disk.node? there, Disk.bytesOf node with
        | some (.file f), .ok bytes => .ok (disk.put there (.file { f with bytes := bytes }))
        | some .emptyDevice, _ => .ok disk
        | _, _ =>
          .error (ofString "cannot overwrite directory " ++ inQuotes target ++
            ofString " with non-directory")

/-- `cp`. -/
def copy : Tool := withOptions "rRapfinvuTLPd" "" 1 fun s =>
  withTarget s.operands (copying (s.has 'r' || s.has 'R' || s.has 'a') (s.has 'n'))

/-- `ln`. Only links by name differ from copies here. -/
def link : Tool := withOptions "sfnrvT" "" 1 fun s => fun call =>
  match s.operands with
  | [] => call.misused 1 (ofString "missing file operand")
  | operands =>
    let target := if operands.length = 1 then ['.'] else operands.getLast?.getD []
    let sources := if operands.length = 1 then operands else operands.dropLast
    forEach (fun disk source =>
      let name := placedAt disk target source
      let kind := if s.has 's' then ofString "symbolic link" else ofString "hard link"
      let failed (fault : Fault) : Except Octets Disk :=
        .error (ofString "failed to create " ++ kind ++ ' ' :: inQuotes name ++ [':', ' '] ++
          faultWords fault)
      let node : Except Fault Node :=
        if s.has 's' then .ok (.link (Call.path source)) else disk.stat (Call.path source)
      match node, disk.locate false (Call.path name) with
      | .error fault, _ =>
        .error (ofString "failed to access " ++ inQuotes source ++ [':', ' '] ++ faultWords fault)
      | .ok .directory, _ =>
        .error (shown source ++ ofString ": hard link not allowed for directory")
      | _, .error fault => failed fault
      | .ok node, .ok (.missing folder last) => .ok (disk.put (folder ++ [last]) node)
      | .ok node, .ok (.existing place) =>
        if s.has 'f' ∧ disk.node? place ≠ some .directory then .ok (disk.put place node)
        else failed .alreadyExists) sources call

/-! ### Telling -/

/-- `ls`. -/
def list : Tool := withOptions "1aAdcCxFpqrtuUvS" "" 2 fun s => fun call =>
  let operands := if s.operands.isEmpty then [['.']] else s.operands
  let order (names : List Octets) : List Octets :=
    let sorted := names.mergeSort fun a b => !(b < a)
    if s.has 'r' then sorted.reverse else sorted
  let found := (order operands).map fun name => (name, call.disk.stat (Call.path name))
  let errors := found.filterMap fun (name, node) => match node with
    | .error fault => some (call.complaint (cannot (ofString "access") name fault))
    | .ok _ => none
  let isFolder (node : Except Fault Node) : Bool := node.toOption = some .directory && !s.has 'd'
  let files := found.filterMap fun (name, node) =>
    if node.toBool && !isFolder node then some name else none
  let folders := found.filterMap fun (name, node) => if isFolder node then some name else none
  let sign (path : Octets) : Octets :=
    match call.disk.stat (Call.path path), call.disk.locate false (Call.path path) with
    | .ok .directory, _ => if s.has 'F' ∨ s.has 'p' then ['/'] else []
    | .ok (.file f), _ => if s.has 'F' ∧ f.executable then ['*'] else []
    | _, _ => []
  let listing (name : Octets) : Octets :=
    let names := ((call.disk.list (Call.path name)).toOption.getD []).map ofSystem
    let visible := if s.has 'a' ∨ s.has 'A' then names else names.filter fun n => n.head? ≠ some '.'
    let names := order (if s.has 'a' then ['.'] :: ['.', '.'] :: visible else visible)
    ofLines (names.map fun n => n ++ sign (name ++ '/' :: n))
  let sections := folders.map fun name =>
    (if operands.length > 1 then name ++ [':', '\n'] else []) ++ listing name
  let sections :=
    if files.isEmpty then sections
    else ofLines (files.map fun name => name ++ sign name) :: sections
  { call.writing (joined '\n' sections) with
    status := if errors.isEmpty then 0 else 2
    errors := errors.flatten }

/-- `basename`. -/
def baseName : Tool := withOptions "az" "s" 1 fun s => fun call =>
  let without (ending name : Octets) : Octets :=
    if ending.isSuffixOf name ∧ ending ≠ name then name.take (name.length - ending.length) else name
  match s.operands with
  | [] => call.misused 1 (ofString "missing operand")
  | operands =>
    if s.has 'a' ∨ s.has 's' then
      call.writing (ofLines (operands.map fun p => without ((s.value? 's').getD []) (lastName p)))
    else
      match operands with
      | [p] => call.writing (lastName p ++ ['\n'])
      | [p, ending] => call.writing (without ending (lastName p) ++ ['\n'])
      | _ :: _ :: extra :: _ => call.misused 1 (ofString "extra operand " ++ inMarks extra)
      | [] => call.ending 0

/-- `dirname`. -/
def folderName : Tool := withOptions "z" "" 1 fun s =>
  withOperands s.operands fun call => call.writing (ofLines (s.operands.map folderOf))

/-- `readlink`. -/
def linkTarget : Tool := withOptions "nfemqsv" "" 1 fun s =>
  withOperands s.operands fun call =>
    let answers := s.operands.map fun name =>
      let path := Call.path name
      if s.has 'f' ∨ s.has 'e' ∨ s.has 'm' then
        match call.disk.locate true path with
        | .ok (.existing place) => some ('/' :: joined '/' (place.map ofSystem))
        | .ok (.missing folder last) => some ('/' :: joined '/' ((folder ++ [last]).map ofSystem))
        | .error _ => none
      else
        match call.disk.locate false path with
        | .ok (.existing place) => match call.disk.node? place with
          | some (.link target) => some (ofSystem target.raw)
          | _ => none
        | _ => none
    let found := answers.filterMap id
    { call.writing (if s.has 'n' then joined '\n' found else ofLines found) with
      status := if found.length = answers.length then 0 else 1 }

def workingDirectory (disk : Disk) : Octets := '/' :: joined '/' (disk.current.map ofSystem)

/-- `pwd`. -/
def printDirectory : Tool := withOptions "LP" "" 1 fun _ => fun call =>
  call.writing (workingDirectory call.disk ++ ['\n'])

end DetectionMerge.Shell
