import DetectionMerge.Shell.Field
import DetectionMerge.Shell.Reader
import DetectionMerge.Shell.Tool.Basic

/-! What a shell script has to work with: its arguments, the values of its
names, its streams and the disk. -/

namespace DetectionMerge.Shell

/-- Where a stream leads. -/
inductive Channel
  /-- To one of the texts that are being read. -/
  | source (i : Nat)
  /-- To one of the texts that are being written. -/
  | sink (i : Nat)
  /-- To a file, where the position with a number says. -/
  | file (place : Place) (i : Nat)
  | nowhere
  deriving DecidableEq, Repr

/-- How a script goes on. -/
inductive Flow
  | on
  /-- It ends. -/
  | leaving
  /-- A function ends. -/
  | returning
  /-- So many loops end. -/
  | breaking (loops : Nat)
  /-- So many loops but the last end, and that one goes on. -/
  | continuing (loops : Nat)
  deriving DecidableEq, Repr

structure Binding where
  name : Octets
  value : Octets
  exported : Bool := false
  /-- Whether the value stays as it is. -/
  fixed : Bool := false
  deriving DecidableEq, Repr

/-- A script at work. -/
structure Session where
  name : Octets
  arguments : List Octets
  dialect : Dialect := .plain
  /-- The program that has started the first script. -/
  caller : Option Tool := none
  /-- The number of the process that has started the script. -/
  parent : Octets := ['1']
  bindings : List Binding := []
  functions : List (Octets × Command) := []
  /-- The letters of the switches that are set. -/
  switches : Octets := []
  /-- What is run when the script ends. -/
  farewell : Option Octets := none
  status : Nat := 0
  /-- How the last command ended that an expansion has run. -/
  expansionStatus : Option Nat := none
  flow : Flow := .on
  line : Nat := 1
  /-- The command that runs the present text, or its file, for complaints. -/
  context : Octets := []
  loops : Nat := 0
  /-- The old values of the names that belong to functions. -/
  hidden : List (List (Octets × Option Binding)) := []
  /-- What is left of the argument that options are being taken from. -/
  optionRest : Octets := []
  disk : Disk
  streams : List (Nat × Channel) := [(0, .source 0), (1, .sink 0), (2, .sink 1)]
  sources : List Octets
  sinks : List Octets := [[], []]
  /-- How far files have been written, unless they are written at their ends. -/
  positions : List (Option Nat) := []

namespace Session

/-! ### Names -/

def look (s : Session) (name : Octets) : Option Octets :=
  (s.bindings.find? (·.name = name)).map (·.value)

def isFixed (s : Session) (name : Octets) : Bool :=
  (s.bindings.find? (·.name = name)).any (·.fixed)

/-- Gives a name a value. A new place for options is also a new beginning. -/
def bind (s : Session) (name value : Octets) : Session :=
  let old := s.bindings.find? (·.name = name)
  let exported := (old.map (·.exported)).getD false || s.switches.contains 'a'
  { s with
    bindings := ⟨name, value, exported, false⟩ :: s.bindings.filter (·.name ≠ name)
    optionRest := if name = ofString "OPTIND" then [] else s.optionRest }

def unbind (s : Session) (name : Octets) : Session :=
  { s with bindings := s.bindings.filter (·.name ≠ name) }

def share (s : Session) (name : Octets) : Session :=
  match s.bindings.find? (·.name = name) with
  | some b =>
    { s with bindings := { b with exported := true } :: s.bindings.filter (·.name ≠ name) }
  | none => s

def fix (s : Session) (name : Octets) : Session :=
  match s.bindings.find? (·.name = name) with
  | some b => { s with bindings := { b with fixed := true } :: s.bindings.filter (·.name ≠ name) }
  | none => s

/-- The number of the row of the shell's table that a name stands in. -/
def row (name : Octets) : Nat :=
  (name.foldl (fun n c => n + c.toNat) ((name.headD '\x00').toNat * 16)) % 39

/-- The values that programs see, in the order of the table. -/
def environment (s : Session) : List (Octets × Octets) :=
  let shared := (s.bindings.reverse.filter (·.exported)).map fun b => (b.name, b.value)
  shared.mergeSort fun a b => row a.1 ≤ row b.1

def separators (s : Session) : Octets := (s.look (ofString "IFS")).getD [' ', '\t', '\n']

def values? (s : Session) : Parameter → Option (List Octets)
  | .argument 0 => some [s.name]
  | .argument (n + 1) => (s.arguments[n]?).map ([·])
  | .count => some [(toString s.arguments.length).toList]
  | .arguments _ => if s.arguments.isEmpty then none else some s.arguments
  | .status => some [(toString s.status).toList]
  | .options => some [s.switches]
  | .process => some ["1".toList]
  | .named name => (s.look name).map ([·])

/-! ### Streams -/

def channel? (s : Session) (stream : Nat) : Option Channel :=
  (s.streams.find? (·.1 = stream)).map (·.2)

/-- Lets a stream lead somewhere, or nowhere at all. -/
def connect (s : Session) (stream : Nat) (channel : Option Channel) : Session :=
  let others := s.streams.filter (·.1 ≠ stream)
  { s with streams := (channel.map fun c => (stream, c)).toList ++ others }

def write (s : Session) (stream : Nat) (cs : Octets) : Session :=
  match s.channel? stream with
  | some (.sink i) => { s with sinks := s.sinks.modify i (· ++ cs) }
  | some (.file place i) =>
    match s.disk.node? place with
    | some (.file f) =>
      let start := ((s.positions[i]?).bind id).getD f.bytes.length
      let gap := List.replicate (start - f.bytes.length) (0 : UInt8)
      let bytes := (f.bytes ++ gap).take start ++ toBytes cs ++ f.bytes.drop (start + cs.length)
      if cs = [] then s
      else
        { s with
          disk := s.disk.put place (.file { f with bytes := bytes })
          positions := s.positions.modify i (·.map (· + cs.length)) }
    | _ => s
  | _ => s

def readable (s : Session) (stream : Nat) : Octets :=
  match s.channel? stream with
  | some (.source i) => (s.sources[i]?).getD []
  | _ => []

def leave (s : Session) (stream : Nat) (rest : Octets) : Session :=
  match s.channel? stream with
  | some (.source i) => { s with sources := s.sources.set i rest }
  | _ => s

def newSource (s : Session) (text : Octets) : Channel × Session :=
  (.source s.sources.length, { s with sources := s.sources ++ [text] })

def newSink (s : Session) : Nat × Session := (s.sinks.length, { s with sinks := s.sinks ++ [[]] })

/-! ### Complaints -/

def setStatus (s : Session) (status : Nat) : Session := { s with status := status }

/-- What a complaint about a line of the script begins with. -/
def label (s : Session) (line : Nat) : Octets :=
  let word := if s.dialect = .bash then ofString "line " else []
  s.name ++ [':', ' '] ++ word ++ (toString line).toList ++ [':', ' ']

def complain (s : Session) (line : Nat) (text : Octets) : Session :=
  let context := if s.context = [] then [] else s.context ++ [':', ' ']
  s.write 2 (s.label line ++ context ++ text ++ ['\n'])

def fail (s : Session) (status : Nat) (text : Octets) : Session :=
  (s.complain s.line text).setStatus status

/-- Complains about the present line and ends the script. -/
def abandon (s : Session) (text : Octets) : Session :=
  { s.fail 2 text with flow := .leaving }

def goesOn (s : Session) : Bool := s.flow = .on

def succeeded (s : Session) : Bool := s.status = 0

/-- Ends the script after a failure, if this is asked for. -/
def insist (s : Session) (tested : Bool) : Session :=
  if s.switches.contains 'e' ∧ !tested ∧ !s.succeeded ∧ s.goesOn then { s with flow := .leaving }
  else s

/-! ### Redirections -/

def openSource (s : Session) (path : Path) : Except Fault (Channel × Session) := do
  match ← s.disk.openNode path with
  | .file f => return s.newSource (ofBytes f.bytes)
  | _ => return s.newSource []

def openSink (s : Session) (path : Path) (append : Bool) : Except Fault (Channel × Session) := do
  let before := if append then (s.disk.read path).toOption.getD [] else []
  let disk ← s.disk.writeFile path before
  let s := { s with disk := disk }
  match ← disk.locate true path with
  | .existing place =>
    if disk.node? place = some .emptyDevice then return (.nowhere, s)
    else
      let position := if append then none else some 0
      return (.file place s.positions.length, { s with positions := s.positions ++ [position] })
  | .missing .. => return (.nowhere, s)

def openingFault (absent : String) (fault : Fault) : Octets :=
  if fault = .notFound ∨ fault = .notDirectory then ofString absent else faultWords fault

def standing? (path : Octets) : Option Nat :=
  match toText path with
  | "/dev/stdin" => some 0
  | "/dev/stdout" => some 1
  | "/dev/stderr" => some 2
  | _ => none

/-- The session after one redirection to a text, or a complaint and whether it
ends the script. -/
def redirect (s : Session) (stream : Nat) (direction : Direction) (target : Octets) :
    Except (Octets × Bool) Session :=
  let opening (words absent : String) (r : Except Fault (Channel × Session)) :
      Except (Octets × Bool) Session :=
    match standing? target, r with
    | some other, _ => .ok (s.connect stream (s.channel? other))
    | none, .ok (channel, s) => .ok (s.connect stream (some channel))
    | none, .error fault =>
      .error (if s.dialect = .bash then target ++ [':', ' '] ++ faultWords fault
        else ofString words ++ target ++ [':', ' '] ++ openingFault absent fault, false)
  let path := Call.path target
  match direction with
  | .input => opening "cannot open " "No such file" (s.openSource path)
  | .output => opening "cannot create " "Directory nonexistent" (s.openSink path false)
  | .append => opening "cannot create " "Directory nonexistent" (s.openSink path true)
  | .both =>
    opening "cannot create " "Directory nonexistent" do
      let (_, s) ← s.openSink path true
      s.openSource path
  | .document =>
    let (channel, s) := s.newSource target
    .ok (s.connect stream (some channel))
  | .copy =>
    if target = ['-'] then .ok (s.connect stream none)
    else
      match target.filter Char.isDigit, target with
      | [c], [_] =>
        match s.channel? (c.toNat - '0'.toNat) with
        | some channel => .ok (s.connect stream (some channel))
        | none => .error (target ++ ofString ": Bad file descriptor", false)
      | _, _ => .error (ofString "Syntax error: Bad fd number", true)

/-! ### Numbers -/

/-- The count that a command asks for, which is one if it names none. -/
def amount? (arguments : List Octets) : Option Nat :=
  match arguments with
  | [] => some 1
  | a :: _ => Text.natural? a

end Session

end DetectionMerge.Shell
