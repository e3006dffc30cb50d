import DetectionMerge.Shell.Tools

/-! The programs that the names of commands lead to. -/

namespace DetectionMerge.Shell

/-- How many octets of a text are looked at to find the program that is to run it. -/
def headLength : Nat := 256

/-- The program that is to run a text, from the text's first line, and the one
argument that the line can hold. A name that goes on beyond the head of the text
is no name. -/
def interpreter? (script : Octets) : Option (Octets × List Octets) :=
  let isBlank (c : Char) : Bool := c = ' ' ∨ c = '\t'
  match script.take headLength with
  | '#' :: '!' :: rest =>
    let line := rest.takeWhile (· ≠ '\n')
    let line :=
      if line.length < rest.length ∨ script.length < headLength then line else rest.dropLast
    let start := line.dropWhile isBlank
    let program := start.takeWhile fun c => !isBlank c && c ≠ '\x00'
    let after := start.drop program.length
    let argument := if after.head? = some '\x00' then [] else
      ((after.dropWhile isBlank).reverse.dropWhile isBlank).reverse.takeWhile (· ≠ '\x00')
    let hasArgument := after.head? ≠ some '\x00' && !after.all isBlank
    let isCut := script.length ≥ headLength && line.length + 1 = rest.length && after = []
    if program = [] ∧ after = [] ∨ isCut then none
    else
      some (if program.contains '/' then program else '.' :: '/' :: program,
        if hasArgument then [argument] else [])
  | _ => none

def programDirectories : List Place := [["bin"], ["usr", "bin"]]

def systemName? (disk : Disk) (program : Octets) : Option String :=
  match disk.locate true (Call.path program) with
  | .ok (.missing folder name) => if programDirectories.contains folder then name.text? else none
  | _ => none

/-- The programs of the system that find others, most of them to run them. -/
def finders : List String := ["env", "nohup", "nice", "timeout", "xargs", "which"]

/-- What a program's name leads to. -/
inductive Program
  /-- A text that names no program to run it. -/
  | text (script : Octets)
  /-- A text that another program is to run, with arguments in front. -/
  | interpreted (program : Octets) (arguments : List Octets)
  | tool (f : Tool)
  | shell (dialect : Dialect)
  | finder (name : String)
  | absent
  | forbidden
  /-- A name that cannot be followed. -/
  | unreachable (fault : Fault)

/-- The program that a name leads to. A path that leads nowhere can be that of a
program of the system. The names of a directory itself and of the one above it
are found in every directory of programs, but cannot be run. -/
def Program.find (disk : Disk) (name : Octets) : Program :=
  let system (name : String) : Program :=
    if name = "bash" then .shell .bash
    else if name = "sh" ∨ name = "dash" then .shell .plain
    else if finders.contains name then .finder name
    else
      match systemTool? name with
      | some f => .tool f
      | none => .absent
  if name.contains '/' then
    match disk.stat (Call.path name) with
    | .error .notFound =>
      match (systemName? disk name).map system with
      | none | some .absent => .absent
      | some program => if name.getLast? = some '/' then .unreachable .notDirectory else program
    | .error fault => .unreachable fault
    | .ok (.file f) =>
      let text := ofBytes f.bytes
      if !f.executable then .forbidden
      else
        match interpreter? text with
        | none => .text text
        | some (program, arguments) => .interpreted program arguments
    | .ok _ => .forbidden
  else if name = ['.'] ∨ name = ['.', '.'] then .forbidden
  else if 255 < name.length then .unreachable .nameTooLong
  else system (toText name)

/-- Why a program cannot be run, if it cannot. A text needs the program that is
to run it, which can be such a text itself, so many times. -/
def Program.faultWithin (disk : Disk) : Nat → Program → Option Fault
  | _, .absent => some .notFound
  | _, .forbidden => some .permissionDenied
  | _, .unreachable fault => some fault
  | 0, .interpreted .. => some .tooManyLinks
  | n + 1, .interpreted program _ => faultWithin disk n (Program.find disk program)
  | _, _ => none

def Program.fault? (disk : Disk) (program : Program) : Option Fault := program.faultWithin disk 5

end DetectionMerge.Shell
