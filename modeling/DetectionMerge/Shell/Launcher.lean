import DetectionMerge.Host.Process
import DetectionMerge.Shell.Execution

/-! A machine. Its programs are executable files that name another program in
their first line, and the shells and tools of the system, which are found by
their names alone. The shell and its tools are no part of what the program does; they
stand for those of the system, so that scripts can take the place of the evaluator. -/

namespace DetectionMerge.Shell

/-- A session for a program that is started from outside, perhaps by a program that it can
start in turn. -/
def sessionOf (caller : Option Tool) (launch : Launch)
    (environment : List (String × SystemText)) (disk : Disk) : Session where
  name := ofString launch.program
  arguments := launch.arguments.map ofSystem
  bindings := environment.map fun (name, value) =>
    { name := ofString name, value := ofSystem value, exported := true }
  caller := caller
  disk := disk
  sources := [ofBytes launch.input]

/-- What is left of a session, and the disk after it. -/
def Session.ended (s : Session) (current : Place) : Ended × Disk :=
  (⟨s.status, toBytes ((s.sinks[0]?).getD []), toBytes ((s.sinks[1]?).getD [])⟩,
    { s.disk with current := current })

/-- Starts a program that a name leads to. A text that names no program to run it
is no program itself. -/
def start (caller : Option Tool) (launch : Launch) (environment : List (String × SystemText))
    (disk : Disk) : Except Fault Ended × Disk :=
  let s := sessionOf caller launch environment disk
  let program := Program.find disk s.name
  match program, program.fault? disk with
  | .text _, _ => (.error .notExecutable, disk)
  | _, some fault => (.error fault, disk)
  | _, none =>
    let (ended, disk) := ((runProgram depth s.name s.arguments).run s).2.ended disk.current
    (.ok ended, disk)

/-- The machine in an environment. A program that is named by a path is a file; a
name alone, or a path that leads nowhere, can be a program of the system. -/
def launcherIn (caller : Option Tool) (environment : List (String × SystemText)) : Launcher :=
  fun launch disk =>
  if (↑launch.program :: launch.arguments).any fun (s : SystemText) => s.bytes.contains 0 then
    (.error .invalidName, disk)
  else if launch.program.toList.contains '/' then
    match disk.stat ⟨launch.program⟩ with
    | .error .notFound | .ok (.file _) => start caller launch environment disk
    | .error fault => (.error fault, disk)
    | .ok _ => (.error .permissionDenied, disk)
  else start caller launch environment disk

end DetectionMerge.Shell
