import DetectionMerge.Host.Disk

/-! Starting programs, and the words of others. How a program behaves is a parameter: a
launcher gives for each start on each disk what comes out and what becomes of the disk.
So are the words in which the libraries of a run tell what has gone wrong. A program that
a signal ends has no status; no launcher here ends one so. -/

namespace DetectionMerge

/-- The start of a program. -/
structure Launch where
  program : String
  arguments : List SystemText
  input : List UInt8
  deriving DecidableEq, Repr

/-- What is left of a program that has ended. -/
structure Ended where
  status : Nat
  output : List UInt8
  errors : List UInt8
  deriving DecidableEq, Repr

/-- The behaviour of all programs. A fault means that the program did not
start. -/
abbrev Launcher := Launch → Disk → Except Fault Ended × Disk

/-- The words of libraries, which stand in no message of the program itself. -/
structure Wording where
  /-- What is wrong with the bytes of an annotation file. -/
  annotations : List UInt8 → String := fun _ => "malformed"
  /-- What is wrong with the text of a detection file. -/
  detections : List UInt8 → String := fun _ => "malformed"
  /-- Why a file cannot be put at a path. -/
  saving : Path → Fault → String := fun _ fault => fault.message
  /-- What is written when the program is given up. -/
  abort : String := "path contains invalid UTF-8 characters"

instance : Inhabited Wording := ⟨{}⟩

/-- The machine a run takes place on, with the starts that were tried on it. -/
structure Host where
  disk : Disk
  launcher : Launcher
  launches : List Launch := []
  wording : Wording := {}

namespace Host

/-- Starts a program and waits for its end. -/
def start (host : Host) (launch : Launch) : Except Fault Ended × Host :=
  let (ended, disk) := host.launcher launch host.disk
  (ended, { host with disk := disk, launches := host.launches ++ [launch] })

end Host

end DetectionMerge
