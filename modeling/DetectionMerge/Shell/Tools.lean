import DetectionMerge.Shell.Tool.Edit
import DetectionMerge.Shell.Tool.Files
import DetectionMerge.Shell.Tool.Reckoning
import DetectionMerge.Shell.Tool.Testing
import DetectionMerge.Shell.Tool.Writing

/-! The tools by their names: those of the system, and those that the shell has
itself. -/

namespace DetectionMerge.Shell

/-- `sleep`. No time passes here. -/
def sleep : Tool := withOptions "" "" 1 fun s => fun call =>
  let isInterval (text : Octets) : Bool :=
    let digits :=
      if text.getLast?.any fun c => c ∈ ['s', 'm', 'h', 'd'] then text.dropLast else text
    digits ≠ [] && digits.all fun c => c.isDigit || c = '.'
  match s.operands, s.operands.find? (!isInterval ·) with
  | [], _ => call.misused 1 (ofString "missing operand")
  | _, some wrong => call.misused 1 (ofString "invalid time interval " ++ inMarks wrong)
  | _, none => call.ending 0

/-- `printenv`. -/
def printEnvironment : Tool := withOptions "0" "" 2 fun s => fun call =>
  let value? (name : Octets) : Option Octets :=
    (call.environment.find? (·.1 = name)).map (·.2)
  match s.operands with
  | [] => call.writing (ofLines (call.environment.map fun (name, value) => name ++ '=' :: value))
  | names =>
    { call.writing (ofLines (names.filterMap value?)) with
      status := if names.all fun name => (value? name).isSome then 0 else 1 }

def telling (text : String) : Tool := withOptions "snrmoua" "" 1 fun _ => fun call =>
  call.writing (ofString text ++ ['\n'])

/-- `id`, which only tells numbers. -/
def identity : Tool := withOptions "ugGnr" "" 1 fun s => fun call =>
  if s.has 'n' then call.writing (ofString "root\n")
  else if s.options.isEmpty then call.writing (ofString "uid=0(root) gid=0(root) groups=0(root)\n")
  else call.writing (ofString "0\n")

/-- The programs of the system that are known by name only, each with its status
for options that it does not know. They know none here, and do nothing. -/
def strangers : List (String × Nat) :=
  ["arch", "base64", "chgrp", "chown", "comm", "csplit", "date", "dd", "df", "expand", "factor",
    "fold", "groups", "hostid", "install", "join", "link", "logname", "mkfifo", "mknod", "mktemp",
    "nl", "nproc", "numfmt", "paste", "pathchk", "pinky", "ptx", "shuf", "split", "stat", "stty",
    "sum", "sync", "truncate", "tsort", "unexpand", "unlink", "users", "who", "yes"].map (·, 1) ++
  [("tty", 2), ("chroot", 125), ("stdbuf", 125)]

def systemTool? : String → Option Tool
  | "true" => some (·.ending 0)
  | "false" => some (·.ending 1)
  | "echo" => some systemEcho
  | "printf" => some systemPrintf
  | "test" => some systemTest
  | "[" => some systemBracket
  | "cat" => some cat
  | "tac" => some reversedLines
  | "rev" => some mirrored
  | "tee" => some tee
  | "head" => some head
  | "tail" => some tail
  | "wc" => some count
  | "sort" => some sort
  | "uniq" => some unique
  | "cut" => some cut
  | "tr" => some exchange
  | "seq" => some sequence
  | "expr" => some expression
  | "grep" => some search
  | "egrep" => some fun call => search { call with arguments := ['-', 'E'] :: call.arguments }
  | "fgrep" => some fun call => search { call with arguments := ['-', 'F'] :: call.arguments }
  | "sed" => some edit
  | "rm" => some remove
  | "rmdir" => some removeDirectory
  | "mkdir" => some makeDirectoryTool
  | "touch" => some touch
  | "chmod" => some changeMode
  | "mv" => some move
  | "cp" => some copy
  | "ln" => some link
  | "ls" => some list
  | "basename" => some baseName
  | "dirname" => some folderName
  | "pwd" => some printDirectory
  | "readlink" => some linkTarget
  | "realpath" =>
    some fun call => linkTarget { call with arguments := ['-', 'f'] :: call.arguments }
  | "sleep" => some sleep
  | "printenv" => some printEnvironment
  | "uname" => some (telling "Linux")
  | "whoami" => some (telling "root")
  | "id" => some identity
  | name =>
    (strangers.lookup name).map fun status => withOptions "" "" status fun _ => (·.ending 0)

def shellTool? (dialect : Dialect) : String → Option Tool
  | "true" | ":" => some (·.ending 0)
  | "false" => some (·.ending 1)
  | "echo" => some (if dialect = .bash then systemEcho else shellEcho)
  | "printf" => some shellPrintf
  | "test" => some shellTest
  | "[" => some shellBracket
  | "pwd" => some printDirectory
  | _ => none

end DetectionMerge.Shell
