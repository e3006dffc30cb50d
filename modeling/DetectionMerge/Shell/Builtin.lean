import DetectionMerge.Shell.Lookup
import DetectionMerge.Shell.Session

/-! The commands that the shell has itself and that run no other commands. Most
of them work on the session. A special one ends the script when it fails. -/

namespace DetectionMerge.Shell

/-! ### Names -/

/-- The names of the shell's own commands that end a script when they fail. -/
def specials : List String :=
  ["break", ":", "continue", ".", "eval", "exec", "exit", "export", "local", "readonly", "return",
    "set", "shift", "times", "trap", "unset"]

def ownNames : List String :=
  specials ++ ["alias", "bg", "cd", "command", "echo", "false", "fg", "getopts", "hash", "jobs",
    "kill", "printf", "pwd", "read", "test", "[", "true", "type", "ulimit", "umask", "unalias",
    "wait"]

namespace Session

/-! ### Complaints -/

/-- Complains about a command of the shell, which is named, and fails. A special
one ends the script. -/
def refuse (s : Session) (command : String) (text : Octets) : Session :=
  let t := { s with context := ofString command }
  { if specials.contains command then t.abandon text else t.fail 2 text with context := s.context }

/-- The switches in front of the other arguments of a command, each with the
value that some of them take. -/
def switchesOf (plain valued : String) :
    List Octets → Except OptionFault (List (Char × Octets) × List Octets)
  | ['-', '-'] :: rest => .ok ([], rest)
  | ['-'] :: rest => .ok ([], ['-'] :: rest)
  | ('-' :: cs) :: rest =>
    match letters plain valued cs, rest with
    | .error fault, _ => .error fault
    | .ok (switches, none), rest =>
      (switchesOf plain valued rest).map fun (more, rest) => (switches ++ more, rest)
    | .ok (switches, some c), value :: rest =>
      (switchesOf plain valued rest).map fun (more, rest) => (switches ++ (c, value) :: more, rest)
    | .ok (_, some c), [] => .error (.valueMissing c)
  | rest => .ok ([], rest)

/-- Does something with the switches and the other arguments of a command. -/
def withSwitches (s : Session) (command plain valued : String) (arguments : List Octets)
    (f : List (Char × Octets) → List Octets → Session) : Session :=
  match switchesOf plain valued arguments with
  | .ok (switches, rest) => f switches rest
  | .error (.valueMissing c) =>
    s.refuse command (ofString "No arg for -" ++ c :: ofString " option")
  | .error (.unknown c) => s.refuse command (ofString "Illegal option -" ++ [c])
  | .error (.unknownLong _) => s.refuse command (ofString "Illegal option --")

/-- Gives a name a value for a command, unless the name cannot have one. -/
def assign (s : Session) (command : String) (name value : Octets) : Session :=
  if !isName name then s.refuse command (name ++ ofString ": bad variable name")
  else if s.isFixed name then s.refuse command (name ++ ofString ": is read only")
  else s.bind name value

/-! ### Switches and arguments -/

def switchNames : List (String × Char) :=
  [("errexit", 'e'), ("noglob", 'f'), ("ignoreeof", 'I'), ("interactive", 'i'), ("monitor", 'm'),
    ("noexec", 'n'), ("stdin", 's'), ("xtrace", 'x'), ("verbose", 'v'), ("vi", 'V'), ("emacs", 'E'),
    ("noclobber", 'C'), ("allexport", 'a'), ("notify", 'b'), ("nounset", 'u')]

def turn (s : Session) (on : Bool) (letters : Octets) : Session :=
  let others := s.switches.filter fun c => !letters.contains c
  { s with switches := if on then letters.reverse ++ others else others }

def set (s : Session) : List Octets → Session
  | [] => s
  | ['-', '-'] :: rest => { s with arguments := rest }
  | ['-', 'o'] :: name :: rest =>
    match switchNames.lookup (toText name) with
    | some c => Session.set (s.turn true [c]) rest
    | none => s.refuse "set" (ofString "Illegal option -o " ++ name)
  | ['+', 'o'] :: name :: rest =>
    match switchNames.lookup (toText name) with
    | some c => Session.set (s.turn false [c]) rest
    | none => s.refuse "set" (ofString "Illegal option +o " ++ name)
  | (sign :: c :: cs) :: rest =>
    if sign = '-' ∨ sign = '+' then
      let (cs, named) := if c :: cs = (c :: cs).filter (· ≠ 'o') then (c :: cs, false)
        else ((c :: cs).filter (· ≠ 'o'), true)
      match cs.find? fun c => !switchNames.any (·.2 = c) with
      | some c => s.refuse "set" (ofString "Illegal option " ++ [sign, c])
      | none =>
        let s := s.turn (sign = '-') cs
        match named, rest with
        | true, name :: rest =>
          match switchNames.lookup (toText name) with
          | some c => Session.set (s.turn (sign = '-') [c]) rest
          | none => s.refuse "set" (ofString "Illegal option " ++ sign :: 'o' :: ' ' :: name)
        | _, rest => Session.set s rest
    else { s with arguments := (sign :: c :: cs) :: rest }
  | rest => { s with arguments := rest }

def shift (s : Session) (arguments : List Octets) : Session :=
  match amount? arguments with
  | some n =>
    if n ≤ s.arguments.length then { s with status := 0, arguments := s.arguments.drop n }
    else s.refuse "shift" (ofString "can't shift that many")
  | none => s.refuse "shift" (ofString "Illegal number: " ++ arguments.headD [])

/-- The letter that is next among options, or why there is none, with how many
arguments are used up then, where the present one goes on, and the letter's
value. -/
def nextOption (letters : Octets) (arguments : List Octets) (used : Nat) (inside : Octets) :
    Option (Char × Nat × Octets × Except Char Octets) × Nat :=
  let start : Except Nat (Nat × Octets) :=
    if inside ≠ [] then .ok (used, inside)
    else
      match arguments[used]? with
      | some ['-', '-'] => .error (used + 1)
      | some ('-' :: c :: cs) => .ok (used + 1, c :: cs)
      | _ => .error used
  match start with
  | .error used => (none, used)
  | .ok (used, []) => (none, used)
  | .ok (used, c :: cs) =>
    let rest := (letters.drop (if letters.head? = some ':' then 1 else 0)).dropWhile (· ≠ c)
    match rest, cs, arguments[used]? with
    | [], _, _ => (some (c, used, cs, .error '?'), used)
    | _ :: ':' :: _, [], none => (some (c, used, [], .error ':'), used)
    | _ :: ':' :: _, [], some value => (some (c, used + 1, [], .ok value), used)
    | _ :: ':' :: _, cs, _ => (some (c, used, [], .ok cs), used)
    | _, cs, _ => (some (c, used, cs, .ok []), used)

/-- `getopts`. -/
def options (s : Session) (arguments : List Octets) : Session :=
  let value := ofString "OPTARG"
  let place := ofString "OPTIND"
  match arguments with
  | letters :: name :: rest =>
    let texts := if rest = [] then s.arguments else rest
    let used := ((s.look place).bind Text.natural?).getD 1 - 1
    let quiet := letters.head? = some ':'
    let number (n : Nat) : Octets := (toString (n + 1)).toList
    match nextOption letters texts used s.optionRest with
    | (none, used) =>
      { (((s.bind place (number used)).assign "getopts" name ['?']).setStatus 1) with
        optionRest := [] }
    | (some (c, used, inside, .ok text), _) =>
      let s := ((s.bind value text).bind place (number used)).setStatus 0
      { s.assign "getopts" name [c] with optionRest := inside }
    | (some (c, used, inside, .error mark), _) =>
      let words := if mark = '?' then ofString "Illegal option -" ++ [c, '\n']
        else ofString "No arg for -" ++ c :: ofString " option\n"
      let s := if quiet then s.bind value [c] else (s.write 2 words).unbind value
      let s := (s.bind place (number used)).setStatus 0
      { s.assign "getopts" name [if quiet then mark else '?'] with optionRest := inside }
  | _ => s.refuse "getopts" (ofString "Usage: getopts optstring var [arg...]")

/-! ### Values of names -/

/-- Assignments among the arguments of a command, and names alone. -/
def named (argument : Octets) : Octets × Option Octets :=
  let name := argument.takeWhile (· ≠ '=')
  match argument.drop name.length with
  | _ :: value => (name, some value)
  | [] => (name, none)

/-- `export` and `readonly`. -/
def declare (s : Session) (command : String) (arguments : List Octets) : Session :=
  s.withSwitches command "p" "" arguments fun _ names =>
    names.foldl (fun s argument =>
      let (name, value?) := named argument
      if !s.goesOn then s
      else
        let s := match value? with
          | some value => s.assign command name value
          | none =>
            if isName name then s else s.refuse command (name ++ ofString ": bad variable name")
        if command = "export" then s.share name else s.fix name) (s.setStatus 0)

/-- `local`. -/
def hide (s : Session) (arguments : List Octets) : Session :=
  match s.hidden with
  | [] => s.refuse "local" (ofString "not in a function")
  | _ =>
    arguments.foldl (fun s argument =>
      let (name, value?) := named argument
      let old := s.bindings.find? (·.name = name)
      let s := match s.hidden with
        | scope :: scopes => { s with hidden := ((name, old) :: scope) :: scopes }
        | [] => s
      match value? with
      | some value => s.assign "local" name value
      | none => s) (s.setStatus 0)

/-- Gives the names of a function's own their old values back. -/
def unhide (s : Session) : Session :=
  match s.hidden with
  | [] => s
  | scope :: scopes =>
    scope.foldl (fun s (name, old) =>
      { s with bindings := old.toList ++ s.bindings.filter (·.name ≠ name) }) { s with hidden := scopes }

/-- `unset`. -/
def forget (s : Session) (arguments : List Octets) : Session :=
  s.withSwitches "unset" "vf" "" arguments fun switches names =>
    if switches.getLast?.any (·.1 = 'f') then
      { s with status := 0, functions := s.functions.filter fun (name, _) => !names.contains name }
    else
      names.foldl (fun s name =>
        if !s.goesOn then s
        else if !isName name then s.refuse "unset" (name ++ ofString ": bad variable name")
        else if s.isFixed name then s.refuse "unset" (name ++ ofString ": is read only")
        else s.unbind name) (s.setStatus 0)

/-- A line that is read, with the characters that a backslash protects, and
whether it had an end. Backslashes before a line feed go with it. -/
def readLineOf (raw : Bool) : Octets → List Marked × Bool × Octets
  | [] => ([], false, [])
  | '\n' :: rest => ([], true, rest)
  | '\\' :: '\n' :: rest =>
    if raw then ([('\\', false)], true, rest) else readLineOf raw rest
  | '\\' :: c :: rest =>
    let (line, ended, left) := readLineOf raw rest
    if raw then (('\\', false) :: (c, false) :: line, ended, left)
    else ((c, true) :: line, ended, left)
  | c :: rest =>
    let (line, ended, left) := readLineOf raw rest
    ((c, false) :: line, ended, left)

def read (s : Session) (arguments : List Octets) : Session :=
  s.withSwitches "read" "r" "p" arguments fun switches names =>
    if names = [] then s.refuse "read" (ofString "arg count")
    else
      let (line, ended, rest) := readLineOf (switches.any (·.1 = 'r')) (s.readable 0)
      let values := splitLine s.separators names.length line
      let s := (s.leave 0 rest).setStatus (if ended then 0 else 1)
      (names.zip values).foldl (fun (s : Session) (name, value) =>
        if s.status = 2 then s else s.assign "read" name value) s

/-! ### Places -/

/-- `cd`. -/
def goTo (s : Session) (arguments : List Octets) : Session :=
  s.withSwitches "cd" "LP" "" arguments fun _ operands =>
    let home := ofString "HOME"
    let previous := ofString "OLDPWD"
    let target := match operands with
      | [] => (s.look home).getD []
      | ['-'] :: _ => (s.look previous).getD []
      | a :: _ => a
    if target = [] then s.setStatus 0
    else
      let failed := s.refuse "cd" (if s.dialect = .bash then
        target ++ ofString ": No such file or directory" else ofString "can't cd to " ++ target)
      match s.disk.locate true (Call.path target) with
      | .ok (.existing place) =>
        if s.disk.node? place = some .directory then
          let old := workingDirectory s.disk
          let s := { s with disk := { s.disk with current := place } }
          let new := workingDirectory s.disk
          let s := ((s.bind previous old).bind (ofString "PWD") new).setStatus 0
          if operands.head? = some ['-'] then s.write 1 (new ++ ['\n']) else s
        else failed
      | _ => failed

/-! ### The end -/

def signals : List String :=
  ["EXIT", "HUP", "INT", "QUIT", "ILL", "TRAP", "ABRT", "BUS", "FPE", "KILL", "USR1", "SEGV", "USR2",
    "PIPE", "ALRM", "TERM", "STKFLT", "CHLD", "CONT", "STOP", "TSTP", "TTIN", "TTOU", "URG", "XCPU",
    "XFSZ", "VTALRM", "PROF", "WINCH", "IO", "PWR", "SYS"]

/-- The number of a signal, which zero is for the end of the script. -/
def signal? (text : Octets) : Option Nat :=
  match Text.natural? text with
  | some n => if n < 65 then some n else none
  | none => signals.findIdx? (· = toText (text.map Char.toUpper))

/-- A text in quotation marks that the shell reads back. -/
def requoted (text : Octets) : Octets :=
  let inside := text.flatMap fun c => if c = '\'' then ['\'', '"', '\'', '"', '\''] else [c]
  '\'' :: inside ++ ['\'']

/-- `trap`. Only the end of the script counts, as no signals come. -/
def trap (s : Session) (arguments : List Octets) : Session :=
  match arguments.dropWhile (· = ['-', '-']) with
  | [] =>
    let lines := match s.farewell with
      | some action => ofString "trap -- " ++ requoted action ++ ofString " EXIT\n"
      | none => []
    (s.write 1 lines).setStatus 0
  | action :: conditions =>
    let removes := conditions = [] ∨ (Text.natural? action).isSome ∨ action = ['-']
    let conditions :=
      if conditions = [] ∨ (Text.natural? action).isSome then action :: conditions else conditions
    match conditions.find? fun c => (signal? c).isNone with
    | some wrong => (s.write 2 (ofString "trap: " ++ wrong ++ ofString ": bad trap\n")).setStatus 1
    | none =>
      if conditions.any fun c => signal? c = some 0 then
        { s with status := 0, farewell := if removes then none else some action }
      else s.setStatus 0

/-- `exit` and `return`. -/
def finish (s : Session) (command : String) (flow : Flow) (arguments : List Octets) : Session :=
  match arguments with
  | [] => { s with flow := flow }
  | text :: _ =>
    match Text.natural? text with
    | some n => { s with status := if flow = .leaving then n % 256 else n, flow := flow }
    | none => s.refuse command (ofString "Illegal number: " ++ text)

/-- `break` and `continue`. -/
def leaveLoops (s : Session) (command : String) (flow : Nat → Flow) (arguments : List Octets) :
    Session :=
  match amount? arguments with
  | some (n + 1) =>
    if s.loops = 0 then s.setStatus 0
    else { s with status := 0, flow := flow (min (n + 1) s.loops) }
  | _ => s.refuse command (ofString "Illegal number: " ++ arguments.headD [])

/-! ### Descriptions -/

/-- What `command -v` says of a name. -/
def whereIs (s : Session) (name : Octets) : Option Octets :=
  let text := toText name
  if keywords.contains text ∨ s.functions.any (·.1 = name) ∨ ownNames.contains text then some name
  else
    match (Program.find s.disk name).fault? s.disk with
    | some _ => none
    | none => some (if name.contains '/' then name else ofString "/usr/bin/" ++ name)

/-- What `type` says of a name, and whether it is that of a command. -/
def describe (s : Session) (name : Octets) : Octets × Bool :=
  let text := toText name
  let is (words : String) : Octets × Bool := (name ++ ofString s!" is {words}\n", true)
  if keywords.contains text then is "a shell keyword"
  else if s.functions.any (·.1 = name) then is "a shell function"
  else if specials.contains text then is "a special shell builtin"
  else if ownNames.contains text then is "a shell builtin"
  else
    match s.whereIs name with
    | some path => (name ++ ofString " is " ++ path ++ ['\n'], true)
    | none => (name ++ ofString ": not found\n", false)

def type (s : Session) (arguments : List Octets) : Session :=
  let answers := arguments.map s.describe
  (s.write 1 (answers.flatMap (·.1))).setStatus (if answers.all (·.2) then 0 else 127)

/-! ### All of them -/

/-- A command of the shell that needs no other commands, by its name. -/
def own? (s : Session) (name : String) (arguments : List Octets) : Option Session :=
  match name with
  | "exit" => some (s.finish name .leaving arguments)
  | "return" => some (s.finish name .returning arguments)
  | "break" => some (s.leaveLoops name .breaking arguments)
  | "continue" => some (s.leaveLoops name .continuing arguments)
  | "shift" => some (s.shift arguments)
  | "set" => some (Session.set (s.setStatus 0) arguments)
  | "unset" => some (s.forget arguments)
  | "export" | "readonly" => some (s.declare name arguments)
  | "local" => some (s.hide arguments)
  | "read" => some (s.read arguments)
  | "getopts" => some (s.options arguments)
  | "cd" => some (s.goTo arguments)
  | "trap" => some (s.trap arguments)
  | "type" => some (s.type arguments)
  | "umask" =>
    some ((s.write 1 (if arguments = [] then ofString "0022\n" else [])).setStatus 0)
  | "wait" | "ulimit" | "times" | "hash" | "alias" | "unalias" | "jobs" | "kill" =>
    some (s.setStatus 0)
  | "fg" | "bg" => some (s.refuse name (ofString "No current job"))
  | _ => none

end Session

end DetectionMerge.Shell
