import DetectionMerge.Shell.Builtin
import DetectionMerge.Shell.Value

/-! Running the commands of shell scripts. Loops need not end by themselves, so
running has a bound on its depth; a script that reaches it ends. -/

namespace DetectionMerge.Shell

abbrev Work := StateM Session

/-! ### Shells within shells -/

/-- The session before, with what remains of work in a shell of its own. -/
def Session.afterSubshell (before after : Session) : Session :=
  { before with
    disk := { after.disk with current := before.disk.current }
    sources := after.sources
    sinks := after.sinks
    positions := after.positions
    status := after.status }

def Session.withStreamsOf (s before : Session) : Session := { s with streams := before.streams }

/-! ### Tools -/

def Session.runTool (s : Session) (tool : Tool) (name : Octets) (arguments : List Octets)
    (environment : List (Octets × Octets)) : Session :=
  let effect := tool {
    name := name, arguments := arguments, input := s.readable 0, disk := s.disk
    environment := environment }
  let s := { s with disk := effect.disk }.leave 0 effect.input
  ((s.write 1 effect.output).write 2 effect.errors).setStatus effect.status

/-! ### Running -/

/-- The switches in front of a shell's other arguments, and whether these begin
with a text to run. -/
def shellSwitches : List Octets → Except Octets (Octets × Bool × List Octets)
  | ['-', '-'] :: rest => .ok ([], false, rest)
  | ['-'] :: rest => .ok ([], false, rest)
  | ['-', 'o'] :: name :: rest =>
    match Session.switchNames.lookup (toText name) with
    | some c => (shellSwitches rest).map fun (cs, text, rest) => (c :: cs, text, rest)
    | none => .error (ofString "Illegal option -o " ++ name)
  | ('-' :: cs) :: rest =>
    match cs.find? fun c => c ≠ 'c' ∧ !Session.switchNames.any (·.2 = c) with
    | some c => .error (ofString "Illegal option -" ++ [c])
    | none =>
      (shellSwitches rest).map fun (more, text, rest) =>
        (cs.filter (· ≠ 'c') ++ more, text || cs.contains 'c', rest)
  | rest => .ok ([], false, rest)

def Octets.replacing (mark new text : Octets) : Octets :=
  if mark = [] then text else go (text.length + 1) text
where
  /-- The same in so many steps. -/
  go : Nat → Octets → Octets
    | 0, cs => cs
    | fuel + 1, cs =>
      match cs with
      | [] => []
      | c :: rest =>
        if mark.isPrefixOf cs then new ++ go fuel (cs.drop mark.length) else c :: go fuel rest

/-- The items of a list, so many together, in so many steps. -/
def chunksOf {α : Type} (size : Nat) : Nat → List α → List (List α)
  | 0, _ | _, [] => []
  | fuel + 1, items => items.take size :: chunksOf size fuel (items.drop size)

/-- The arguments that a text spells, between blanks or between separators that
are no line feeds. -/
def wordsOf (separator : Char) (text : Octets) : List Octets :=
  if separator = '\n' then wordsIn text
  else
    let pieces := Text.splitAt separator text
    if pieces.getLast? = some [] then pieces.dropLast else pieces

def leadingAssignments : List Octets → List (Octets × Octets) × List Octets
  | argument :: rest =>
    match Session.named argument with
    | (name, some value) =>
      let (assignments, rest) := leadingAssignments rest
      ((name, value) :: assignments, rest)
    | (_, none) => ([], argument :: rest)
  | [] => ([], [])

/-- What a program that runs another one makes of its arguments. -/
structure Errand where
  /-- Whether nothing is left of the environment. -/
  bare : Bool := false
  assignments : List (Octets × Octets) := []
  words : List Octets
  deriving DecidableEq, Repr

/-- The errand for a program that runs another one, or a complaint. -/
def errand (name : String) (arguments : List Octets) : Except Octets Errand :=
  let complain (text : Octets) : Octets := ofString s!"{name}: " ++ text ++ ['\n']
  let help := ofString s!"Try '{name} --help' for more information.\n"
  let (plain, valued) : String × String := match name with
    | "env" => ("i0v", "uCS")
    | "nice" => ("", "n")
    | "timeout" => ("fpv", "ks")
    | _ => ("", "")
  let bareDash := name = "env" ∧ arguments.head? = some ['-']
  match Session.switchesOf plain valued (if bareDash then arguments.drop 1 else arguments) with
  | .error fault => .error (complain fault.message ++ help)
  | .ok (switches, rest) =>
    match name, rest with
    | "env", rest =>
      let split := ((switches.find? (·.1 = 'S')).map fun (_, text) => wordsIn text).getD []
      let (assignments, words) := leadingAssignments (split ++ rest)
      .ok { bare := bareDash || switches.any (·.1 = 'i'), assignments, words }
    | "timeout", _ :: word :: words => .ok { words := word :: words }
    | "timeout", _ => .error help
    | "nice", [] => .ok { words := [] }
    | _, [] => .error (complain (ofString "missing operand") ++ help)
    | _, words => .ok { words := words }

/-- What a program says of another one that it cannot run. -/
def errandFault (name : String) (program : Octets) (fault : Fault) : Octets :=
  let words := if name = "timeout" ∨ name = "nohup" then ofString "failed to run command " else []
  ofString s!"{name}: " ++ words ++ inQuotes program ++ [':', ' '] ++ faultWords fault ++ ['\n']

/-- The values that names have in every script. -/
def standardBindings : List Binding :=
  [("IFS", " \t\n"), ("OPTIND", "1"), ("PS1", "# "), ("PS2", "> "), ("PS4", "+ ")].map
    fun (name, value) => { name := ofString name, value := ofString value }

/-- The path by which a script finds the program that has started the first one. -/
def callerPath : Octets := ofString "/proc/1/exe"

def Session.program (s : Session) (name : Octets) : Program :=
  match if name = callerPath then s.caller else none with
  | some caller => .tool caller
  | none => Program.find s.disk name

/-- A session for a script of its own, on the streams of another. -/
def Session.fresh (s : Session) (name : Octets) (arguments : List Octets) : Session :=
  { s with
    name := name
    arguments := arguments
    parent := ['2']
    bindings := { name := ofString "PPID", value := s.parent } :: standardBindings ++
      (s.bindings.filter (·.exported)).map fun b => { b with fixed := false }
    functions := []
    switches := []
    farewell := none
    flow := .on
    line := 1
    context := []
    loops := 0
    hidden := []
    optionRest := [] }

/-- Gives a name a value, which ends the script if the name's value is fixed. -/
def Session.settle (s : Session) (name value : Octets) : Session :=
  if s.isFixed name then s.abandon (name ++ ofString ": is read only") else s.bind name value

/-- Shows a command before it runs, if this is asked for. It is shown where
errors went before the command's own redirections. -/
def Session.trace (s before : Session) (values : List (Octets × Octets)) (names : List Octets) :
    Session :=
  if s.switches.contains 'x' then
    let words := values.map (fun (name, value) => name ++ '=' :: value) ++ names
    let mark := (s.look (ofString "PS4")).getD []
    ((s.withStreamsOf before).write 2 (mark ++ joined ' ' words ++ ['\n'])).withStreamsOf s
  else s

/-- Runs something for a command that is named in complaints. -/
def inContext (context : Octets) (work : Work Unit) : Work Unit := do
  let before := (← get).context
  modify ({ · with context := context })
  work
  modify ({ · with context := before })

/-- Ends a round of a loop, and tells whether the loop goes on. -/
def endsRound : Work Bool := do
  let s ← get
  match s.flow with
  | .on => return true
  | .breaking (n + 2) =>
    set { s with flow := .breaking (n + 1) }
    return false
  | .breaking _ =>
    set { s with flow := .on }
    return false
  | .continuing (n + 2) =>
    set { s with flow := .continuing (n + 1) }
    return false
  | .continuing _ =>
    set { s with flow := .on }
    return true
  | _ => return false

mutual

def marksOf : Nat → Word → Work (List Mark)
  | 0, _ => pure []
  | fuel + 1, w =>
    w.foldlM (fun marks piece => do
      if (← get).goesOn then return marks ++ (← marksOfPiece fuel piece) else return marks) []
termination_by structural fuel => fuel

def marksOfPiece : Nat → Piece → Work (List Mark)
  | 0, _ => pure []
  | fuel + 1, piece => do
    match piece with
    | .char c quoted => return [.char c quoted]
    | .quotes => return [.present]
    | .meaningless =>
      modify (·.abandon (ofString "Bad substitution"))
      return []
    | .output c quoted => return Mark.ofText quoted (← capture fuel c)
    | .value expression quoted =>
      let text ← textOf fuel expression
      let s ← get
      match (Expression.ofText text).bind fun e => e.eval s.look [] with
      | .error fault =>
        modify (·.abandon (fault.message text))
        return []
      | .ok (n, changed) =>
        modify fun s => changed.reverse.foldl (fun s (name, value) => s.settle name value) s
        return Mark.ofText quoted (toString n.toInt).toList
    | .parameter p use operand quoted => do
      let s ← get
      let values := s.values? p
      let isEmpty (values : List Octets) : Bool := values.all (· = [])
      let shown (values : List Octets) : List Mark :=
        if p = .arguments true ∧ quoted then
          let separator := (s.separators.head?.map ([·])).getD []
          Mark.ofText true ((values.intersperse separator).flatten)
        else Mark.ofTexts quoted values
      let name : Octets := match p with
        | .named name => name
        | .argument n => (toString n).toList
        | _ => ['@']
      let instead : Work (List Mark) := do
        let marks ← marksOf fuel operand
        return if quoted then .present :: marks else marks.map Mark.loosen
      match use, values with
      | .value, some values => return shown values
      | .value, none =>
        let always : Bool := match p with
          | .arguments _ => true
          | _ => false
        if s.switches.contains 'u' ∧ !always then
          modify (·.abandon (name ++ ofString ": parameter not set"))
        return (if quoted ∧ p ≠ .arguments false then [.present] else [])
      | .length, values =>
        let n := match p with
          | .arguments _ => s.arguments.length
          | _ => ((values.getD []).flatten).length
        return Mark.ofText quoted (toString n).toList
      | .orElse emptyToo, values =>
        match values with
        | some values => if emptyToo ∧ isEmpty values then instead else return shown values
        | none => instead
      | .assign emptyToo, values =>
        match values.filter fun values => !(emptyToo && isEmpty values) with
        | some values => return shown values
        | none =>
          let text ← textOf fuel operand
          modify (·.settle name text)
          return Mark.ofText quoted text
      | .demand emptyToo, values =>
        match values.filter fun values => !(emptyToo && isEmpty values) with
        | some values => return shown values
        | none =>
          let text ← textOf fuel operand
          let words := if text ≠ [] then text
            else ofString (if emptyToo then "parameter not set or null" else "parameter not set")
          modify (·.abandon (name ++ [':', ' '] ++ words))
          return []
      | .ifThere emptyToo, values =>
        match values with
        | some values => if emptyToo ∧ isEmpty values then return shown [[]] else instead
        | none => return (if quoted then [.present] else [])
      | .withoutStart longest, values =>
        let pattern := globOf (Mark.marked (← marksOf fuel operand))
        return shown ((values.getD [[]]).map (withoutStart pattern longest))
      | .withoutEnd longest, values =>
        let pattern := globOf (Mark.marked (← marksOf fuel operand))
        return shown ((values.getD [[]]).map (withoutEnd pattern longest))
termination_by structural fuel => fuel

def textOf : Nat → Word → Work Octets
  | 0, _ => pure []
  | fuel + 1, w => return (Mark.marked (← marksOf fuel w)).map (·.1)
termination_by structural fuel => fuel

/-- The fields of words, with the names of files in place of patterns. -/
def fieldsOf : Nat → List Word → Work (List Octets)
  | 0, _ => pure []
  | fuel + 1, words => do
    words.foldlM (fun all w => do
      let marks ← marksOf fuel w
      let s ← get
      let found := fields s.separators false none marks
      return all ++ found.flatMap fun field =>
        if s.switches.contains 'f' then [field.map (·.1)] else filesLike s.disk field) []
termination_by structural fuel => fuel

/-- What a command writes, without line feeds at its end. -/
def capture : Nat → Command → Work Octets
  | 0, _ => pure []
  | fuel + 1, c => do
    let before ← get
    let (i, s) := before.newSink
    set (s.connect 1 (some (.sink i)))
    runApart fuel false c
    modify fun after =>
      { before.afterSubshell after with
          expansionStatus := some after.status, status := before.status }
    let s ← get
    return (((s.sinks[i]?).getD []).reverse.dropWhile (· = '\n')).reverse
termination_by structural fuel => fuel

/-- Runs a command in a shell of its own, whose end is not the script's. -/
def runApart : Nat → Bool → Command → Work Unit
  | 0, _, _ => pure ()
  | fuel + 1, tested, c => do
    modify ({ · with farewell := none })
    run fuel tested c
    sayFarewell fuel
termination_by structural fuel => fuel

/-- Runs what is to be run at the end. -/
def sayFarewell : Nat → Work Unit
  | 0 => pure ()
  | fuel + 1 => do
    match (← get).farewell with
    | none => pure ()
    | some action =>
      let status := (← get).status
      modify ({ · with farewell := none, flow := .on })
      inContext [] (runText fuel false (lineFeeds action) action)
      modify fun s => if s.flow = .leaving then s else s.setStatus status
termination_by structural fuel => fuel

/-- Redirects streams, one after the other, and tells whether this was possible. -/
def redirectAll : Nat → List Redirection → Work Bool
  | 0, _ => pure false
  | fuel + 1, redirections =>
    redirections.foldlM (fun good r => do
      if !good then return false
      else
        match r with
        | .mk stream direction target =>
          let text ← textOf fuel target
          let s ← get
          match s.redirect stream direction text with
          | .ok s =>
            set s
            return s.goesOn
          | .error (text, fatal) =>
            set (if fatal then { s with line := s.line + 1 }.abandon text
              else s.fail (if s.dialect = .bash then 1 else 2) text)
            return false) true
termination_by structural fuel => fuel

/-- Runs a command. Where its end is tested, a failure does not end the script. -/
def run : Nat → Bool → Command → Work Unit
  | 0, _, _ => modify fun s => { s.setStatus 2 with flow := .leaving }
  | fuel + 1, tested, c => do
    if !(← get).goesOn ∨ (← get).switches.contains 'n' then return ()
    match c with
    | .nothing => pure ()
    | .simple line assignments words redirections => do
      runSimple fuel tested line assignments words redirections
      modify (·.insist tested)
    | .sequence first second => do
      run fuel tested first
      run fuel tested second
    | .both first second => do
      run fuel true first
      if (← get).succeeded then run fuel tested second
    | .either first second => do
      run fuel true first
      if !(← get).succeeded then run fuel tested second
    | .negation c => do
      run fuel true c
      modify fun s => if s.goesOn then s.setStatus (if s.succeeded then 1 else 0) else s
    | .pipe first second => do
      let before ← get
      let (i, s) := before.newSink
      set (s.connect 1 (some (.sink i)))
      runApart fuel tested first
      modify fun after => (before.afterSubshell after).setStatus before.status
      let between ← get
      let (channel, s) := between.newSource ((between.sinks[i]?).getD [])
      set (s.connect 0 (some channel))
      runApart fuel tested second
      modify between.afterSubshell
      modify (·.insist tested)
    | .background c => do
      let before ← get
      let (channel, s) := before.newSource []
      set (s.connect 0 (some channel))
      runApart fuel false c
      modify fun after => (before.afterSubshell after).setStatus 0
    | .conditional condition consequence alternative => do
      run fuel true condition
      if (← get).goesOn then
        if (← get).succeeded then run fuel tested consequence
        else
          modify (·.setStatus 0)
          run fuel tested alternative
    | .loop onSuccess condition body => do
      modify fun s => { s with loops := s.loops + 1 }
      runLoop fuel tested onSuccess condition body 0
      modify fun s => { s with loops := s.loops - 1 }
    | .each name words body => do
      let values ← match words with
        | some words => fieldsOf fuel words
        | none => pure (← get).arguments
      if !(← get).goesOn then return ()
      modify fun s => { s with loops := s.loops + 1, status := 0 }
      runEach fuel tested name body values
      modify fun s => { s with loops := s.loops - 1 }
    | .choice w branches => do
      let text ← textOf fuel w
      if !(← get).goesOn then return ()
      modify (·.setStatus 0)
      runChoice fuel tested text branches
    | .subshell c => do
      let before ← get
      runApart fuel tested c
      modify before.afterSubshell
      modify (·.insist tested)
    | .redirected line (.subshell c) redirections => do
      modify ({ · with line := line })
      let before ← get
      runApart fuel tested (.redirected line c redirections)
      modify before.afterSubshell
      modify (·.insist tested)
    | .redirected line c redirections => do
      modify ({ · with line := line })
      let before ← get
      if ← redirectAll fuel redirections then run fuel tested c else modify (·.insist tested)
      modify (·.withStreamsOf before)
    | .function name body =>
      modify fun s =>
        { s with status := 0, functions := (name, body) :: s.functions.filter (·.1 ≠ name) }
termination_by structural fuel => fuel

/-- Runs a loop, after its body has ended in some way. -/
def runLoop : Nat → Bool → Bool → Command → Command → Nat → Work Unit
  | 0, _, _, _, _, _ => modify fun s => { s.setStatus 2 with flow := .leaving }
  | fuel + 1, tested, onSuccess, condition, body, status => do
    run fuel true condition
    let s ← get
    match s.flow with
    | .on =>
      if s.succeeded = onSuccess then
        run fuel tested body
        if ← endsRound then runLoop fuel tested onSuccess condition body (← get).status
      else set (s.setStatus status)
    | _ =>
      if ← endsRound then runLoop fuel tested onSuccess condition body (← get).status
termination_by structural fuel => fuel

def runEach : Nat → Bool → Octets → Command → List Octets → Work Unit
  | 0, _, _, _, _ => modify fun s => { s.setStatus 2 with flow := .leaving }
  | _ + 1, _, _, _, [] => pure ()
  | fuel + 1, tested, name, body, value :: values => do
    if !(← get).goesOn then return ()
    modify (·.settle name value)
    run fuel tested body
    if ← endsRound then runEach fuel tested name body values
termination_by structural fuel => fuel

/-- Runs the first branch with a pattern for a text. -/
def runChoice : Nat → Bool → Octets → List (List Word × Command) → Work Unit
  | 0, _, _, _ => pure ()
  | _ + 1, _, _, [] => pure ()
  | fuel + 1, tested, text, (patterns, c) :: branches => do
    let hit ← patterns.anyM fun w => do
      return describes (globOf (Mark.marked (← marksOf fuel w))) text
    if hit then run fuel tested c else runChoice fuel tested text branches
termination_by structural fuel => fuel

def runSimple : Nat → Bool → Nat → List (Octets × Word) → List Word → List Redirection →
    Work Unit
  | 0, _, _, _, _, _ => modify fun s => { s.setStatus 2 with flow := .leaving }
  | fuel + 1, tested, line, assignments, words, redirections => do
    modify ({ · with line := line, expansionStatus := none })
    let names ← fieldsOf fuel words
    if !(← get).goesOn then return ()
    let before ← get
    match names with
    | [] => do
      if ← redirectAll fuel redirections then
        let values ← assignments.mapM fun (name, w) => do
          let value ← textOf fuel w
          modify fun s => if s.goesOn then s.settle name value else s
          return (name, value)
        modify fun s =>
          if s.goesOn then (s.trace before values []).setStatus (s.expansionStatus.getD 0) else s
      modify (·.withStreamsOf before)
    | name :: arguments => do
      let isSpecial := specials.contains (toText name)
      if ← redirectAll fuel redirections then
        let bound := (← get).bindings
        let values ← assignments.mapM fun (name, w) => do
          let value ← textOf fuel w
          modify fun s => if s.goesOn then (s.settle name value).share name else s
          return (name, value)
        if (← get).goesOn then
          modify (·.trace before values names)
          runNamed fuel tested true name arguments
        let keepsStreams := toText name = "exec" ∧ arguments.isEmpty
        modify fun s => if keepsStreams then s else s.withStreamsOf before
        modify fun s =>
          if values.isEmpty ∨ isSpecial then s
          else
            let mine (b : Binding) : Bool := values.any (·.1 = b.name)
            { s with bindings := bound.filter mine ++ s.bindings.filter (!mine ·) }
      else
        modify (·.withStreamsOf before)
        if isSpecial then modify ({ · with flow := .leaving })
termination_by structural fuel => fuel

def runNamed : Nat → Bool → Bool → Octets → List Octets → Work Unit
  | 0, _, _, _, _ => modify fun s => { s.setStatus 2 with flow := .leaving }
  | fuel + 1, tested, functions, name, arguments => do
    let s ← get
    let body? := if functions ∧ !specials.contains (toText name) then
        (s.functions.find? (·.1 = name)).map (·.2)
      else none
    match body?, toText name with
    | some body, _ => do
      modify fun s => { s with arguments := arguments, loops := 0, hidden := [] :: s.hidden }
      run fuel tested body
      modify fun t =>
        let t := t.unhide
        { t with
          arguments := s.arguments, loops := s.loops
          flow := if t.flow = .returning then .on else t.flow }
    | none, "eval" =>
      let text := joined ' ' arguments
      modify (·.setStatus 0)
      inContext name (runText fuel tested (lineFeeds text) text)
    | none, "." | none, "source" =>
      if name ≠ ['.'] ∧ s.dialect = .plain then runProgram fuel name arguments
      else match arguments with
      | [] => pure ()
      | file :: rest =>
        if !file.contains '/' then modify (·.refuse "." (file ++ ofString ": not found"))
        else
          match s.disk.read (Call.path file) with
          | .error fault =>
            modify (·.refuse "." (ofString "cannot open " ++ file ++ [':', ' '] ++
              Session.openingFault "No such file" fault))
          | .ok bytes =>
            let text := ofBytes bytes
            if !rest.isEmpty then modify ({ · with arguments := rest })
            inContext file (runText fuel false (lineFeeds text) text)
            modify fun t =>
              { t with
                arguments := if rest.isEmpty then t.arguments else s.arguments
                flow := if t.flow = .returning then .on else t.flow }
    | none, "exec" =>
      match arguments with
      | [] => modify (·.setStatus 0)
      | program :: arguments => do
        inContext name (runProgram fuel program arguments)
        modify ({ · with flow := .leaving, farewell := none })
    | none, "command" =>
      match Session.switchesOf "pvV" "" arguments with
      | .error (.unknown c) => modify (·.refuse "command" (ofString "Illegal option -" ++ [c]))
      | .error _ => modify (·.refuse "command" (ofString "Illegal option --"))
      | .ok (_, []) => modify (·.setStatus 0)
      | .ok (switches, name :: arguments) =>
        if switches.any (·.1 = 'V') then modify (·.type [name])
        else if switches.any (·.1 = 'v') then
          match s.whereIs name with
          | some path => modify fun s => (s.write 1 (path ++ ['\n'])).setStatus 0
          | none => modify (·.setStatus 127)
        else runNamed fuel tested false name arguments
    | none, known =>
      match s.own? known arguments, shellTool? s.dialect known with
      | some t, _ => set t
      | none, some tool => set (s.runTool tool (s.label s.line ++ name) arguments s.environment)
      | none, none => runProgram fuel name arguments
termination_by structural fuel => fuel

def runProgram : Nat → Octets → List Octets → Work Unit
  | 0, _, _ => modify fun s => { s.setStatus 2 with flow := .leaving }
  | fuel + 1, name, arguments => do
    let s ← get
    match s.program name with
    | .text script => runScript fuel s.dialect [] name arguments script
    | .interpreted program front =>
      match (Program.find s.disk name).fault? s.disk with
      | none => runProgram fuel program (front ++ name :: arguments)
      | some fault =>
        set (s.fail (if fault = .notFound then 127 else 126) (name ++ [':', ' '] ++
          if fault = .notFound then ofString "not found" else faultWords fault))
    | .tool tool => set (s.runTool tool name arguments s.environment)
    | .shell dialect =>
      let complain (text : Octets) : Session :=
        (s.write 2 (name ++ ofString ": 0: " ++ text ++ ['\n'])).setStatus 2
      match shellSwitches arguments with
      | .error text => set (complain text)
      | .ok (_, true, []) => set (complain (ofString "-c requires an argument"))
      | .ok (switches, true, text :: arguments) =>
        runScript fuel dialect switches (arguments.headD name) arguments.tail text
      | .ok (switches, false, file :: arguments) =>
        if switches.contains 's' then
          set (s.leave 0 [])
          runScript fuel dialect switches name (file :: arguments) (s.readable 0)
        else
          match s.disk.read (Call.path file) with
          | .ok bytes => runScript fuel dialect switches file arguments (ofBytes bytes)
          | .error fault =>
            set (complain (ofString "cannot open " ++ file ++ [':', ' '] ++
              Session.openingFault "No such file" fault))
      | .ok (switches, false, []) =>
        set (s.leave 0 [])
        runScript fuel dialect switches name [] (s.readable 0)
    | .finder "xargs" =>
      let input := s.readable 0
      set (s.leave 0 [])
      match Session.switchesOf "rt0" "nILd" arguments with
      | .error fault =>
        let help := ofString "Try 'xargs --help' for more information.\n"
        set ((s.write 2 (ofString "xargs: " ++ fault.message ++ '\n' :: help)).setStatus 1)
      | .ok (switches, rest) =>
        let value (c : Char) : Option Octets := (switches.reverse.find? (·.1 = c)).map (·.2)
        let (name, arguments) := (rest.headD (ofString "echo"), rest.tail)
        match value 'I' with
        | some mark =>
          runBatches fuel ((linesOf input).1.map fun line =>
            (name :: arguments).map (Octets.replacing mark line))
        | none =>
          let words := wordsOf (if switches.any (·.1 = '0') then '\x00' else '\n') input
          if words = [] ∧ switches.any (·.1 = 'r') then set ((s.leave 0 []).setStatus 0)
          else
            let size := ((value 'n').bind Text.natural?).getD (words.length + 1)
            let batches := if words = [] then [[]] else chunksOf (max 1 size) words.length words
            runBatches fuel (batches.map fun words => name :: arguments ++ words)
    | .finder "which" =>
      match Session.switchesOf "as" "" arguments with
      | .error (.unknown c) =>
        let usage := ofString "Usage: /usr/bin/which [-as] args\n"
        set (((s.write 2 (ofString "Illegal option -" ++ [c, '\n'])).write 1 usage).setStatus 2)
      | .error _ => set (s.setStatus 2)
      | .ok (_, names) =>
        let found := names.filterMap fun name =>
          match (Program.find s.disk name).fault? s.disk with
          | some _ => none
          | none => some (if name.contains '/' then name else ofString "/usr/bin/" ++ name)
        set ((s.write 1 (ofLines found)).setStatus (if found.length = names.length then 0 else 1))
    | .finder finder =>
      match errand finder arguments with
      | .error text => set ((s.write 2 text).setStatus 125)
      | .ok e =>
        let bindings :=
          if e.bare then s.bindings.map ({ · with exported := false }) else s.bindings
        match e.words with
        | [] =>
          let shared := { s with bindings := bindings }.environment
          let lines := (shared ++ e.assignments).map fun (name, value) => name ++ '=' :: value
          let lines := if finder = "env" then lines else [['0']]
          set ((s.write 1 (ofLines lines)).setStatus 0)
        | program :: arguments =>
          match (Program.find s.disk program).fault? s.disk with
          | some fault =>
            set ((s.write 2 (errandFault finder program fault)).setStatus
              (if fault = .notFound then 127 else 126))
          | none => do
            set (e.assignments.foldl (fun s (name, value) => (s.bind name value).share name)
              { s with bindings := bindings })
            runProgram fuel program arguments
            modify ({ · with bindings := s.bindings })
    | .forbidden =>
      let status := if name.contains '/' then 126 else 127
      set (s.fail status (name ++ ofString ": Permission denied"))
    | .unreachable fault => set (s.fail 127 (name ++ ofString ": " ++ faultWords fault))
    | .absent =>
      let words :=
        if name = [] then ": Permission denied"
        else if s.dialect = .plain then ": not found"
        else if name.contains '/' then ": No such file or directory"
        else ": command not found"
      set (s.fail 127 (name ++ ofString words))
termination_by structural fuel => fuel

/-- Runs commands without a shell, one after the other. The last failure
counts. -/
def runBatches : Nat → List (List Octets) → Work Unit
  | 0, _ => modify fun s => { s.setStatus 2 with flow := .leaving }
  | _ + 1, [] => modify (·.setStatus 0)
  | fuel + 1, words :: more => do
    match words with
    | [] => runBatches fuel more
    | name :: arguments => do
      runProgram fuel name arguments
      let status := (← get).status
      if (← get).goesOn then
        runBatches fuel more
        modify fun s => if status = 0 then s else s.setStatus (if status < 126 then 123 else status)
termination_by structural fuel => fuel

/-- Runs a script of its own on the streams of the session. -/
def runScript : Nat → Dialect → Octets → Octets → List Octets → Octets → Work Unit
  | 0, _, _, _, _, _ => modify fun s => { s.setStatus 2 with flow := .leaving }
  | fuel + 1, dialect, switches, name, arguments, text => do
    let before ← get
    set { before.fresh name arguments with
      status := 0
      dialect := dialect
      switches := switches }
    let text := text.filter (· ≠ '\x00')
    runText fuel false (lineFeeds text) text
    sayFarewell fuel
    modify before.afterSubshell
termination_by structural fuel => fuel

/-- Runs a text with so many line feeds, one complete command after the other. -/
def runText : Nat → Bool → Nat → Octets → Work Unit
  | 0, _, _, _ => modify fun s => { s.setStatus 2 with flow := .leaving }
  | fuel + 1, tested, lines, text => do
    if text.isEmpty ∨ !(← get).goesOn then return ()
    match Command.ofLines lines text with
    | .error problem =>
      modify fun s =>
        { (s.complain problem.line (ofString s!"Syntax error: {problem.flaw.message}")).setStatus 2 with
          flow := .leaving }
    | .ok (c, rest) => do
      run fuel tested c
      runText fuel tested lines rest
termination_by structural fuel => fuel

end

/-- How deep running can go, which is also how often a loop can run. -/
def depth : Nat := 100000

end DetectionMerge.Shell
