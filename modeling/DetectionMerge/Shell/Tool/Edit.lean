import DetectionMerge.Shell.Tool.Search

/-! The tool that changes lines by a script of its own: `sed`. -/

namespace DetectionMerge.Shell

/-! ### Instructions -/

/-- Which lines a change is for. -/
inductive Selector
  | line (n : Nat)
  | last
  | having (p : Pattern)
  deriving DecidableEq, Repr

inductive Insert
  | char (c : Char)
  /-- What is replaced. -/
  | whole
  /-- The text of a group, by its number. -/
  | group (n : Nat)
  deriving DecidableEq, Repr

structure Substitution where
  pattern : Pattern
  parts : List Part
  text : List Insert
  every : Bool
  /-- The first occurrence that is replaced. -/
  nth : Nat
  printed : Bool
  deriving DecidableEq, Repr

inductive Change
  | replace (s : Substitution)
  | print | delete | quit | number
  | exchange (source target : Octets)
  /-- Lines before, behind or in place of the line. -/
  | before (text : Octets)
  | behind (text : Octets)
  | instead (text : Octets)
  /-- The line is kept, or kept behind what is kept already. -/
  | keep | keepMore
  /-- What is kept becomes the line, or follows it, or changes places with it. -/
  | restore | restoreMore | trade
  deriving DecidableEq, Repr

/-- A change with the lines that it is for: all, one kind, or a range. -/
structure Instruction where
  first : Option Selector
  second : Option Selector
  negated : Bool
  change : Change
  deriving DecidableEq, Repr

/-! ### Reading -/

/-- The text up to a separator that no backslash precedes, and what follows. -/
def untilSeparator? (separator : Char) : Octets → Option (Octets × Octets)
  | [] => none
  | '\\' :: c :: rest =>
    (untilSeparator? separator rest).map fun (text, left) =>
      (if c = separator then (c :: text, left) else ('\\' :: c :: text, left))
  | c :: rest =>
    if c = separator then some ([], rest)
    else (untilSeparator? separator rest).map fun (text, left) => (c :: text, left)

def replacementOf : Octets → List Insert
  | [] => []
  | '\\' :: 'n' :: rest => .char '\n' :: replacementOf rest
  | '\\' :: 't' :: rest => .char '\t' :: replacementOf rest
  | '\\' :: c :: rest =>
    (if c.isDigit then .group (c.toNat - '0'.toNat) else .char c) :: replacementOf rest
  | '&' :: rest => .whole :: replacementOf rest
  | c :: rest => .char c :: replacementOf rest

def selector? (basic : Bool) (cs : Octets) : Option (Selector × Octets) :=
  match cs with
  | '$' :: rest => some (.last, rest)
  | '/' :: rest => do
    let (text, rest) ← untilSeparator? '/' rest
    return (.having (← olderPattern? basic false text), rest)
  | cs =>
    let digits := cs.takeWhile Char.isDigit
    (Text.natural? digits).map fun n => (.line n, cs.drop digits.length)

/-- The lines of a text behind a command, and what follows. A backslash keeps the
next character, and a line goes on behind one. -/
def textLines : Octets → Octets × Octets
  | [] => ([], [])
  | '\\' :: c :: rest =>
    let (text, left) := textLines rest
    (c :: text, left)
  | '\n' :: rest => ([], rest)
  | c :: rest =>
    let (text, left) := textLines rest
    (c :: text, left)

/-- The text of a command: on the same line, or on the line behind a backslash. -/
def commandText (cs : Octets) : Octets × Octets :=
  let isBlank (c : Char) : Bool := c = ' ' ∨ c = '\t'
  let start := match cs.dropWhile isBlank with
    | '\\' :: '\n' :: rest => rest
    | '\\' :: rest => rest.dropWhile isBlank
    | rest => rest
  let (text, rest) := textLines start
  (text ++ ['\n'], rest)

def change? (basic : Bool) (cs : Octets) : Option (Change × Octets) :=
  let withText (change : Octets → Change) (rest : Octets) : Option (Change × Octets) :=
    let (text, rest) := commandText rest
    if text = ['\n'] then none else some (change text, '\n' :: rest)
  match cs with
  | 'p' :: rest => some (.print, rest)
  | 'd' :: rest => some (.delete, rest)
  | 'q' :: rest => some (.quit, rest)
  | '=' :: rest => some (.number, rest)
  | 'h' :: rest => some (.keep, rest)
  | 'H' :: rest => some (.keepMore, rest)
  | 'g' :: rest => some (.restore, rest)
  | 'G' :: rest => some (.restoreMore, rest)
  | 'x' :: rest => some (.trade, rest)
  | 'i' :: rest => withText .before rest
  | 'a' :: rest => withText .behind rest
  | 'c' :: rest => withText .instead rest
  | 'y' :: separator :: rest => do
    let (source, rest) ← untilSeparator? separator rest
    let (target, rest) ← untilSeparator? separator rest
    if source.length = target.length then some (.exchange source target, rest) else none
  | 's' :: separator :: rest => do
    let (pattern, rest) ← untilSeparator? separator rest
    let (text, rest) ← untilSeparator? separator rest
    let flags := rest.takeWhile fun c => c.isDigit || c ∈ ['g', 'p', 'i', 'I']
    let anyCase := flags.contains 'i' || flags.contains 'I'
    let p ← olderPattern? basic anyCase pattern
    some (.replace {
      pattern := p
      parts := olderParts basic anyCase pattern
      text := replacementOf text
      every := flags.contains 'g'
      nth := (Text.natural? (flags.filter Char.isDigit)).getD 1
      printed := flags.contains 'p' }, rest.drop flags.length)
  | _ => none

/-- The instructions of a script, in so many steps. -/
def instructions? (basic : Bool) : Nat → Octets → Option (List Instruction)
  | 0, _ => none
  | fuel + 1, cs =>
    match cs.dropWhile fun c => c ∈ [' ', '\t', '\n', ';'] with
    | [] => some []
    | cs => do
      let (first, cs) := match selector? basic cs with
        | some (selector, rest) => (some selector, rest)
        | none => (none, cs)
      let (second, cs) ← match cs with
        | ',' :: rest => (selector? basic rest).map fun (selector, rest) => (some selector, rest)
        | cs => some (none, cs)
      let cs := cs.dropWhile (· = ' ')
      let (negated, cs) : Bool × Octets := match cs with
        | '!' :: rest => (true, rest)
        | cs => (false, cs)
      let (change, rest) ← change? basic (cs.dropWhile (· = ' '))
      match rest.dropWhile (· = ' ') with
      | [] | ';' :: _ | '\n' :: _ =>
        let others ← instructions? basic fuel rest
        return ⟨first, second, negated, change⟩ :: others
      | _ => none

/-! ### Changing -/

def Selector.holds (n : Nat) (isLast : Bool) (line : Octets) : Selector → Bool
  | .line m => m = n
  | .last => isLast
  | .having p => p.occursIn line

namespace Substitution

/-- What takes the place of an occurrence from one place to another. -/
def replacement (s : Substitution) (line : Octets) (start stop : Nat) : Octets :=
  let groups := groupsIn line.toArray stop start s.parts
  s.text.flatMap fun piece => match piece with
    | .char c => [c]
    | .whole | .group 0 => (line.take stop).drop start
    | .group (n + 1) => (groups[n]?).getD []

/-- A line with occurrences replaced from a number on, by what the pattern
reaches in it, in so many steps, and whether there was one. -/
def applied (s : Substitution) (line : Octets) (reach : Reach) : Nat → Nat → Nat → Octets × Bool
  | 0, _, start => (line.drop start, false)
  | fuel + 1, nth, start =>
    match occurrence? reach start with
    | none => (line.drop start, false)
    | some (i, j) =>
      let found := (line.take j).drop i
      let before := (line.take i).drop start
      let new := s.replacement line i j
      let (passed, next) : Octets × Nat :=
        if j = i then ((line.drop i).take 1, i + 1) else ([], j)
      if nth > 1 then
        let (rest, any) := applied s line reach fuel (nth - 1) next
        (before ++ found ++ passed ++ rest, any)
      else if s.every ∧ next ≤ line.length then
        (before ++ new ++ passed ++ (applied s line reach fuel 1 next).1, true)
      else (before ++ new ++ passed ++ line.drop next, true)

end Substitution

/-- A line on its way through the instructions. -/
structure Passage where
  line : Octets
  /-- What is written before the line and behind it. -/
  output : Octets := []
  after : Octets := []
  kept : Octets := []
  deleted : Bool := false
  ended : Bool := false

/-- Whether an instruction is for a line, and whether its range goes on. -/
def Instruction.chooses (i : Instruction) (n : Nat) (isLast within : Bool) (line : Octets) :
    Bool × Bool :=
  let holds (s : Selector) : Bool := s.holds n isLast line
  match i.first, i.second with
  | none, _ => (true, false)
  | some first, none => (holds first, false)
  | some first, some second =>
    if within then
      match second with
      | .line m => (n ≤ m, n < m)
      | second => (true, !holds second)
    else if holds first then
      match second with
      | .line m => (true, n < m)
      | .last => (true, !isLast)
      | .having _ => (true, true)
    else (false, false)

/-- A line after a change, in or at the end of a range. -/
def Change.apply (change : Change) (n : Nat) (goesOn : Bool) (p : Passage) : Passage :=
  match change with
  | .print => { p with output := p.output ++ p.line ++ ['\n'] }
  | .delete => { p with deleted := true }
  | .quit => { p with ended := true }
  | .number => { p with output := p.output ++ (toString n).toList ++ ['\n'] }
  | .exchange source target => { p with line := p.line.map (exchanged source target) }
  | .before text => { p with output := p.output ++ text }
  | .behind text => { p with after := p.after ++ text }
  | .instead text =>
    { p with deleted := true, output := if goesOn then p.output else p.output ++ text }
  | .keep => { p with kept := p.line }
  | .keepMore => { p with kept := p.kept ++ '\n' :: p.line }
  | .restore => { p with line := p.kept }
  | .restoreMore => { p with line := p.line ++ '\n' :: p.kept }
  | .trade => { p with line := p.kept, kept := p.line }
  | .replace s =>
    let reach := s.pattern.reach p.line.toArray
    let (line, any) := s.applied p.line reach (p.line.length + 2) s.nth 0
    { p with
      line := line
      output := if s.printed ∧ any then p.output ++ line ++ ['\n'] else p.output }

/-- The line after an instruction, and whether the range of the instruction goes
on. -/
def pass (i : Instruction) (n : Nat) (isLast within : Bool) (p : Passage) : Passage × Bool :=
  if p.deleted ∨ p.ended then (p, within)
  else
    let (chosen, goesOn) := i.chooses n isLast within p.line
    if chosen = i.negated then (p, goesOn) else (i.change.apply n (goesOn && !i.negated) p, goesOn)

/-- The output of instructions on lines, the first of which has a number, after
what has been kept. -/
def edited (quiet : Bool) (is : List Instruction) : List Bool → Nat → Octets → List Octets → Octets
  | _, _, _, [] => []
  | ranges, n, kept, line :: rest =>
    let (p, ranges) := (is.zip ranges).foldl (fun (p, ranges) (i, within) =>
      let (p, within) := pass i n rest.isEmpty within p
      (p, ranges ++ [within])) ({ line := line, kept := kept }, [])
    let printed := if quiet ∨ p.deleted then [] else p.line ++ ['\n']
    p.output ++ printed ++ p.after ++
      if p.ended then [] else edited quiet is ranges (n + 1) p.kept rest

/-- `sed`. -/
def edit : Tool := withOptions "nErsiu" "ef" 1 fun s => fun call =>
  let given := s.options.filterMap fun (c, value) => if c = 'e' then some value else none
  let (scripts, files) : List Octets × List Octets :=
    if given.isEmpty then (s.operands.take 1, s.operands.drop 1) else (given, s.operands)
  if scripts.isEmpty then
    { call.ending 1 with
      errors := ofString "Usage: sed [OPTION]... \x7bscript-only-if-no-other-script\x7d [input-file]...\n" }
  else
    let script := joined '\n' scripts
    match instructions? (!s.has 'E' && !s.has 'r') (script.length + 1) script with
    | none => call.failing 1 (ofString "-e expression #1, char 0: unknown command")
    | some is =>
      let outside := is.map fun _ => false
      let change (content : Octets) : Octets :=
        let (lines, ended) := linesOf content
        let text := edited (s.has 'n') is outside 1 [] lines
        if ended ∨ text = [] then text else text.dropLast
      if s.has 'i' then
        files.foldl (fun e file =>
          match e.disk.read (Call.path file) with
          | .error fault =>
            { e with status := 4, errors := e.errors ++ call.complaint (unreadable file fault) }
          | .ok bytes =>
            match e.disk.writeFile (Call.path file) (toBytes (change (ofBytes bytes))) with
            | .ok disk => { e with disk := disk }
            | .error _ => { e with status := 4 }) (call.ending 0)
      else
        let e := overFiles files 2 unreadable (fun _ content => content) call
        { e with output := change e.output }
where
  /-- The complaint about a file. -/
  unreadable (file : Octets) (fault : Fault) : Octets :=
    match fault with
    | .isDirectory => ofString "couldn't edit " ++ file ++ ofString ": not a regular file"
    | fault => ofString "can't read " ++ file ++ [':', ' '] ++ faultWords fault

end DetectionMerge.Shell
