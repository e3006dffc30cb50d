import DetectionMerge.Pattern.Text
import DetectionMerge.Shell.Tool.Lines

/-! Patterns that are written in older ways, which become patterns in the present
one, and the tool that looks for them in lines: `grep`. -/

namespace DetectionMerge.Shell

/-! ### Older patterns -/

/-- A set in brackets up to its closing one, with backslashes before what would
mean something else, in so many steps. -/
def modernSet : Nat → Octets → Octets × Octets
  | 0, cs => ([], cs)
  | _ + 1, [] => ([], [])
  | _ + 1, ']' :: rest => ([']'], rest)
  | fuel + 1, '[' :: ':' :: rest =>
    let name := rest.takeWhile (· ≠ ']')
    let (set, left) := modernSet fuel (rest.drop (name.length + 1))
    ('[' :: ':' :: name ++ ']' :: set, left)
  | fuel + 1, c :: rest =>
    let (set, left) := modernSet fuel rest
    (if c ∈ ['\\', '[', '&', '~'] then ('\\' :: c :: set, left) else (c :: set, left))

/-- The beginning of a set in brackets: what can only stand there. -/
def modernSetStart : Octets → Octets × Octets
  | '^' :: ']' :: rest => (['^', '\\', ']'], rest)
  | '^' :: rest => (['^'], rest)
  | ']' :: rest => (['\\', ']'], rest)
  | rest => ([], rest)

/-- A pattern written anew. In the basic form parentheses, braces, bars and the
signs for one or none mean something behind a backslash only; a star at the
beginning means itself. -/
def modernPattern (basic : Bool) : Nat → Bool → Octets → Octets
  | 0, _, _ => []
  | _ + 1, _, [] => []
  | fuel + 1, _, '[' :: rest =>
    let (start, rest) := modernSetStart rest
    let (set, rest) := modernSet (rest.length + 1) rest
    '[' :: start ++ set ++ modernPattern basic fuel false rest
  | fuel + 1, atStart, '\\' :: c :: rest =>
    if c ∈ ['(', ')', '\x7b', '\x7d', '+', '?', '|'] ∧ basic then
      c :: modernPattern basic fuel (c = '(' || c = '|') rest
    else if c = 'n' ∨ c = 't' then '\\' :: c :: modernPattern basic fuel false rest
    else if c.isAlphanum ∧ !(c ∈ ['w', 'W', 's', 'S', 'b', 'B']) then
      c :: modernPattern basic fuel atStart rest
    else '\\' :: c :: modernPattern basic fuel false rest
  | fuel + 1, atStart, c :: rest =>
    if basic ∧ c ∈ ['(', ')', '\x7b', '\x7d', '+', '?', '|'] then
      '\\' :: c :: modernPattern basic fuel false rest
    else if basic ∧ atStart ∧ c = '*' then '\\' :: '*' :: modernPattern basic fuel false rest
    else if basic ∧ !atStart ∧ c = '^' then '\\' :: '^' :: modernPattern basic fuel false rest
    else if basic ∧ c = '$' ∧ rest ≠ [] ∧ !(['\\', ')'].isPrefixOf rest) then
      '\\' :: '$' :: modernPattern basic fuel false rest
    else c :: modernPattern basic fuel (c = '^' || c = '(' || c = '|') rest

def olderPattern? (basic anyCase : Bool) (cs : Octets) : Option Pattern :=
  Pattern.ofOctets? (modernPattern basic (cs.length + 1) true cs) anyCase

def literalPattern (anyCase : Bool) (cs : Octets) : Pattern :=
  let s : Pattern.Setting := { repertoire := .octets, anyCase }
  cs.foldr (fun c p => .sequence (.one (s.fold (.single c))) p) .empty

/-- The first and longest occurrence of a pattern, from a place on, by what it
reaches in a text: its beginning and its end. -/
def occurrence? (reach : Reach) (start : Nat) : Option (Nat × Nat) :=
  (List.range reach.rows.size).findSome? fun i =>
    if i < start then none else (reach.furthest? i).map fun j => (i, j)

/-! ### Groups -/

structure Part where
  pattern : Pattern
  isGroup : Bool
  deriving DecidableEq, Repr

/-- A set in brackets up to its closing one, behind which the rest follows, in so
many steps. -/
def setText : Nat → Octets → Octets × Octets
  | 0, cs => ([], cs)
  | _ + 1, [] => ([], [])
  | _ + 1, ']' :: rest => ([']'], rest)
  | fuel + 1, '\\' :: c :: rest =>
    let (text, left) := setText fuel rest
    ('\\' :: c :: text, left)
  | fuel + 1, '[' :: rest =>
    let (inner, rest) := setText fuel rest
    let (text, left) := setText fuel rest
    ('[' :: inner ++ text, left)
  | fuel + 1, c :: rest =>
    let (text, left) := setText fuel rest
    (c :: text, left)

/-- The texts of the parts of a pattern, those in parentheses and those between
them, from a depth on and after the present part in reverse, in so many steps.
There is none for a choice outside of parentheses. -/
def partTexts? : Nat → Nat → Octets → Octets → Option (List (Octets × Bool))
  | 0, _, _, _ => none
  | _ + 1, 0, before, [] => some [(before.reverse, false)]
  | _ + 1, _ + 1, _, [] => none
  | fuel + 1, depth, before, '\\' :: c :: rest => partTexts? fuel depth (c :: '\\' :: before) rest
  | fuel + 1, depth, before, '[' :: rest =>
    let (text, rest) := setText (rest.length + 1) rest
    partTexts? fuel depth (text.reverse ++ '[' :: before) rest
  | fuel + 1, 0, before, '(' :: rest =>
    (partTexts? fuel 1 [] rest).map ((before.reverse, false) :: ·)
  | fuel + 1, 1, before, ')' :: rest =>
    if rest.head?.any fun c => c ∈ ['*', '+', '?', '\x7b'] then none
    else (partTexts? fuel 0 [] rest).map ((before.reverse, true) :: ·)
  | fuel + 1, depth, before, c :: rest =>
    if c = '|' ∧ depth = 0 then none
    else
      let depth := if c = '(' then depth + 1 else if c = ')' then depth - 1 else depth
      partTexts? fuel depth (c :: before) rest

/-- The parts of a pattern. One that does not fall apart is a part itself. -/
def olderParts (basic anyCase : Bool) (cs : Octets) : List Part :=
  let text := modernPattern basic (cs.length + 1) true cs
  let whole := (Pattern.ofOctets? text anyCase).getD .empty
  let part (piece : Octets × Bool) : Option Part :=
    (Pattern.ofOctets? piece.1 anyCase).map fun p => ⟨p, piece.2⟩
  ((partTexts? (text.length + 2) 0 [] text).bind (·.mapM part)).getD [⟨whole, false⟩]

/-- The texts of the groups in an occurrence from one place to another. Each part
takes as much as the others leave. -/
def groupsIn (text : Array Char) (stop : Nat) : Nat → List Part → List Octets
  | _, [] => []
  | start, part :: rest =>
    let others := rest.foldr (fun part p => .sequence part.pattern p) Pattern.empty
    let behind := others.reach text
    let fitting := ((part.pattern.reach text).ends start).filter (behind.leads · stop)
    let next := fitting.foldl max start
    let found := (text.toList.take next).drop start
    (if part.isGroup then [found] else []) ++ groupsIn text stop next rest

/-! ### Looking for lines -/

/-- `grep`. -/
def search : Tool := withOptions "EFGivcnqloxwhHsarLyIUb" "efmABC" 2 fun s => fun call =>
  let fixed := s.has 'F'
  let given := s.options.filterMap fun (c, value) => if c = 'e' then some value else none
  let (texts, files) : List Octets × List Octets :=
    if given.isEmpty then (s.operands.take 1, s.operands.drop 1) else (given, s.operands)
  if texts.isEmpty then
    { call.ending 2 with
      errors := ofString "Usage: grep [OPTION]... PATTERNS [FILE]...\n" ++ call.pointing }
  else
    let texts := texts.flatMap fun text => Text.splitAt '\n' text
    let patterns := texts.map fun text =>
      if fixed then some (literalPattern (s.has 'i') text)
      else olderPattern? (!s.has 'E') (s.has 'i') text
    let wrap (p : Pattern) : Pattern :=
      if s.has 'x' then
        .sequence (.assertion .textStart) (.sequence p (.assertion .textEnd))
      else if s.has 'w' then
        .sequence (.assertion (.boundary .startHalf true))
          (.sequence p (.assertion (.boundary .stopHalf true)))
      else p
    if patterns.any Option.isNone then call.failing 2 (ofString "Invalid regular expression")
    else
      let whole : Pattern := ((patterns.filterMap id).map wrap).foldr Pattern.either
        .never
      let hits (line : Octets) : Bool := whole.occursIn line != s.has 'v'
      let named : Bool := (files.length > 1 || s.has 'H') && !s.has 'h'
      let limit := ((s.value? 'm').bind Text.natural?).getD 1000000000
      let parts (line : Octets) : List Octets :=
        let reach := whole.reach line.toArray
        (List.range (line.length + 1)).foldl (fun (found : List Octets × Nat) i =>
          if i < found.2 then found
          else
            match reach.furthest? i with
            | none => found
            | some stop =>
              if stop = i then found else (found.1 ++ [(line.take stop).drop i], stop)) ([], 0) |>.1
      let reach (c : Char) : Nat := (((s.value? c).or (s.value? 'C')).bind Text.natural?).getD 0
      let (reachBack, reachOn) := (reach 'B', reach 'A')
      let report (file content : Octets) : Octets :=
        let all := (linesOf content).1.zipIdx 1
        let lines := (all.filter fun (line, _) => hits line).take limit
        let isHit (i : Nat) : Bool := lines.any (·.2 = i)
        let isNear (i : Nat) : Bool :=
          lines.any fun (_, hit) => hit ≤ i + reachBack ∧ i ≤ hit + reachOn
        let name := if file = ['-'] then ofString "(standard input)" else file
        let label := if named then name ++ [':'] else []
        if s.has 'q' then if lines.isEmpty then [] else ['x']
        else if s.has 'c' then label ++ (toString lines.length).toList ++ ['\n']
        else if s.has 'l' then if lines.isEmpty then [] else name ++ ['\n']
        else if s.has 'L' then if lines.isEmpty then name ++ ['\n'] else []
        else if reachBack + reachOn > 0 then
          ((all.filter (isNear ·.2)).foldl (fun (found : Octets × Nat) (line, i) =>
            let mark := if isHit i then ':' else '-'
            let number := if s.has 'n' then (toString i).toList ++ [mark] else []
            let gap := if found.2 ≠ 0 ∧ found.2 + 1 < i then ofString "--\n" else []
            let label := if named then name ++ [mark] else []
            (found.1 ++ gap ++ label ++ number ++ line ++ ['\n'], i)) ([], 0)).1
        else
          lines.flatMap fun (line, i) =>
            let number := if s.has 'n' then (toString i).toList ++ [':'] else []
            if s.has 'o' then ofLines ((parts line).map fun part => label ++ number ++ part)
            else label ++ number ++ line ++ ['\n']
      let e := overFiles files 2 plainFault report call
      let any := (if files.isEmpty then [['-']] else files).any fun file =>
        match call.read file with
        | .ok content => (linesOf content).1.any hits != s.has 'L'
        | .error _ => false
      { e with
        output := if s.has 'q' then [] else e.output
        errors := if s.has 's' then [] else e.errors
        status := if any ∧ (s.has 'q' ∨ e.status = 0) then 0 else if e.status = 2 then 2 else 1 }

end DetectionMerge.Shell
