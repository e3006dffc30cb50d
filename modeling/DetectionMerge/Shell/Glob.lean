import DetectionMerge.Host.Disk
import DetectionMerge.Pattern.Bracket
import DetectionMerge.Pattern.Search
import DetectionMerge.Shell.Octets

/-! Patterns for file names and texts: stars, question marks and sets in
brackets, as far as they are not quoted. -/

namespace DetectionMerge.Shell

/-- A character, and whether it has lost its special meaning. -/
abbrev Marked := Char × Bool

/-- Whether a text has a character with a special meaning in patterns. -/
def hasWildcard (cs : List Marked) : Bool :=
  cs.any fun (c, quoted) => !quoted && c ∈ ['*', '?', '[']

namespace Glob

/-- A named set behind an opening bracket, with its length. A circumflex in front
of the name stands for the rest. -/
def namedSet? (cs : Octets) : Option (CharSet × Nat) :=
  match Pattern.readNamedClass { place := 0, rest := '[' :: cs, isSpaced := false } with
  | some (.named span set isNegated, _) =>
    some (if isNegated then set.complement else set, span.stop - 1)
  | _ => none

/-- The members of a set up to its closing bracket, after some members. The
first one can be a bracket itself. -/
def members? : Nat → Bool → CharSet → List Marked → Option (CharSet × List Marked)
  | 0, _, _, _ => none
  | _ + 1, _, _, [] => none
  | fuel + 1, isFirst, set, (c, quoted) :: rest =>
    if c = ']' ∧ !quoted ∧ !isFirst then some (set, rest)
    else
      match (if c = '[' ∧ !quoted then namedSet? (rest.map (·.1)) else none), rest with
      | some (named, length), _ => members? fuel false (.union set named) (rest.drop length)
      | none, ('-', false) :: (d, upperQuoted) :: more =>
        if d = ']' ∧ !upperQuoted then members? fuel false (.union set (.single c)) rest
        else members? fuel false (.union set (.range c d)) more
      | none, _ => members? fuel false (.union set (.single c)) rest

/-- The set that stands behind an opening bracket. -/
def set? (cs : List Marked) : Option (CharSet × List Marked) :=
  match cs with
  | ('!', false) :: rest | ('^', false) :: rest =>
    (members? (rest.length + 1) true .empty rest).map fun (s, rest) => (s.complement, rest)
  | rest => members? (rest.length + 1) true .empty rest

/-- The pattern that characters describe, with so many steps. -/
def read : Nat → List Marked → Pattern
  | 0, _ | _, [] => .empty
  | fuel + 1, (c, quoted) :: rest =>
    let literal : Pattern := .sequence (.char c) (read fuel rest)
    if quoted then literal
    else if c = '*' then .sequence (.repeated .anything 0 none) (read fuel rest)
    else if c = '?' then .sequence .anything (read fuel rest)
    else if c = '[' then
      match set? rest with
      | some (s, left) => .sequence (.one s) (read fuel left)
      | none => literal
    else literal

end Glob

/-- The pattern that characters describe. -/
def globOf (cs : List Marked) : Pattern := Glob.read cs.length cs

def describes (p : Pattern) (text : Octets) : Bool :=
  (p.reach text.toArray).leads 0 text.length

/-- The text without a beginning that a pattern describes, the longest or the
shortest one. -/
def withoutStart (p : Pattern) (longest : Bool) (text : Octets) : Octets :=
  let reach := p.reach text.toArray
  text.drop (((if longest then reach.furthest? 0 else reach.nearest? 0)).getD 0)

/-- The text without an end that a pattern describes. -/
def withoutEnd (p : Pattern) (longest : Bool) (text : Octets) : Octets :=
  let reach := p.reach text.toArray
  let starts := (List.range (text.length + 1)).filter (reach.leads · text.length)
  match starts with
  | [] => text
  | i :: is => text.take (is.foldl (if longest then min else max) i)

/-! ### Names of files -/

/-- The names in a folder that a pattern describes, in order. Names with a dot
in front need one in the pattern. -/
def namesLike (disk : Disk) (folder : Octets) (cs : List Marked) : List Octets :=
  let listed := (disk.list ⟨if folder = [] then "." else toSystem folder⟩).toOption
  let names := (listed.map fun names => ['.'] :: ['.', '.'] :: names.map ofSystem).getD []
  let p := globOf cs
  let wanted := names.filter fun name =>
    (name.head? ≠ some '.' || cs.head?.any (·.1 = '.')) && describes p name
  wanted.mergeSort fun a b => !(b < a)

def partsOf : List Marked → List (List Marked)
  | [] => [[]]
  | (c, quoted) :: rest =>
    if c = '/' then [] :: partsOf rest
    else
      match partsOf rest with
      | part :: parts => ((c, quoted) :: part) :: parts
      | [] => [[(c, quoted)]]

/-- The paths that the parts of a pattern describe, inside a folder. -/
def pathsIn (disk : Disk) (folder : Octets) : List (List Marked) → List Octets
  | [] => [folder]
  | part :: rest =>
    let separator (last : Bool) : Octets := if last then [] else ['/']
    if hasWildcard part then
      (namesLike disk folder part).flatMap fun name =>
        pathsIn disk (folder ++ name ++ separator rest.isEmpty) rest
    else pathsIn disk (folder ++ part.map (·.1) ++ separator rest.isEmpty) rest

/-- The files that a field names. A field that describes none stands for
itself. -/
def filesLike (disk : Disk) (cs : List Marked) : List Octets :=
  let literal := cs.map (·.1)
  if !hasWildcard cs then [literal]
  else
    let found := (pathsIn disk [] (partsOf cs)).filter fun path => (disk.stat ⟨toSystem path⟩).toBool
    if found = [] then [literal] else found

end DetectionMerge.Shell
