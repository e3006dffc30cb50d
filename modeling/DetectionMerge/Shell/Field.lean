import DetectionMerge.Shell.Glob

/-! Fields: what a word of a script falls apart into once it is written out. -/

namespace DetectionMerge.Shell

/-- A step in writing out fields. -/
inductive Mark
  | char (c : Char) (quoted : Bool)
  /-- A character that can also separate fields. -/
  | loose (c : Char)
  /-- The field is there even if it is empty. -/
  | present
  /-- The end of one field and the beginning of another. -/
  | gap
  deriving DecidableEq, Repr

namespace Mark

def ofText (quoted : Bool) (text : Octets) : List Mark :=
  if quoted then .present :: text.map (.char · true) else text.map .loose

def ofTexts (quoted : Bool) (texts : List Octets) : List Mark :=
  ((texts.map (ofText quoted)).intersperse [.gap]).flatten

/-- The mark that can separate fields if it is not quoted. -/
def loosen : Mark → Mark
  | .char c false => .loose c
  | m => m

def marked (marks : List Mark) : List Marked :=
  marks.filterMap fun mark => match mark with
    | .char c quoted => some (c, quoted)
    | .loose c => some (c, false)
    | .gap => some (' ', true)
    | .present => none

end Mark

/-- Whether a character is a blank that separates fields. -/
def isSoft (separators : Octets) (c : Char) : Bool :=
  separators.contains c && (c = ' ' || c = '\t' || c = '\n')

/-- The fields that marks write out, after the beginning of one. A separator
that is no blank ends a field even if it is empty, unless blanks have just done
so. -/
def fields (separators : Octets) : Bool → Option (List Marked) → List Mark → List (List Marked)
  | _, current, [] => current.toList
  | _, current, .gap :: marks => current.toList ++ fields separators false none marks
  | _, current, .present :: marks => fields separators false (some (current.getD [])) marks
  | _, current, .char c quoted :: marks =>
    fields separators false (some (current.getD [] ++ [(c, quoted)])) marks
  | afterBlank, current, .loose c :: marks =>
    if isSoft separators c then
      current.toList ++ fields separators (afterBlank || current.isSome) none marks
    else if separators.contains c then
      if afterBlank ∧ current.isNone then fields separators false none marks
      else current.getD [] :: fields separators false none marks
    else fields separators false (some (current.getD [] ++ [(c, false)])) marks

/-- The texts for so many names that a line falls apart into. The last one takes
what is left. A character is paired with whether a backslash protects it. -/
def splitLine (separators : Octets) : Nat → List Marked → List Octets
  | 0, _ => []
  | 1, cs =>
    let soft (m : Marked) : Bool := !m.2 && isSoft separators m.1
    let text := ((cs.dropWhile soft).reverse.dropWhile soft).reverse
    let hard (m : Marked) : Bool := !m.2 && separators.contains m.1 && !isSoft separators m.1
    let plain := match text.reverse with
      | m :: before =>
        if hard m ∧ !before.any hard then (before.dropWhile soft).reverse else text
      | [] => text
    [plain.map (·.1)]
  | n + 2, cs =>
    let soft (m : Marked) : Bool := !m.2 && isSoft separators m.1
    let separates (m : Marked) : Bool := !m.2 && separators.contains m.1
    let cs := cs.dropWhile soft
    let first := cs.takeWhile (!separates ·)
    let rest := (cs.drop first.length).dropWhile soft
    let rest := match rest with
      | m :: more => if separates m then more else rest
      | [] => []
    first.map (·.1) :: splitLine separators (n + 1) rest

end DetectionMerge.Shell
