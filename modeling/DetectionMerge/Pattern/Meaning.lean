import DetectionMerge.Pattern.Basic
import DetectionMerge.Pattern.Mistake
import DetectionMerge.Text.Blank

/-! What the parts of a pattern's text mean under the flags that are set there.
Flags hold up to the end of the group that they are set in. -/

namespace DetectionMerge.Pattern

/-- What a text can consist of. -/
inductive Repertoire
  | scripts
  /-- Only characters of ASCII have classes and cases. No set may hold what is not
  a whole character. -/
  | ascii
  /-- The same for texts of octets, which need not be characters. -/
  | octets
  deriving DecidableEq, Repr

/-- What the meaning of a part depends on. -/
structure Setting where
  repertoire : Repertoire := .scripts
  anyCase : Bool := false
  multiLine : Bool := false
  /-- The dot stands for a line feed too. -/
  dotAll : Bool := false
  carriageReturns : Bool := false
  deriving DecidableEq, Repr

namespace Setting

def set (s : Setting) : Flag × Bool → Setting
  | (.anyCase, value) => { s with anyCase := value }
  | (.multiLine, value) => { s with multiLine := value }
  | (.dotAll, value) => { s with dotAll := value }
  | (.carriageReturns, value) => { s with carriageReturns := value }
  | (.allScripts, value) =>
    { s with repertoire := if s.repertoire = .octets then .octets
        else if value then .scripts else .ascii }
  | (.spaced, _) | (.fewest, _) => s

def setAll (s : Setting) (f : Flags) : Setting := f.foldl set s

/-! ### Sets -/

/-- The letters of ASCII among some characters in both cases, and the others. -/
def asciiCases (s : CharSet) : CharSet :=
  let moved (first last : Char) (move : Nat → Nat) : CharSet :=
    .ofRanges ((s.intersection (.range first last)).ranges.map fun r => (move r.1, move r.2))
  .unions [s, moved 'a' 'z' (· - 32), moved 'A' 'Z' (· + 32)]

/-- A set with the other cases of its characters, where these do not count. -/
def fold (s : Setting) (set : CharSet) : CharSet :=
  if !s.anyCase then set
  else if s.repertoire = .scripts then set.anyCase
  else asciiCases set

/-- A set or what is not in it. Without classes for all scripts the rest is no set
of characters. -/
def negate (s : Setting) (span : Span) (isNegated : Bool) (set : CharSet) :
    Except Mistake CharSet :=
  if !isNegated then .ok set
  else if s.repertoire = .ascii then wrong .notText span
  else .ok set.complement

/-- The characters of a class with a letter. -/
def shorthand (s : Setting) (c : Shorthand) : CharSet :=
  if s.repertoire = .scripts then
    match c with
    | .digit => .ofRanges Text.digitRanges
    | .blank => .ofRanges Text.blankRanges
    | .word => .ofRanges Text.wordRanges
  else
    match c with
    | .digit => .ofText "30-39"
    | .blank => .ofText "9-D 20"
    | .word => .ofText "30-39 41-5A 5F 61-7A"

def property (s : Setting) (span : Span) (q : Property.Query) (isNegated : Bool) :
    Except Mistake CharSet :=
  if s.repertoire ≠ .scripts then wrong .scriptsExcluded span
  else
    match q.find with
    | .ok set => s.negate span isNegated (s.fold set)
    | .error .property => wrong .propertyUnknown span
    | .error .value => wrong .propertyValueUnknown span

/-- A character by itself: one that is written as an octet must be of ASCII where
octets count. -/
def literal (s : Setting) (span : Span) (c : Char) (isOctet : Bool) : Except Mistake Char :=
  if s.repertoire = .ascii && isOctet && c.toNat > 0x7F then wrong .notText span else .ok c

/-- A character among others: it must be of ASCII where octets count. -/
def member (s : Setting) (l : Literal) : Except Mistake Char := do
  let c ← s.literal l.span l.char l.isOctet
  if s.repertoire = .ascii && c.toNat > 0x7F then wrong .scriptsExcluded l.span
  return c

def dot (s : Setting) (span : Span) : Except Mistake CharSet :=
  if s.repertoire = .ascii then wrong .notText span
  else if s.dotAll then .ok .full
  else if s.carriageReturns then .ok (CharSet.ofText "A D").complement
  else .ok (CharSet.single '\n').complement

def assertion (s : Setting) : Sign → Assertion
  | .lineStart =>
    if !s.multiLine then .textStart else if s.carriageReturns then .returnStart else .lineStart
  | .lineEnd =>
    if !s.multiLine then .textEnd else if s.carriageReturns then .returnEnd else .lineEnd
  | .textStart => .textStart
  | .textEnd => .textEnd
  | .boundary b => .boundary b (s.repertoire ≠ .scripts)

end Setting

/-! ### Brackets -/

def Operation.apply : Operation → CharSet → CharSet → CharSet
  | .intersection, a, b => a.intersection b
  | .difference, a, b => a.difference b
  | .symmetricDifference, a, b => a.symmetricDifference b

mutual

/-- The characters that stand inside brackets. -/
def Member.meaning (s : Setting) : Member → Except Mistake CharSet
  | .none _ => .ok .empty
  | .literal l => (s.member l).map .single
  | .range _ first last => do
    let first ← s.member first
    let last ← s.member last
    return .range first last
  | .named span set isNegated => s.negate span isNegated (s.fold set)
  | .shorthand span c isNegated => s.negate span isNegated (s.shorthand c)
  | .property span q isNegated => s.property span q isNegated
  | .several _ members => Member.meanings s members
  | .bracket span isNegated inside => do
    let set ← inside.meaning s
    s.negate span isNegated (s.fold set)
  | .operation _ o a b => do
    let a ← a.meaning s
    let b ← b.meaning s
    return o.apply (s.fold a) (s.fold b)

def Member.meanings (s : Setting) : List Member → Except Mistake CharSet
  | [] => .ok .empty
  | m :: ms => do
    let first ← m.meaning s
    let others ← Member.meanings s ms
    return first.union others

end

/-! ### Trees -/

def Atom.meaning (s : Setting) (span : Span) : Atom → Except Mistake Pattern
  | .literal c isOctet => do
    let c ← s.literal span c isOctet
    return .one (s.fold (.single c))
  | .dot => (s.dot span).map .one
  | .sign mark => .ok (.assertion (s.assertion mark))
  | .shorthand c isNegated => (s.negate span isNegated (s.shorthand c)).map .one
  | .property q isNegated => (s.property span q isNegated).map .one

mutual

/-- What a part describes, and the setting behind it. -/
def Tree.meaning (s : Setting) : Tree → Except Mistake (Pattern × Setting)
  | .empty => .ok (.empty, s)
  | .flags f => .ok (.empty, s.setAll f)
  | .atom span a => (a.meaning s span).map fun p => (p, s)
  | .bracket m => (m.meaning s).map fun set => (.one set, s)
  | .repetition _ least most t => do
    let (p, after) ← t.meaning s
    return (p.times least most, after)
  | .group _ .captured t => do
    let (p, _) ← t.meaning s
    return (.captured p, s)
  | .group _ (.plain f) t => do
    let (p, _) ← t.meaning (s.setAll f)
    return (p, s)
  | .alternation _ ts => do
    let (ps, after) ← Tree.meanings s ts
    return (oneOf ps, after)
  | .sequence _ ts => do
    let (ps, after) ← Tree.meanings s ts
    return (concat ps, after)

/-- What several parts describe, one after the other. -/
def Tree.meanings (s : Setting) : List Tree → Except Mistake (List Pattern × Setting)
  | [] => .ok ([], s)
  | t :: ts => do
    let (p, after) ← t.meaning s
    let (ps, after) ← Tree.meanings after ts
    return (p :: ps, after)

end

end DetectionMerge.Pattern
