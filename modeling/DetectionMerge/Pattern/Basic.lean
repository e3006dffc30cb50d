import DetectionMerge.Character.Fold
import DetectionMerge.Pattern.Syntax
import DetectionMerge.Text.Digit
import DetectionMerge.Text.Word

/-! Patterns of text: regular expressions with assertions about the place
between two characters. -/

namespace DetectionMerge

/-- What can be said of a place between two characters. -/
inductive Assertion
  | textStart | textEnd
  | lineStart | lineEnd
  /-- The same with carriage returns that end lines. -/
  | returnStart | returnEnd
  /-- About words of all scripts, or of ASCII only. -/
  | boundary (b : Pattern.Boundary) (isAscii : Bool)
  deriving DecidableEq, Repr

def isAsciiWord (c : Char) : Bool := c.isAlphanum || c = '_'

/-- Whether an assertion holds between two characters, which are missing at the
ends of the text. -/
def Assertion.holds (a : Assertion) (before after : Option Char) : Bool :=
  match a with
  | .textStart => before.isNone
  | .textEnd => after.isNone
  | .lineStart => before.isNone || before = some '\n'
  | .lineEnd => after.isNone || after = some '\n'
  | .returnStart =>
    before.isNone || before = some '\n' || (before = some '\r' && after ≠ some '\n')
  | .returnEnd => after.isNone || after = some '\r' || (after = some '\n' && before ≠ some '\r')
  | .boundary b isAscii =>
    let inWord (c : Option Char) : Bool := c.any (if isAscii then isAsciiWord else Text.isWord)
    match b with
    | .edge => inWord before != inWord after
    | .inner => inWord before == inWord after
    | .start => !inWord before && inWord after
    | .stop => inWord before && !inWord after
    | .startHalf => !inWord before
    | .stopHalf => !inWord after

inductive Pattern
  | empty
  | one (s : CharSet)
  | assertion (a : Assertion)
  | sequence (a b : Pattern)
  | either (a b : Pattern)
  /-- At least so often, and at most so often if there is a limit. -/
  | repeated (p : Pattern) (least : Nat) (most : Option Nat)
  /-- A group whose place counts in an occurrence. -/
  | captured (p : Pattern)
  deriving DecidableEq, Repr

namespace Pattern

def never : Pattern := .one .empty

def anything : Pattern := .one .full

def char (c : Char) : Pattern := .one (.single c)

def append : Pattern → Pattern → Pattern
  | .empty, p => p
  | p, .empty => p
  | p, q => .sequence p q

def concat (ps : List Pattern) : Pattern := ps.foldr append .empty

/-- The set of a pattern that describes single characters. -/
def characters? : Pattern → Option CharSet
  | .one s => some s
  | _ => none

/-- One of some patterns. Single characters make a set. -/
def oneOf (ps : List Pattern) : Pattern :=
  match ps.mapM characters? with
  | some sets => if sets = [] then never else .one (.unions sets)
  | none => ps.dropLast.foldr .either (ps.getLast?.getD never)

/-- Whether a pattern describes the empty text only, whatever stands around it.
A repetition without a limit counts as longer. -/
def isWidthless : Pattern → Bool
  | .empty | .assertion _ => true
  | .one _ => false
  | .sequence a b | .either a b => a.isWidthless && b.isWidthless
  | .repeated p _ most => most = some 0 || (most.isSome && p.isWidthless)
  | .captured p => p.isWidthless

/-- A pattern repeated. What has no width need not be repeated more than once. -/
def times (p : Pattern) (least : Nat) (most : Option Nat) : Pattern :=
  let bound (n : Nat) : Nat := if p.isWidthless then min n 1 else n
  match bound least, most.map bound with
  | 0, some 0 => .empty
  | 1, some 1 => p
  | least, most => .repeated p least most

end Pattern

end DetectionMerge
