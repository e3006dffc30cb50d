import DetectionMerge.Character.Property

/-! The syntax of patterns: what the text of a pattern consists of, each part with
its place in the text. -/

namespace DetectionMerge.Pattern

/-- A part of a text between two places. A place is given by the number of
characters before it. -/
structure Span where
  start : Nat
  stop : Nat
  deriving DecidableEq, Repr

/-! ### Atoms -/

/-- A class of characters with a letter of its own. -/
inductive Shorthand
  | digit | blank | word
  deriving DecidableEq, Repr

/-- What can be said of the characters of words around a place. -/
inductive Boundary
  /-- On exactly one side. -/
  | edge
  /-- On both sides or on none. -/
  | inner
  | start | stop
  /-- None before the place. -/
  | startHalf
  /-- None after the place. -/
  | stopHalf
  deriving DecidableEq, Repr

inductive Sign
  | lineStart | lineEnd | textStart | textEnd
  | boundary (b : Boundary)
  deriving DecidableEq, Repr

/-- A character in the text of a pattern, written as it is or as an escape. -/
structure Literal where
  span : Span
  char : Char
  /-- Whether it is written as an octet, with just two digits. -/
  isOctet : Bool := false
  deriving DecidableEq, Repr

/-- What a character outside brackets or an escape stands for. -/
inductive Atom
  | literal (char : Char) (isOctet : Bool)
  | dot
  | sign (s : Sign)
  | shorthand (s : Shorthand) (isNegated : Bool)
  | property (q : Property.Query) (isNegated : Bool)
  deriving DecidableEq, Repr

/-! ### Sets in brackets -/

inductive Operation
  | intersection | difference | symmetricDifference
  deriving DecidableEq, Repr

/-- What stands inside brackets. -/
inductive Member
  | none (span : Span)
  | literal (l : Literal)
  | range (span : Span) (first last : Literal)
  /-- A class of ASCII characters under a name. -/
  | named (span : Span) (s : CharSet) (isNegated : Bool)
  | shorthand (span : Span) (s : Shorthand) (isNegated : Bool)
  | property (span : Span) (q : Property.Query) (isNegated : Bool)
  | several (span : Span) (members : List Member)
  | bracket (span : Span) (isNegated : Bool) (inside : Member)
  | operation (span : Span) (o : Operation) (a b : Member)

def Member.span : Member → Span
  | .literal l => l.span
  | .none span | .range span .. | .named span .. | .shorthand span .. | .property span ..
  | .several span _ | .bracket span .. | .operation span .. => span

/-! ### Trees -/

/-- A switch for the meaning of what follows. -/
inductive Flag
  | anyCase | multiLine | dotAll | carriageReturns
  /-- Digits, blanks and words of all scripts. -/
  | allScripts
  /-- Blanks and comments are left out. -/
  | spaced
  /-- Repetitions are as few as they can be; occurrences do not depend on it. -/
  | fewest
  deriving DecidableEq, Repr

/-- Switches, each with whether it is set. -/
abbrev Flags := List (Flag × Bool)

/-- What a pair of parentheses is for. -/
inductive GroupKind
  | captured
  | plain (flags : Flags)
  deriving DecidableEq, Repr

inductive Tree
  | empty
  | flags (f : Flags)
  | atom (span : Span) (a : Atom)
  | bracket (m : Member)
  | repetition (span : Span) (least : Nat) (most : Option Nat) (t : Tree)
  | group (span : Span) (kind : GroupKind) (t : Tree)
  | alternation (span : Span) (ts : List Tree)
  | sequence (span : Span) (ts : List Tree)

namespace Tree

/-- The place where a part that can be repeated starts. -/
def start : Tree → Nat
  | .atom span _ | .repetition span .. | .group span .. | .alternation span _
  | .sequence span _ => span.start
  | .bracket m => m.span.start
  | .empty | .flags _ => 0

def isRepeatable : Tree → Bool
  | .empty | .flags _ => false
  | _ => true

def ofItems (span : Span) : List Tree → Tree
  | [] => .empty
  | [t] => t
  | ts => .sequence span ts

end Tree

end DetectionMerge.Pattern
