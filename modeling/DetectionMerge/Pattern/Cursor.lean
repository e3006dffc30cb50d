import DetectionMerge.Pattern.Mistake
import DetectionMerge.Text.Blank

/-! Where a reader stands in the text of a pattern. -/

namespace DetectionMerge.Pattern

/-- A place in the text of a pattern, with what follows it. -/
structure Cursor where
  place : Nat
  rest : List Char
  /-- Whether blanks and comments are left out. -/
  isSpaced : Bool
  deriving DecidableEq, Repr

namespace Cursor

def here (c : Cursor) : Span := ⟨c.place, c.place⟩

def one (c : Cursor) : Span := ⟨c.place, c.place + 1⟩

def next (c : Cursor) : Cursor :=
  match c.rest with
  | [] => c
  | _ :: rest => { c with place := c.place + 1, rest := rest }

def advance (c : Cursor) (n : Nat) : Cursor :=
  { c with place := c.place + n, rest := c.rest.drop n }

/-- The number of characters that blanks and comments take at the beginning of a
text, or behind the beginning of a comment. -/
def blankLength (inComment : Bool) : List Char → Nat
  | [] => 0
  | c :: rest =>
    if inComment then blankLength (c ≠ '\n') rest + 1
    else if Text.isBlank c then blankLength false rest + 1
    else if c = '#' then blankLength true rest + 1
    else 0

/-- Beyond blanks and comments, where these are left out. -/
def skip (c : Cursor) : Cursor := if c.isSpaced then c.advance (blankLength false c.rest) else c

/-- One character on, and beyond blanks and comments. -/
def step (c : Cursor) : Cursor := c.next.skip

/-- Beyond blanks, whether these are left out or not. -/
def skipBlanks (c : Cursor) : Cursor := c.advance (c.rest.takeWhile Text.isBlank).length

/-- The characters up to the first that fails a test, blanks and comments left
out. As many steps are taken as there are characters. -/
def takeWhile (p : Char → Bool) (c : Cursor) : List Char × Cursor :=
  go c.rest.length c
where
  go : Nat → Cursor → List Char × Cursor
    | 0, c => ([], c)
    | n + 1, c =>
      match c.rest with
      | d :: _ =>
        if p d then
          let (ds, c) := go n c.step
          (d :: ds, c)
        else ([], c)
      | [] => ([], c)

/-- The first character that is no blank and begins no comment, from inside a
comment or not. What a comment says is not left out here. -/
def firstSolid? (inComment : Bool) : List Char → Option Char
  | [] => none
  | c :: rest =>
    if Text.isBlank c then firstSolid? inComment rest
    else if !inComment && c = '#' then firstSolid? true rest
    else some c

/-- The character behind the one at the cursor. Where blanks are left out it is
one behind them, if there is one. -/
def ahead? (c : Cursor) : Option Char :=
  let after := c.rest.tail
  if c.isSpaced then (firstSolid? false after).or after.head? else after.head?

end Cursor

end DetectionMerge.Pattern
