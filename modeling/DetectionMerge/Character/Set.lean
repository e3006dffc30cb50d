import DetectionMerge.Text.Ranges
import DetectionMerge.Text.Split

/-! Sets of characters, kept as ranges of code points in ascending order. Texts
that list code points describe the sets of a standard. -/

namespace DetectionMerge

/-- A set of characters: the ranges of their code points in ascending order,
with gaps between them. -/
structure CharSet where
  ranges : List Text.CodeRange
  deriving DecidableEq, Repr

namespace CharSet

/-! ### From ranges -/

def lastCode : Nat := 0x10FFFF

/-- The parts of a range that hold characters: code points from D800 to DFFF
stand for none. -/
def characterParts (r : Text.CodeRange) : List Text.CodeRange :=
  [(r.1, min r.2 0xD7FF), (max r.1 0xE000, min r.2 lastCode)].filter fun r => r.1 ≤ r.2

/-- Ranges in the order of their beginnings, with those joined that leave no gap
between them. -/
def join : List Text.CodeRange → List Text.CodeRange
  | [] => []
  | [r] => [r]
  | r :: s :: rest =>
    if s.1 ≤ r.2 + 1 then join ((r.1, max r.2 s.2) :: rest) else r :: join (s :: rest)
termination_by rs => rs.length

/-- The characters with code points in some ranges. -/
def ofRanges (ranges : List Text.CodeRange) : CharSet where
  ranges := join ((ranges.flatMap characterParts).mergeSort fun r s => r.1 ≤ s.1)

def empty : CharSet := ⟨[]⟩

def full : CharSet := ofRanges [(0, lastCode)]

def range (first last : Char) : CharSet := ofRanges [(first.toNat, last.toNat)]

def single (c : Char) : CharSet := ⟨[(c.toNat, c.toNat)]⟩

def ascii : CharSet := ⟨[(0, 0x7F)]⟩

/-! ### Membership -/

def contains (s : CharSet) (c : Char) : Bool := Text.inRanges s.ranges c

def only? (s : CharSet) : Option Char :=
  match s.ranges with
  | [(first, last)] => if first = last then some (Char.ofNat first) else none
  | _ => none

def isAscii (s : CharSet) : Bool := s.ranges.all fun r => r.2 ≤ 0x7F

/-! ### Operations -/

def union (a b : CharSet) : CharSet := ofRanges (a.ranges ++ b.ranges)

def unions (sets : List CharSet) : CharSet := ofRanges (sets.flatMap (·.ranges))

/-- The code points from one on that are in none of some ascending ranges. -/
def gaps (first : Nat) : List Text.CodeRange → List Text.CodeRange
  | [] => if first ≤ lastCode then [(first, lastCode)] else []
  | r :: rest =>
    if first < r.1 then (first, r.1 - 1) :: gaps (r.2 + 1) rest else gaps (r.2 + 1) rest

def complement (a : CharSet) : CharSet := ofRanges (gaps 0 a.ranges)

def intersection (a b : CharSet) : CharSet := (a.complement.union b.complement).complement

def difference (a b : CharSet) : CharSet := (a.complement.union b).complement

def symmetricDifference (a b : CharSet) : CharSet := (a.difference b).union (b.difference a)

/-! ### From a text -/

/-- The number that hexadecimal digits with capital letters write. -/
def codeOf (digits : List Char) : Nat :=
  digits.foldl (fun n c => 16 * n + (if c.isDigit then c.toNat - 48 else c.toNat - 55)) 0

/-- The words of a text between spaces and line feeds. -/
def wordsOf (text : String) : List (List Char) :=
  ((Text.splitAt '\n' text.toList).flatMap (Text.splitAt ' ')).filter (· ≠ [])

/-- The ranges that a word stands for: `61` is a code point, `41-5A` a range, and
`100-12E/2` every second code point of a range. -/
def rangesOf (word : List Char) : List Text.CodeRange :=
  match (Text.splitAt '/' word).map (Text.splitAt '-') with
  | [[first]] => [(codeOf first, codeOf first)]
  | [[first, last]] => [(codeOf first, codeOf last)]
  | [[first, last], [step]] =>
    let (first, last, step) := (codeOf first, codeOf last, codeOf step)
    (List.range ((last - first) / step + 1)).map fun i => (first + i * step, first + i * step)
  | _ => []

def ofText (text : String) : CharSet := ofRanges ((wordsOf text).flatMap rangesOf)

end CharSet

end DetectionMerge
