import DetectionMerge.Pattern.Basic

/-! How large a machine is that looks for a pattern one octet at a time, forwards
or backwards. A machine has states of a fixed size, and more for each way out of
a state that has several. Patterns whose machines would be too large are not
used. -/

namespace DetectionMerge

/-! ### Characters in octets -/

namespace Utf8Ranges

abbrev OctetRange := Nat × Nat

def octets (code : Nat) : List Nat := (String.utf8EncodeChar (Char.ofNat code)).map UInt8.toNat

/-- Where a range of code points has to be cut, so that the octets of its
characters are independent of each other: between characters of different
lengths, and where more than the last octets change. The second part begins
there. -/
def cut? (first last : Nat) : Option Nat :=
  let byLength := [0x7F, 0x7FF, 0xFFFF].find? fun most => first ≤ most && most < last
  let byOctet := [64, 64 * 64, 64 * 64 * 64].findSome? fun unit =>
    if first / unit = last / unit then none
    else if first % unit ≠ 0 then some ((first / unit + 1) * unit)
    else if last % unit ≠ unit - 1 then some (last / unit * unit)
    else none
  match byLength with
  | some most => some (most + 1)
  | none => if last ≤ 0x7F then none else byOctet

/-- The sequences of octets of a range of code points, as ranges for each octet,
in so many cuts. -/
def sequences : Nat → Nat → Nat → List (List OctetRange)
  | 0, first, last => [(octets first).zip (octets last)]
  | fuel + 1, first, last =>
    match cut? first last with
    | some middle => sequences fuel first (middle - 1) ++ sequences fuel middle last
    | none => [(octets first).zip (octets last)]

/-- The sequences of octets of a set of characters. -/
def ofSet (s : CharSet) : List (List OctetRange) :=
  s.ranges.flatMap fun r => sequences 12 r.1 r.2

end Utf8Ranges

namespace Pattern

/-! ### States -/

def stateSize : Nat := 32

/-- What a way out adds to a state that chooses without reading. -/
def branchSize : Nat := 4

/-- What a way out adds to a state that chooses by an octet. -/
def readSize : Nat := 8

/-! ### Sets -/

/-- A state that chooses by an octet: the ranges with the numbers of the states
that they lead to. -/
abbrev Choice := List (Utf8Ranges.OctetRange × Nat)

/-- The number of a state among the ones that are known, of which it is one in
the end. Equal states are one. -/
def numberOf (known : Array Choice) (choice : Choice) : Nat × Array Choice :=
  match known.findIdx? (· == choice) with
  | some i => (i + 1, known)
  | none => (known.size + 1, known.push choice)

/-- Sequences by their first ranges, which stand together in order. -/
def byFirst : List (List Utf8Ranges.OctetRange) →
    List (Utf8Ranges.OctetRange × List (List Utf8Ranges.OctetRange))
  | [] => []
  | [] :: rest => byFirst rest
  | (r :: rs) :: rest =>
    match byFirst rest with
    | (s, group) :: groups =>
      if r = s then (s, rs :: group) :: groups else (r, [rs]) :: (s, group) :: groups
    | [] => [(r, [rs])]

/-- The state that reads some sequences, and the states that are known then. No
sequence has more than so many octets. The state behind them has the number
zero. -/
def stateOf : Nat → Array Choice → List (List Utf8Ranges.OctetRange) → Nat × Array Choice
  | 0, known, _ => (0, known)
  | length + 1, known, sequences =>
    match byFirst sequences with
    | [] => (0, known)
    | groups =>
      let (choice, known) := groups.foldl (fun (found : Choice × Array Choice) (r, group) =>
        let (n, known) := stateOf length found.2 group
        (found.1 ++ [(r, n)], known)) ([], known)
      numberOf known choice

/-- The number of the first ranges that two sequences share. -/
def shared : List Utf8Ranges.OctetRange → List Utf8Ranges.OctetRange → Nat
  | r :: rs, s :: ss => if r = s then shared rs ss + 1 else 0
  | _, _ => 0

/-- The number of the beginnings that some sequences have, each counted once.
Sequences with the same beginning stand together. -/
def beginnings (sequences : List (List Utf8Ranges.OctetRange)) : Nat :=
  (sequences.foldl (fun (found : Nat × List Utf8Ranges.OctetRange) s =>
    (found.1 + s.length - shared found.2 s, s)) (0, [])).1

def setSize (backwards : Bool) (s : CharSet) : Nat :=
  match s.only? with
  | some c => stateSize * c.utf8Size
  | none =>
    if s.ranges = [] then stateSize
    else if s.isAscii then 2 * stateSize + readSize * s.ranges.length
    else
      let sequences := Utf8Ranges.ofSet s
      if backwards then
        2 * stateSize + branchSize * sequences.length + stateSize * beginnings sequences
      else
        let states := (stateOf 4 #[] sequences).2
        states.foldl (fun size choice => size + stateSize + readSize * choice.length) stateSize

/-! ### Words -/

def word? : Pattern → Option (List Char)
  | .one s => s.only?.map fun c => [c]
  | .sequence a b => do return (← word? a) ++ (← word? b)
  | _ => none

def words? : Pattern → Option (List (List Char))
  | .either a b => do return (← words? a) ++ (← words? b)
  | p => (word? p).map fun w => [w]

/-- The size of what reads one of some words, which share their beginnings: the
parts behind the same octet are read from one state. No word has more than so
many octets. -/
def wordsSize : Nat → List (List UInt8) → Nat
  | 0, _ => 0
  | length + 1, words =>
    let words := words.filter (· ≠ [])
    let heads := (words.filterMap List.head?).eraseDups
    if heads = [] then 0
    else
      let choices := if heads.length = 1 then 0 else readSize * heads.length
      heads.foldl (fun size b =>
        size + wordsSize length ((words.filter (·.head? = some b)).map List.tail))
        (stateSize + choices)

/-! ### Patterns -/

/-- Whether a pattern surely takes a character. -/
def takesCharacter : Pattern → Bool
  | .empty | .assertion _ => false
  | .one s => s.ranges ≠ []
  | .sequence a b => a.takesCharacter || b.takesCharacter
  | .either a b => a.takesCharacter && b.takesCharacter
  | .repeated p least _ => least > 0 && p.takesCharacter
  | .captured p => p.takesCharacter

def repeatedSize (size : Nat) (takesCharacter : Bool) (least : Nat) : Option Nat → Nat
  | none =>
    let branch := stateSize + 2 * branchSize
    if least = 0 then
      if takesCharacter then size + branch else size + 2 * branch + stateSize
    else least * size + branch
  | some most =>
    let branch := stateSize + 2 * branchSize
    if least = most then least * size
    else if least = 0 ∧ most = 1 then size + branch + stateSize
    else
      (if least = 0 then stateSize else least * size) + stateSize +
        (most - least) * (size + branch)

/-- The size of what looks for a pattern in one direction. A pattern that is one
of several takes a way out of the state before them. -/
def sizeAs (backwards isBranch : Bool) : Pattern → Nat
  | .either a b =>
    if isBranch then a.sizeAs backwards true + b.sizeAs backwards true
    else
      match words? (.either a b) with
      | some words =>
        let octets := words.map fun w =>
          let octets := w.flatMap String.utf8EncodeChar
          if backwards then octets.reverse else octets
        stateSize + wordsSize ((octets.map List.length).foldl max 0) octets
      | none => 2 * stateSize + a.sizeAs backwards true + b.sizeAs backwards true
  | .empty | .assertion _ => stateSize + cost
  | .one s => setSize backwards s + cost
  | .sequence a b => a.sizeAs backwards false + b.sizeAs backwards false + cost
  | .repeated p least most =>
    repeatedSize (p.sizeAs backwards false) p.takesCharacter least most + cost
  | .captured p => p.sizeAs backwards false + (if backwards then 0 else 2 * stateSize) + cost
where
  cost : Nat := if isBranch then branchSize else 0

def sizeLimit : Nat := 10485760

/-- The size of what looks for a pattern anywhere in a text and marks where it
occurs. -/
def size (backwards : Bool) (p : Pattern) : Nat :=
  let start := 3 * stateSize + 2 * branchSize + readSize
  let marks := if backwards then stateSize else 3 * stateSize
  start + p.sizeAs backwards false + marks

def fits (p : Pattern) : Bool := p.size false ≤ sizeLimit && p.size true ≤ sizeLimit

end Pattern

end DetectionMerge
