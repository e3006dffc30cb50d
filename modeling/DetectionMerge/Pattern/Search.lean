import DetectionMerge.Pattern.Basic

/-! Where a pattern occurs in a text. For each place it is found once to which
places the pattern leads from there, for parts before wholes, so that searching
needs no choice and no return. -/

namespace DetectionMerge

/-! ### Sets of places -/

/-- A set of places in a text, as the number with their bits. -/
abbrev Places := Nat

namespace Places

def single (i : Nat) : Places := 1 <<< i

/-- The last one of some places, of which there is one. -/
def last (s : Places) : Nat := Nat.log2 s

/-- The first one of some places, of which there is one. -/
def first (s : Places) : Nat := Nat.log2 (s ^^^ (s &&& (s - 1)))

/-- The places in order, of which there are at most so many. -/
def toList (s : Places) : Nat → List Nat
  | 0 => []
  | n + 1 => if s = 0 then [] else first s :: toList (s &&& (s - 1)) n

end Places

/-! ### Ways through a text -/

/-- Where one can get from each place of a text. No way leads back. -/
structure Reach where
  rows : Array Places
  deriving DecidableEq, Repr

namespace Reach

def row (r : Reach) (i : Nat) : Places := r.rows[i]?.getD 0

def leads (r : Reach) (i j : Nat) : Bool := (r.row i).testBit j

def furthest? (r : Reach) (i : Nat) : Option Nat :=
  if r.row i = 0 then none else some (Places.last (r.row i))

def nearest? (r : Reach) (i : Nat) : Option Nat :=
  if r.row i = 0 then none else some (Places.first (r.row i))

def ends (r : Reach) (i : Nat) : List Nat := Places.toList (r.row i) r.rows.size

def isPossible (r : Reach) : Bool := r.rows.any (· ≠ 0)

def tabulate (count : Nat) (f : Nat → Places) : Reach := ⟨(Array.range count).map f⟩

/-- From each place to itself, if something holds there. -/
def stay (count : Nat) (holds : Nat → Bool) : Reach :=
  tabulate count fun i => if holds i then .single i else 0

/-- All that some places lead to, of which there are at most so many. -/
def image (r : Reach) (s : Places) : Nat → Places
  | 0 => 0
  | n + 1 => if s = 0 then 0 else r.row (Places.first s) ||| image r (s &&& (s - 1)) n

/-- One way and then another. -/
def compose (a b : Reach) : Reach := ⟨a.rows.map fun s => b.image s a.rows.size⟩

/-- One way or another. -/
def either (a b : Reach) : Reach := ⟨a.rows.mapIdx fun i s => s ||| b.row i⟩

def power (r : Reach) (n : Nat) : Reach :=
  if n = 0 then stay r.rows.size fun _ => true
  else if n = 1 then r
  else
    let half := power r (n / 2)
    if n % 2 = 0 then half.compose half else (half.compose half).compose r
termination_by n

/-- The places that some places lead to in any number of steps, together with
others, if the steps behind them are known: these are listed for the places from
a number on. A place that is known already leads nowhere else. -/
def gather (known : List Places) (base : Nat) (found s : Places) : Nat → Places
  | 0 => found
  | n + 1 =>
    let new := s ^^^ (s &&& found)
    if new = 0 then found
    else gather known base (found ||| (known[Places.first new - base]?).getD 0) new n

/-- A way any number of times. As no way leads back, the places are gone through
from the last one on. -/
def closure (r : Reach) : Reach :=
  let rows := r.rows.foldr (fun s (known : List Places × Nat) =>
    let i := known.2 - 1
    (gather known.1 known.2 (.single i) s r.rows.size :: known.1, i)) ([], r.rows.size)
  ⟨rows.1.toArray⟩

end Reach

/-! ### Occurrences -/

namespace Pattern

/-- The places between which a pattern describes a text. A text of `n` characters
has `n + 1` places, so that more repetitions than these lead nowhere else. -/
def reach (text : Array Char) : Pattern → Reach
  | .empty => .stay (text.size + 1) fun _ => true
  | .one s =>
    .tabulate (text.size + 1) fun i => if text[i]?.any s.contains then .single (i + 1) else 0
  | .assertion a =>
    .stay (text.size + 1) fun i => a.holds (if i = 0 then none else text[i - 1]?) text[i]?
  | .sequence a b => (reach text a).compose (reach text b)
  | .either a b => (reach text a).either (reach text b)
  | .captured p => reach text p
  | .repeated p least most =>
    let once := reach text p
    let enough := text.size + 1
    let further := match most with
      | none => once.closure
      | some most =>
        let maybe := once.either (.stay (text.size + 1) fun _ => true)
        if most - least ≥ enough then once.closure else maybe.power (most - least)
    if least = 0 then further else (once.power (min least enough)).compose further

def occursIn (p : Pattern) (text : List Char) : Bool := (p.reach text.toArray).isPossible

end Pattern

end DetectionMerge
