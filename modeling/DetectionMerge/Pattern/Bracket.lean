import DetectionMerge.Pattern.Escape

/-! Sets in brackets: members, ranges, sets inside sets, and operations between
them, which all bind alike and from the left. -/

namespace DetectionMerge.Pattern

/-! ### Named classes -/

def namedClass? (name : String) : Option CharSet :=
  codes.map CharSet.ofText
where
  codes : Option String :=
    match name with
    | "alnum" => some "30-39 41-5A 61-7A"
    | "alpha" => some "41-5A 61-7A"
    | "ascii" => some "0-7F"
    | "blank" => some "9 20"
    | "cntrl" => some "0-1F 7F"
    | "digit" => some "30-39"
    | "graph" => some "21-7E"
    | "lower" => some "61-7A"
    | "print" => some "20-7E"
    | "punct" => some "21-2F 3A-40 5B-60 7B-7E"
    | "space" => some "9-D 20"
    | "upper" => some "41-5A"
    | "word" => some "30-39 41-5A 5F 61-7A"
    | "xdigit" => some "30-39 41-46 61-66"
    | _ => none

/-- A named class between colons, from its opening bracket on. -/
def readNamedClass (c : Cursor) : Option (Member × Cursor) :=
  match c.rest with
  | '[' :: ':' :: rest =>
    let isNegated := rest.head? = some '^'
    let inside := if isNegated then rest.tail else rest
    let name := inside.takeWhile (· ≠ ':')
    let length := name.length + (if isNegated then 5 else 4)
    match inside.drop name.length with
    | ':' :: ']' :: _ =>
      (namedClass? (String.ofList name)).map fun s =>
        (.named ⟨c.place, c.place + length⟩ s isNegated, c.advance length)
    | _ => none
  | _ => none

/-! ### Members and ranges -/

def memberOf (span : Span) : Atom → Except Mistake Member
  | .literal d isOctet => .ok (.literal ⟨span, d, isOctet⟩)
  | .shorthand s isNegated => .ok (.shorthand span s isNegated)
  | .property q isNegated => .ok (.property span q isNegated)
  | .dot | .sign _ => wrong .classEscapeInvalid span

/-- A character or an escape as an end of a range. -/
def boundOf (span : Span) : Atom → Except Mistake Literal
  | .literal d isOctet => .ok ⟨span, d, isOctet⟩
  | _ => wrong .classRangeLiteral span

/-- A character or an escape, of which there must be one. -/
def readUnit (c : Cursor) : Except Mistake (Span × Atom × Cursor) :=
  match c.rest with
  | '\\' :: _ => readEscape c
  | d :: _ => .ok (c.one, .literal d false, c.next)
  | [] => wrong .classUnclosed c.here

/-- A member or a range of members. The span is that of the bracket. -/
def readRange (bracket : Span) (c : Cursor) : Except Mistake (Member × Cursor) := do
  let (span, first, behind) ← readUnit c
  let c := behind.skip
  match c.rest with
  | [] => wrong .classUnclosed bracket
  | '-' :: _ =>
    if c.ahead? ∈ [some ']', some '-'] then
      return (← memberOf span first, c)
    let c := c.step
    if c.rest = [] then wrong .classUnclosed bracket
    let (lastSpan, last, left) ← readUnit c
    let whole : Span := ⟨span.start, lastSpan.stop⟩
    let low ← boundOf span first
    let high ← boundOf lastSpan last
    if low.char ≤ high.char then return (.range whole low high, left)
    else wrong .classRangeInvalid whole
  | _ => return (← memberOf span first, c)

/-! ### Brackets -/

/-- What has been read of a set in brackets. -/
structure Bracket where
  /-- The opening bracket with all that can only stand at the beginning. -/
  opening : Span
  isNegated : Bool
  /-- An operation, with what precedes it. -/
  pending : Option (Operation × Member) := none
  /-- Where the members behind the operation start. -/
  start : Nat
  /-- These members backwards. -/
  members : List Member := []

namespace Bracket

def push (b : Bracket) (m : Member) : Bracket := { b with members := m :: b.members }

def union (b : Bracket) : Member :=
  match b.members with
  | [] => .none ⟨b.start, b.start⟩
  | [m] => m
  | m :: ms =>
    let all := (m :: ms).reverse
    .several ⟨(all.head?.getD m).span.start, m.span.stop⟩ all

def inside (b : Bracket) : Member :=
  match b.pending with
  | none => b.union
  | some (o, a) => .operation ⟨a.span.start, b.union.span.stop⟩ o a b.union

def operate (b : Bracket) (o : Operation) (place : Nat) : Bracket :=
  { b with pending := some (o, b.inside), start := place, members := [] }

def close (b : Bracket) (place : Nat) : Member :=
  .bracket ⟨b.opening.start, place⟩ b.isNegated b.inside

end Bracket

/-- Hyphens at the beginning of a set, which are members, up to the first other
character. -/
def readHyphens (bracket : Nat) : Nat → Bracket → Cursor → Except Mistake (Bracket × Cursor)
  | 0, b, c => .ok (b, c)
  | n + 1, b, c =>
    if c.rest.head? = some '-' then
      let left := c.step
      if left.rest = [] then wrong .classUnclosed ⟨bracket, bracket⟩
      else readHyphens bracket n (b.push (.literal ⟨c.one, '-', false⟩)) left
    else .ok (b, c)

/-- The beginning of a set, from its opening bracket on. A closing bracket there
is a member. -/
def openBracket (c : Cursor) : Except Mistake (Bracket × Cursor) := do
  let unclosed {α : Type} (left : Cursor) : Except Mistake α :=
    wrong .classUnclosed ⟨c.place, left.place⟩
  let inside := c.step
  let isNegated := inside.rest.head? = some '^'
  if inside.rest = [] then unclosed inside
  let inside := if isNegated then inside.step else inside
  if inside.rest = [] then unclosed inside
  let b : Bracket := { opening := c.here, isNegated, start := inside.place }
  let (b, left) ← readHyphens c.place inside.rest.length b inside
  let finish (b : Bracket) (left : Cursor) : Bracket :=
    { b with opening := ⟨c.place, left.place⟩ }
  if b.members.isEmpty && left.rest.head? = some ']' then
    let behind := left.step
    if behind.rest = [] then unclosed behind
    return (finish (b.push (.literal ⟨left.one, ']', false⟩)) behind, behind)
  return (finish b left, left)

/-- An operation between sets, written twice. -/
def operation? : List Char → Option Operation
  | '&' :: '&' :: _ => some .intersection
  | '-' :: '-' :: _ => some .difference
  | '~' :: '~' :: _ => some .symmetricDifference
  | _ => none

/-- The members of a set up to its closing bracket, inside sets around it. Every
step takes a character. -/
def readMembers : Nat → Bracket → List Bracket → Cursor → Except Mistake (Member × Cursor)
  | 0, b, _, _ => wrong .classUnclosed b.opening
  | fuel + 1, b, outer, c =>
    let c := c.skip
    match c.rest with
    | [] => wrong .classUnclosed b.opening
    | ']' :: _ =>
      let left := c.next
      match outer with
      | [] => .ok (b.close left.place, left)
      | o :: outer => readMembers fuel (o.push (b.close left.place)) outer left
    | '[' :: _ =>
      match readNamedClass c with
      | some (m, left) => readMembers fuel (b.push m) outer left
      | none => do
        let (inner, left) ← openBracket c
        readMembers fuel inner (b :: outer) left
    | rest =>
      match operation? rest with
      | some o =>
        let left := c.advance 2
        readMembers fuel (b.operate o left.place) outer left
      | none => do
        let (m, left) ← readRange b.opening c
        readMembers fuel (b.push m) outer left

def readBracket (c : Cursor) : Except Mistake (Member × Cursor) := do
  let (b, left) ← openBracket c
  readMembers (left.rest.length + 1) b [] left

end DetectionMerge.Pattern
