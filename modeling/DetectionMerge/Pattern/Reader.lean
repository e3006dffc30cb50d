import DetectionMerge.Pattern.Bracket

/-! Reading the text of a pattern: items, repetitions, alternatives and groups.
Groups that are open are kept in a list, so that reading is one loop over the
text. -/

namespace DetectionMerge.Pattern

/-! ### Flags -/

def Flag.named? : Char → Option Flag
  | 'i' => some .anyCase
  | 'm' => some .multiLine
  | 's' => some .dotAll
  | 'R' => some .carriageReturns
  | 'u' => some .allScripts
  | 'x' => some .spaced
  | 'U' => some .fewest
  | _ => none

/-- What a list of flags says about one of them. -/
def Flags.get? (f : Flags) (flag : Flag) : Option Bool := (f.find? (·.1 = flag)).map (·.2)

/-- The flags up to a colon or a closing parenthesis. The letters that have been
read come with their places, the last one first. -/
def readFlags (seen : List (Char × Span)) (flags : Flags) (value : Bool) (place : Nat) :
    List Char → Except Mistake (Flags × Nat × List Char)
  | [] => wrong .flagUnfinished ⟨place, place⟩
  | d :: rest =>
    let span : Span := ⟨place, place + 1⟩
    if d = ':' ∨ d = ')' then
      match seen with
      | ('-', hyphen) :: _ => wrong .flagDangling hyphen
      | _ => .ok (flags, place, d :: rest)
    else
      let earlier := (seen.find? (·.1 = d)).map (·.2)
      match d, Flag.named? d, earlier with
      | '-', _, none => readFlags ((d, span) :: seen) flags false (place + 1) rest
      | '-', _, some _ => .error ⟨.flagNegatedTwice, span, earlier⟩
      | _, none, _ => wrong .flagUnknown span
      | _, some _, some _ => .error ⟨.flagDuplicate, span, earlier⟩
      | _, some flag, none =>
        readFlags ((d, span) :: seen) (flags ++ [(flag, value)]) value (place + 1) rest

/-! ### Parentheses -/

/-- The names of groups, with their places. -/
abbrev Names := List (List Char × Span)

inductive Opening
  | group (kind : GroupKind)
  /-- No group, but flags for what follows. -/
  | flags (f : Flags)
  deriving DecidableEq, Repr

/-- Whether a character can stand in the name of a group. -/
def isNameCharacter (isFirst : Bool) (c : Char) : Bool :=
  let isAlphabetic := (Recipe.characters .alphabetic).contains c
  c = '_' || isAlphabetic || (!isFirst && (c ∈ ['.', '[', ']'] || isNumber c))
where
  isNumber (c : Char) : Bool :=
    (Recipe.characters (.categories [.decimalNumber, .letterNumber, .otherNumber])).contains c

/-- The characters of a group's name up to the closing angle bracket. -/
def readNameCharacters (isFirst : Bool) (place : Nat) :
    List Char → Except Mistake (List Char × Nat × List Char)
  | [] => wrong .nameUnfinished ⟨place, place⟩
  | c :: rest =>
    if c = '>' then .ok ([], place, rest)
    else if isNameCharacter isFirst c then do
      let (name, stop, left) ← readNameCharacters false (place + 1) rest
      return (c :: name, stop, left)
    else wrong .nameInvalid ⟨place, place + 1⟩

def readName (names : Names) (c : Cursor) : Except Mistake (Names × Cursor) := do
  let (name, stop, rest) ← readNameCharacters true c.place c.rest
  let span : Span := ⟨c.place, stop⟩
  if name = [] then wrong .nameEmpty c.here
  else
    match names.find? (·.1 = name) with
    | some (_, earlier) => .error ⟨.nameDuplicate, span, some earlier⟩
    | none => return ((name, span) :: names, { c with place := stop + 1, rest := rest })

/-- What an opening parenthesis begins, from the parenthesis on. -/
def readOpening (names : Names) (c : Cursor) : Except Mistake (Opening × Names × Cursor) := do
  let inside := c.step
  let looking (length : Nat) : Except Mistake (Opening × Names × Cursor) :=
    wrong .lookAround ⟨c.place, inside.place + length⟩
  let named (length : Nat) : Except Mistake (Opening × Names × Cursor) := do
    let (names, left) ← readName names (inside.advance length)
    return (.group .captured, names, left)
  match inside.rest with
  | '?' :: '=' :: _ | '?' :: '!' :: _ => looking 2
  | '?' :: '<' :: '=' :: _ | '?' :: '<' :: '!' :: _ => looking 3
  | '?' :: 'P' :: '<' :: _ => named 3
  | '?' :: '<' :: _ => named 2
  | ['?'] => wrong .groupUnclosed c.one
  | '?' :: rest => do
    let (flags, place, left) ← readFlags [] [] true (inside.place + 1) rest
    let behind : Cursor := { c with place := place + 1, rest := left.tail }
    if left.head? = some ':' then return (.group (.plain flags), names, behind)
    else if place = inside.place + 1 then wrong .nothingToRepeat inside.here
    else return (.flags flags, names, behind)
  | _ => return (.group .captured, names, inside)

/-! ### Repetitions -/

/-- A decimal number between blanks, and what is behind it whether there is one
or not. -/
def readCount (c : Cursor) : Except Mistake Nat × Cursor :=
  let start := c.skipBlanks
  let (digits, last) := start.takeWhile Char.isDigit
  let span : Span := ⟨start.place, last.place⟩
  let count := match Text.natural? digits with
    | none => wrong .countEmpty span
    | some n => if n < UInt32.size then .ok n else wrong .decimalInvalid span
  (count, last.skipBlanks)

/-- Beyond a question mark, which only asks for few repetitions. -/
def skipChoice (c : Cursor) : Cursor := if c.rest.head? = some '?' then c.next else c

/-- The least and the most number of repetitions between braces, from the opening
one on. A brace that is not closed comes before a number that is wrong. -/
def readCounts (c : Cursor) : Except Mistake (Nat × Option Nat × Cursor) := do
  let unclosed {α : Type} (left : Cursor) : Except Mistake α :=
    wrong .countUnclosed ⟨c.place, left.place⟩
  let finish (least : Nat) (most : Option Nat) (left : Cursor) :
      Except Mistake (Nat × Option Nat × Cursor) :=
    if left.rest.head? ≠ some '\x7d' then unclosed left
    else
      let behind := skipChoice left.step
      if most.all (least ≤ ·) then .ok (least, most, behind)
      else wrong .countInvalid ⟨c.place, behind.place⟩
  let inside := c.step
  if inside.rest = [] then unclosed inside
  let (least, behind) := readCount inside
  match behind.rest with
  | [] => unclosed behind
  | ',' :: _ =>
    let second := behind.step
    match second.rest with
    | [] => unclosed second
    | '\x7d' :: _ => finish (← least) none second
    | _ =>
      let least ← least
      let (most, left) := readCount second
      finish least (some (← most)) left
  | _ =>
    let least ← least
    finish least (some least) behind

def readRepetition? (c : Cursor) : Option (Except Mistake (Nat × Option Nat × Cursor)) :=
  match c.rest with
  | '*' :: _ => some (.ok (0, none, skipChoice c.next))
  | '+' :: _ => some (.ok (1, none, skipChoice c.next))
  | '?' :: _ => some (.ok (0, some 1, skipChoice c.next))
  | '\x7b' :: _ => some (readCounts c)
  | _ => none

/-! ### Items -/

/-- What has been read of a group, or of what is in none: the alternatives before
the last, and the items of the last one, both backwards. -/
structure Body where
  first : Nat
  alternatives : List Tree := []
  /-- Where the last alternative starts. -/
  start : Nat
  items : List Tree := []

namespace Body

def empty (place : Nat) : Body := { first := place, start := place }

def push (b : Body) (t : Tree) : Body := { b with items := t :: b.items }

def last (b : Body) (place : Nat) : Tree := .ofItems ⟨b.start, place⟩ b.items.reverse

/-- The body behind a bar, which has a place. -/
def alternate (b : Body) (place : Nat) : Body :=
  { b with alternatives := b.last place :: b.alternatives, start := place + 1, items := [] }

def finish (b : Body) (place : Nat) : Tree :=
  match b.alternatives with
  | [] => b.last place
  | ts => .alternation ⟨b.first, place⟩ (b.last place :: ts).reverse

end Body

structure OpenGroup where
  kind : GroupKind
  /-- Its parenthesis. -/
  opening : Span
  /-- What precedes it. -/
  before : Body
  /-- Whether blanks are left out behind it. -/
  isSpaced : Bool

def readAtom (c : Cursor) : Except Mistake (Tree × Cursor) :=
  let sign (a : Atom) : Except Mistake (Tree × Cursor) := .ok (.atom c.one a, c.next)
  match c.rest with
  | '[' :: _ => (readBracket c).map fun (m, left) => (.bracket m, left)
  | '\\' :: _ => (readEscape c).map fun (span, a, left) => (.atom span a, left)
  | '.' :: _ => sign .dot
  | '^' :: _ => sign (.sign .lineStart)
  | '$' :: _ => sign (.sign .lineEnd)
  | d :: _ => sign (.literal d false)
  | [] => .ok (.empty, c)

/-- The text from a place on, inside some groups. Every step takes a character. -/
def readItems : Nat → Names → Body → List OpenGroup → Cursor → Except Mistake Tree
  | 0, _, b, _, c => .ok (b.finish c.place)
  | fuel + 1, names, b, outer, c =>
    let c := c.skip
    match c.rest with
    | [] =>
      match outer with
      | [] => .ok (b.finish c.place)
      | g :: _ => wrong .groupUnclosed g.opening
    | '(' :: _ => do
      match ← readOpening names c with
      | (.flags f, names, left) =>
        let left := { left with isSpaced := (Flags.get? f .spaced).getD c.isSpaced }
        readItems fuel names (b.push (.flags f)) outer left
      | (.group kind, names, left) =>
        let flags := match kind with
          | .captured => []
          | .plain f => f
        let g : OpenGroup := { kind, opening := c.one, before := b, isSpaced := c.isSpaced }
        let left := { left with isSpaced := (Flags.get? flags .spaced).getD c.isSpaced }
        readItems fuel names (.empty left.place) (g :: outer) left
    | ')' :: _ =>
      match outer with
      | [] => wrong .groupUnopened c.one
      | g :: outer =>
        let left := { c.next with isSpaced := g.isSpaced }
        let t : Tree := .group ⟨g.opening.start, left.place⟩ g.kind (b.finish c.place)
        readItems fuel names (g.before.push t) outer left
    | '|' :: _ => readItems fuel names (b.alternate c.place) outer c.next
    | _ =>
      match readRepetition? c with
      | none => do
        let (t, left) ← readAtom c
        readItems fuel names (b.push t) outer left
      | some counts =>
        match b.items with
        | t :: items => do
          if !t.isRepeatable then wrong .nothingToRepeat c.here
          let (least, most, left) ← counts
          let whole : Tree := .repetition ⟨t.start, left.place⟩ least most t
          readItems fuel names { b with items := whole :: items } outer left
        | [] => wrong .nothingToRepeat c.here

def Tree.ofText (text : List Char) : Except Mistake Tree :=
  readItems (text.length + 1) [] (.empty 0) [] { place := 0, rest := text, isSpaced := false }

/-! ### Depth -/

mutual

/-- Fails with the first part inside brackets that is too deep, so deep as the
bracket is. -/
def Member.checkDepth (depth : Nat) : Member → Except Mistake Unit
  | .several span members => do
    if depth ≥ depthLimit then wrong .tooDeep span
    Member.checkDepths (depth + 1) members
  | .bracket span _ inside => do
    if depth ≥ depthLimit then wrong .tooDeep span
    inside.checkDepth (depth + 1)
  | .operation span _ a b => do
    if depth ≥ depthLimit then wrong .tooDeep span
    a.checkDepth (depth + 1)
    b.checkDepth (depth + 1)
  | _ => .ok ()

def Member.checkDepths (depth : Nat) : List Member → Except Mistake Unit
  | [] => .ok ()
  | m :: ms => do
    m.checkDepth depth
    Member.checkDepths depth ms

end

mutual

/-- Fails with the first part that is too deep, inside so many others. -/
def Tree.checkDepth (depth : Nat) : Tree → Except Mistake Unit
  | .empty | .flags _ | .atom .. => .ok ()
  | .bracket m => m.checkDepth depth
  | .repetition span _ _ t | .group span _ t => do
    if depth ≥ depthLimit then wrong .tooDeep span
    t.checkDepth (depth + 1)
  | .alternation span ts | .sequence span ts => do
    if depth ≥ depthLimit then wrong .tooDeep span
    Tree.checkDepths (depth + 1) ts

def Tree.checkDepths (depth : Nat) : List Tree → Except Mistake Unit
  | [] => .ok ()
  | t :: ts => do
    t.checkDepth depth
    Tree.checkDepths depth ts

end

end DetectionMerge.Pattern
