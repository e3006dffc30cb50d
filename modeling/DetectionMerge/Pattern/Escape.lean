import DetectionMerge.Pattern.Cursor
import DetectionMerge.Text.Digit

/-! Escapes: what stands behind a backslash in the text of a pattern. -/

namespace DetectionMerge.Pattern

/-! ### Characters by number -/

def charOf? (n : Nat) : Option Char := if n.isValidChar then some (Char.ofNat n) else none

/-- So many hexadecimal digits, after some with a value. -/
def readHexDigits (start : Nat) : Nat → Nat → Cursor → Except Mistake (Char × Cursor)
  | 0, value, c =>
    match charOf? value with
    | some d => .ok (d, c)
    | none => wrong .hexInvalid ⟨start, c.place⟩
  | n + 1, value, c =>
    match c.rest with
    | [] => wrong .escapeUnfinished c.here
    | d :: _ =>
      match Text.hexDigit? d with
      | some v => readHexDigits start n (16 * value + v) c.step
      | none => wrong .hexDigitInvalid c.one

/-- Hexadecimal digits between braces, from the opening one on. -/
def readBracedHex (c : Cursor) : Except Mistake (Char × Cursor) :=
  let (digits, last) := c.step.takeWhile fun d => (Text.hexDigit? d).isSome
  match last.rest with
  | [] => wrong .escapeUnfinished ⟨c.place, last.place⟩
  | '\x7d' :: _ =>
    let value := digits.foldl (fun n d => 16 * n + (Text.hexDigit? d).getD 0) 0
    if digits = [] then wrong .hexEmpty ⟨c.place, last.step.place⟩
    else
      match charOf? value with
      | some d => .ok (d, last.step)
      | none => wrong .hexInvalid ⟨c.place + 1, last.place⟩
  | _ => wrong .hexDigitInvalid last.one

/-- A character by its number, from the letter on that tells the number of digits.
Two digits without braces write an octet. -/
def readHex (letter : Char) (c : Cursor) : Except Mistake (Atom × Cursor) := do
  let inside := c.step
  match inside.rest with
  | [] => wrong .escapeUnfinished inside.here
  | '\x7b' :: _ =>
    let (d, left) ← readBracedHex inside
    return (.literal d false, left)
  | _ =>
    let digits := match letter with
      | 'x' => 2
      | 'u' => 4
      | _ => 8
    let (d, left) ← readHexDigits inside.place digits 0 inside
    return (.literal d (letter = 'x'), left)

/-! ### Properties -/

/-- The parts of a text before and behind the first occurrence of another one. -/
def cutAt? (mark : List Char) : List Char → Option (List Char × List Char)
  | [] => none
  | c :: rest =>
    if mark.isPrefixOf (c :: rest) then some ([], (c :: rest).drop mark.length)
    else (cutAt? mark rest).map fun (before, behind) => (c :: before, behind)

/-- What the text between braces asks for. -/
def queryOf (text : List Char) : Property.Query :=
  match (cutAt? ['!', '='] text).or ((cutAt? [':'] text).or (cutAt? ['='] text)) with
  | some (property, value) => .value (String.ofList property) (String.ofList value)
  | none => .name (String.ofList text)

/-- A property, from the letter on that announces it. -/
def readProperty (letter : Char) (c : Cursor) : Except Mistake (Atom × Cursor) :=
  let inside := c.step
  let isNegated : Bool := letter = 'P'
  match inside.rest with
  | [] => wrong .escapeUnfinished inside.here
  | '\x7b' :: _ =>
    let (text, last) := inside.step.takeWhile (· ≠ '\x7d')
    if last.rest = [] then wrong .escapeUnfinished last.here
    else .ok (.property (queryOf text) isNegated, last.next)
  | '\\' :: _ => wrong .propertyInvalid inside.one
  | d :: _ => .ok (.property (.name (String.singleton d)) isNegated, inside.step)

/-! ### Boundaries -/

def Boundary.named? : String → Option Boundary
  | "start" => some .start
  | "end" => some .stop
  | "start-half" => some .startHalf
  | "end-half" => some .stopHalf
  | _ => none

/-- A boundary, from behind its letter on. A brace that does not open a name
belongs to what follows. -/
def readBoundary (backslash : Nat) (c : Cursor) : Except Mistake (Boundary × Cursor) :=
  let isLetter (d : Char) : Bool := d.isAlpha || d = '-'
  match c.rest with
  | '\x7b' :: _ =>
    let inside := c.step
    match inside.rest with
    | [] => wrong .boundaryUnfinished ⟨backslash, inside.place⟩
    | d :: _ =>
      if !isLetter d then .ok (.edge, c)
      else
        let (name, last) := inside.takeWhile isLetter
        if last.rest.head? ≠ some '\x7d' then wrong .boundaryUnclosed ⟨c.place, last.place⟩
        else
          match Boundary.named? (String.ofList name) with
          | some b => .ok (b, last.next)
          | none => wrong .boundaryUnknown ⟨inside.place, last.place⟩
  | _ => .ok (.edge, c)

/-! ### Letters -/

/-- The class that a letter stands for. A capital letter stands for the rest. -/
def shorthand? : Char → Option (Shorthand × Bool)
  | 'd' => some (.digit, false)
  | 's' => some (.blank, false)
  | 'w' => some (.word, false)
  | 'D' => some (.digit, true)
  | 'S' => some (.blank, true)
  | 'W' => some (.word, true)
  | _ => none

/-- The control character that a letter stands for. -/
def control? : Char → Option Char
  | 'a' => some '\x07'
  | 'f' => some '\x0c'
  | 't' => some '\t'
  | 'n' => some '\n'
  | 'r' => some '\r'
  | 'v' => some '\x0b'
  | _ => none

def sign? : Char → Option Sign
  | 'A' => some .textStart
  | 'z' => some .textEnd
  | 'B' => some (.boundary .inner)
  | '<' => some (.boundary .start)
  | '>' => some (.boundary .stop)
  | _ => none

def readEscape (c : Cursor) : Except Mistake (Span × Atom × Cursor) := do
  let inside := c.next
  match inside.rest with
  | [] => wrong .escapeUnfinished ⟨c.place, inside.place⟩
  | d :: _ =>
    let last := inside.next
    let whole : Span := ⟨c.place, last.place⟩
    let spanned (read : Except Mistake (Atom × Cursor)) : Except Mistake (Span × Atom × Cursor) :=
      read.map fun (a, left) => (⟨c.place, left.place⟩, a, left)
    if d.isDigit then wrong .backreference whole
    else if d ∈ ['x', 'u', 'U'] then spanned (readHex d inside)
    else if d ∈ ['p', 'P'] then spanned (readProperty d inside)
    else if d = 'b' then
      spanned ((readBoundary c.place last).map fun (b, left) => (.sign (.boundary b), left))
    else
      match shorthand? d, control? d, sign? d with
      | some (s, isNegated), _, _ => .ok (whole, .shorthand s isNegated, last)
      | none, some e, _ => .ok (whole, .literal e false, last)
      | none, none, some s => .ok (whole, .sign s, last)
      | none, none, none =>
        if d.isAlpha ∨ d.toNat > 127 then wrong .escapeUnknown whole
        else .ok (whole, .literal d false, last)

end DetectionMerge.Pattern
