/-! Sequences for a terminal. One puts a text in another colour or weight. What a terminal
shows of a text is without them: control characters and the sequences that they begin are
not shown; white space is. -/

namespace DetectionMerge.Text.Terminal

/-- A text between the sequence for a style, given by its numbers, and the one that
ends it. -/
def painted (style text : String) : String := "\x1b[" ++ style ++ "m" ++ text ++ "\x1b[0m"

/-- Where a terminal stands between two octets. -/
inductive State
  /-- Between sequences. -/
  | shown
  /-- Behind the character that begins a sequence. -/
  | escape
  /-- The same, and behind a character that a final one must follow. -/
  | escapeOpen
  /-- In a sequence for control, which a letter ends. -/
  | control
  /-- In a command to the system, which a bell ends. -/
  | command
  /-- In a text for something else, which its own terminator ends. -/
  | foreign
  deriving DecidableEq, Repr

/-- Whether an octet is white space that a terminal acts on in every state where
it acts on control characters. -/
def isSpace (b : UInt8) : Bool := b = 0x09 || b = 0x0A || b = 0x0C || b = 0x0D

/-- The state behind an octet that is not shown. Three octets end a sequence or
begin one in every state. -/
def State.after (s : State) (b : UInt8) : State :=
  let isFinal : Bool := b < 0x7F
  if b = 0x18 ∨ b = 0x1A then .shown
  else if b = 0x1B then .escape
  else
    match s with
    | .shown => .shown
    | .escape =>
      if b < 0x20 then .escape
      else if b < 0x30 then .escapeOpen
      else if b = 0x5B then .control
      else if b = 0x5D then .command
      else if b ∈ [0x50, 0x58, 0x5E, 0x5F] then .foreign
      else if isFinal then .shown
      else .escape
    | .escapeOpen => if 0x30 ≤ b ∧ isFinal then .shown else .escapeOpen
    | .control => if 0x40 ≤ b ∧ isFinal then .shown else .control
    | .command => if b = 0x07 then .shown else .command
    | .foreign => if b = 0x9C then .shown else .foreign

/-- Whether an octet is shown in a state. -/
def State.shows (s : State) (b : UInt8) : Bool :=
  match s with
  | .shown => isSpace b || (0x20 ≤ b && b ≠ 0x7F)
  | .escape | .escapeOpen | .control => isSpace b
  | .command | .foreign => false

/-- What is shown of octets, from a state on. -/
def shownFrom (s : State) : List UInt8 → List UInt8
  | [] => []
  | b :: rest =>
    if s.shows b then b :: shownFrom .shown rest else shownFrom (s.after b) rest

def shown (bytes : List UInt8) : List UInt8 := shownFrom .shown bytes

end DetectionMerge.Text.Terminal
