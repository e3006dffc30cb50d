import DetectionMerge.Json.Token
import DetectionMerge.Text.Digit
import DetectionMerge.Text.Utf8

/-! From symbols to tokens, one symbol at a time. A number ends at the first
symbol that cannot continue it, which is then read as the beginning of the next
token. White space is space, tab, line feed and carriage return, and raw
characters below space are not allowed in a text. -/

namespace DetectionMerge.Json

open DetectionMerge.Text (Symbol)

/-- How much of a number has been read. -/
inductive NumberPhase
  | sign | zero | whole | point | fraction | exponent | exponentSign | exponentDigits
  deriving DecidableEq, Repr

namespace NumberPhase

def complete : NumberPhase → Bool
  | .zero | .whole | .fraction | .exponentDigits => true
  | _ => false

end NumberPhase

namespace Numeral

/-- A further digit before the point. -/
def pushWhole (n : Numeral) (d : Nat) : Numeral := { n with mantissa := 10 * n.mantissa + d }

/-- A further digit after the point. -/
def pushFraction (n : Numeral) (d : Nat) : Numeral :=
  { n with
    integral := false
    mantissa := 10 * n.mantissa + d
    fractionDigits := n.fractionDigits + 1 }

/-- A further digit of the exponent. -/
def pushExponent (n : Numeral) (d : Nat) : Numeral :=
  { n with integral := false, exponent := 10 * n.exponent + d }

/-- The number after a further character, or `none` where it cannot continue. -/
def advance (n : Numeral) (phase : NumberPhase) (c : Char) : Option (NumberPhase × Numeral) :=
  match phase, Text.asciiDigit? c with
  | .sign, some d => some (if d = 0 then .zero else .whole, n.pushWhole d)
  | .whole, some d => some (.whole, n.pushWhole d)
  | .point, some d => some (.fraction, n.pushFraction d)
  | .fraction, some d => some (.fraction, n.pushFraction d)
  | .exponent, some d => some (.exponentDigits, n.pushExponent d)
  | .exponentSign, some d => some (.exponentDigits, n.pushExponent d)
  | .exponentDigits, some d => some (.exponentDigits, n.pushExponent d)
  | .zero, none | .whole, none =>
    if c = '.' then some (.point, n)
    else if c = 'e' ∨ c = 'E' then some (.exponent, n)
    else none
  | .fraction, none => if c = 'e' ∨ c = 'E' then some (.exponent, n) else none
  | .exponent, none =>
    if c = '+' then some (.exponentSign, n)
    else if c = '-' then some (.exponentSign, { n with exponentNegative := true })
    else none
  | _, _ => none

end Numeral

/-- Where the reader stands between two symbols. -/
inductive LexState
  | between
  /-- Inside a literal name: the characters still to come, and its token. -/
  | name (expected : List Char) (token : Token)
  | number (phase : NumberPhase) (n : Numeral)
  /-- Inside a text; its pieces are in reverse. -/
  | text (parts : RawText)
  | escape (parts : RawText)
  /-- Inside a `\u` escape: the value so far and how many digits are owed. -/
  | unicode (parts : RawText) (value owed : Nat)
  deriving DecidableEq, Repr

/-- The reader, with the tokens read so far in reverse. -/
structure Lexer where
  state : LexState
  tokens : List Token
  deriving DecidableEq, Repr

def isSpace (c : Char) : Bool := c = ' ' ∨ c = '\t' ∨ c = '\n' ∨ c = '\r'

def shortEscape? : Char → Option Char
  | '"' => some '"'
  | '\\' => some '\\'
  | '/' => some '/'
  | 'b' => some '\x08'
  | 'f' => some '\x0C'
  | 'n' => some '\n'
  | 'r' => some '\r'
  | 't' => some '\t'
  | _ => none

namespace Lexer

def start : Lexer := ⟨.between, []⟩

/-- A character that comes between tokens. -/
def begin (tokens : List Token) (c : Char) : Option Lexer :=
  if isSpace c then some ⟨.between, tokens⟩
  else
    match c with
    | '[' => some ⟨.between, .openArray :: tokens⟩
    | ']' => some ⟨.between, .closeArray :: tokens⟩
    | '\x7b' => some ⟨.between, .openObject :: tokens⟩
    | '\x7d' => some ⟨.between, .closeObject :: tokens⟩
    | ',' => some ⟨.between, .comma :: tokens⟩
    | ':' => some ⟨.between, .colon :: tokens⟩
    | '"' => some ⟨.text [], tokens⟩
    | 'n' => some ⟨.name ['u', 'l', 'l'] .null, tokens⟩
    | 't' => some ⟨.name ['r', 'u', 'e'] (.boolean true), tokens⟩
    | 'f' => some ⟨.name ['a', 'l', 's', 'e'] (.boolean false), tokens⟩
    | '-' => some ⟨.number .sign { negative := true }, tokens⟩
    | c => (Numeral.advance {} .sign c).map fun (phase, n) => ⟨.number phase n, tokens⟩

def insideText (tokens : List Token) (parts : RawText) (c : Char) : Option Lexer :=
  if c = '"' then some ⟨.between, .text parts.reverse :: tokens⟩
  else if c = '\\' then some ⟨.escape parts, tokens⟩
  else if c < ' ' then none
  else some ⟨.text (.character c :: parts), tokens⟩

def step : Lexer → Symbol → Option Lexer
  | ⟨.text parts, tokens⟩, none => some ⟨.text (.undecodable :: parts), tokens⟩
  | _, none => none
  | ⟨.between, tokens⟩, some c => begin tokens c
  | ⟨.name [] _, _⟩, some _ => none
  | ⟨.name [e] token, tokens⟩, some c => if c = e then some ⟨.between, token :: tokens⟩ else none
  | ⟨.name (e :: expected) token, tokens⟩, some c =>
    if c = e then some ⟨.name expected token, tokens⟩ else none
  | ⟨.number phase n, tokens⟩, some c =>
    match n.advance phase c with
    | some (phase, n) => some ⟨.number phase n, tokens⟩
    | none => if phase.complete then begin (.number n :: tokens) c else none
  | ⟨.text parts, tokens⟩, some c => insideText tokens parts c
  | ⟨.escape parts, tokens⟩, some c =>
    if c = 'u' then some ⟨.unicode parts 0 4, tokens⟩
    else (shortEscape? c).map fun e => ⟨.text (.character e :: parts), tokens⟩
  | ⟨.unicode parts value owed, tokens⟩, some c => do
    let d ← Text.hexDigit? c
    if owed ≤ 1 then some ⟨.text (.codeUnit (16 * value + d) :: parts), tokens⟩
    else some ⟨.unicode parts (16 * value + d) (owed - 1), tokens⟩

/-- The tokens at the end of the symbols. -/
def finish : Lexer → Option (List Token)
  | ⟨.between, tokens⟩ => some tokens.reverse
  | ⟨.number phase n, tokens⟩ => if phase.complete then some (.number n :: tokens).reverse else none
  | _ => none

end Lexer

/-- The tokens of a sequence of symbols. -/
def tokenize? (symbols : List Symbol) : Option (List Token) :=
  (symbols.foldlM Lexer.step .start).bind Lexer.finish

end DetectionMerge.Json
