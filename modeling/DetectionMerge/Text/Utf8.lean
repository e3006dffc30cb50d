/-! UTF-8 in both directions. A byte sequence is read into symbols: a
character, or `none` for a maximal part that is no beginning of a character's
encoding. The reader is a machine that takes one byte at a time, so a line feed
always brings it back to the state between characters. -/

namespace DetectionMerge.Text

/-- A character, or a part of a byte sequence that encodes none. -/
abbrev Symbol := Option Char

namespace Utf8

/-- Where the reader stands between two bytes. -/
inductive State
  /-- Between characters. -/
  | start
  /-- Inside a character: the bits read so far, how many bytes are owed after
  the next one, and the least and greatest value the next one may have. -/
  | inside (value owed : Nat) (low high : UInt8)
  deriving DecidableEq, Repr

/-- The effect of a byte that comes between characters. -/
def first (b : UInt8) : State × List Symbol :=
  if b < 0x80 then (.start, [some (Char.ofNat b.toNat)])
  else if b < 0xC2 then (.start, [none])
  else if b < 0xE0 then (.inside (b.toNat - 0xC0) 0 0x80 0xBF, [])
  else if b < 0xF0 then
    (.inside (b.toNat - 0xE0) 1 (if b = 0xE0 then 0xA0 else 0x80) (if b = 0xED then 0x9F else 0xBF), [])
  else if b < 0xF5 then
    (.inside (b.toNat - 0xF0) 2 (if b = 0xF0 then 0x90 else 0x80) (if b = 0xF4 then 0x8F else 0xBF), [])
  else (.start, [none])

/-- One byte: the state after it and the symbols it completes. A byte that
cannot continue the character begun is read again from between characters. -/
def step : State → UInt8 → State × List Symbol
  | .start, b => first b
  | .inside value owed low high, b =>
    if low ≤ b ∧ b ≤ high then
      let value := value * 64 + (b.toNat - 0x80)
      match owed with
      | 0 => (.start, [some (Char.ofNat value)])
      | owed + 1 => (.inside value owed 0x80 0xBF, [])
    else
      let (state, symbols) := first b
      (state, none :: symbols)

/-- The symbols of a byte sequence read from a given state. -/
def scan : State → List UInt8 → List Symbol
  | .start, [] => []
  | .inside .., [] => [none]
  | state, b :: bytes => (step state b).2 ++ scan (step state b).1 bytes

/-- The symbols of a byte sequence. -/
def symbols (bytes : List UInt8) : List Symbol := scan .start bytes

def encode (text : List Char) : List UInt8 := text.flatMap String.utf8EncodeChar

/-- The text of a byte sequence that is valid throughout. -/
def decode? (bytes : List UInt8) : Option (List Char) := (symbols bytes).mapM id

/-- The text of any byte sequence, with U+FFFD in place of each invalid part. -/
def decodeLossy (bytes : List UInt8) : List Char :=
  (symbols bytes).map (·.getD '\uFFFD')

end Utf8

end DetectionMerge.Text
