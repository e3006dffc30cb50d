import DetectionMerge.Character.Binary
import DetectionMerge.Text.System

/-! Texts between quotation marks, as a log quotes them. What would not show by itself is
escaped, and so are the marks: the double one in a text, both kinds in a path. Bytes of a
path that are part of no character are told by their numbers. -/

namespace DetectionMerge.Text

/-- What does not show by itself beyond ASCII. -/
def hidden : Recipe :=
  .union .graphemeExtend (.categories
    [.control, .format, .privateUse, .unassigned, .lineSeparator, .paragraphSeparator,
      .spaceSeparator])

def shows (c : Char) : Bool :=
  if c.toNat < 0x7F then 0x20 ≤ c.toNat else !hidden.characters.contains c

/-- A character inside quotation marks, of which some have to be escaped. -/
def escaped (marks : List Char) (c : Char) : List Char :=
  if c = '\x00' then ['\\', '0']
  else if c = '\t' then ['\\', 't']
  else if c = '\n' then ['\\', 'n']
  else if c = '\r' then ['\\', 'r']
  else if c = '\\' ∨ c ∈ marks then ['\\', c]
  else if shows c then [c]
  else ['\\', 'u', '\x7b'] ++ Nat.toDigits 16 c.toNat ++ ['\x7d']

/-- A text inside quotation marks. -/
def quoted (s : String) : String :=
  String.ofList (['"'] ++ s.toList.flatMap (escaped ['"']) ++ ['"'])

/-- Two hexadecimal digits for a byte. -/
def byteEscape (b : UInt8) : List Char :=
  let digit (n : Nat) : Char := (Nat.digitChar n).toUpper
  ['\\', 'x', digit (b.toNat / 16), digit (b.toNat % 16)]

/-- Bytes inside quotation marks. A character is taken from as many bytes as it has. -/
def escapedBytes : List UInt8 → List Char
  | [] => []
  | b :: rest =>
    match [1, 2, 3, 4].findSome? fun n => (Utf8.decode? ((b :: rest).take n)).map (n, ·) with
    | some (n, cs) => cs.flatMap (escaped ['"', '\'']) ++ escapedBytes (rest.drop (n - 1))
    | none => byteEscape b ++ escapedBytes rest
termination_by bytes => bytes.length
decreasing_by
  · rw [List.length_drop, List.length_cons]
    omega
  · exact Nat.lt_succ_self _

/-- The bytes of a path inside quotation marks. -/
def quotedPath (t : SystemText) : String :=
  String.ofList (['"'] ++ escapedBytes t.bytes ++ ['"'])

end DetectionMerge.Text
