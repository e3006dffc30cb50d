import DetectionMerge.Number.Decimal

/-! The tokens of JSON text. A text token keeps apart what decoding it will
need: characters, the code units of `\u` escapes, and parts that are no UTF-8.
Such a token is grammatical even if it has no meaning. -/

namespace DetectionMerge.Json

/-- A number as it is spelled: whether it has neither fraction nor exponent,
and the digits read. -/
structure Numeral where
  negative : Bool := false
  integral : Bool := true
  mantissa : Nat := 0
  fractionDigits : Nat := 0
  exponentNegative : Bool := false
  exponent : Nat := 0
  deriving DecidableEq, Repr

namespace Numeral

/-- The exact value. -/
def decimal (n : Numeral) : Decimal :=
  ⟨n.negative, n.mantissa,
    (if n.exponentNegative then -(n.exponent : Int) else n.exponent) - n.fractionDigits⟩

/-- The value of an integer literal. Negative zero is none: it stands for a
number with a sign, which no integer has. -/
def integer? (n : Numeral) : Option Int :=
  if !n.integral || (n.negative && n.mantissa == 0) then none
  else if n.negative then some (-n.mantissa) else some n.mantissa

end Numeral

inductive TextPart
  /-- A character, written itself or by a short escape. -/
  | character (c : Char)
  /-- The UTF-16 code unit of a `\u` escape. -/
  | codeUnit (u : Nat)
  /-- Bytes that are no UTF-8. -/
  | undecodable
  deriving DecidableEq, Repr

/-- The pieces of a text token. -/
abbrev RawText := List TextPart

/-- The meaning of a text token: surrogate code units come in pairs, and no
piece is undecodable. -/
def RawText.decode? : RawText → Option (List Char)
  | [] => some []
  | .character c :: rest => (decode? rest).map (c :: ·)
  | .undecodable :: _ => none
  | .codeUnit u :: rest =>
    if u < 0xD800 ∨ 0xDFFF < u then (decode? rest).map (Char.ofNat u :: ·)
    else if 0xDC00 ≤ u then none
    else
      match rest with
      | .codeUnit v :: rest =>
        if 0xDC00 ≤ v ∧ v ≤ 0xDFFF then
          (decode? rest).map (Char.ofNat (0x10000 + (u - 0xD800) * 0x400 + (v - 0xDC00)) :: ·)
        else none
      | _ => none

inductive Token
  | openArray | closeArray
  | openObject | closeObject
  | comma | colon
  | null
  | boolean (b : Bool)
  | number (n : Numeral)
  | text (parts : RawText)
  deriving DecidableEq, Repr

end DetectionMerge.Json
