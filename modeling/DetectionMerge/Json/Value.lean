import DetectionMerge.Json.Lexer

/-! JSON values as they are spelled. Every grammatical text has one, whatever
its depth, the size of its numbers and the meaning of its texts. The builder
takes one token at a time and keeps the open arrays and objects on a stack. -/

namespace DetectionMerge

/-- A JSON value as it is spelled. -/
inductive Json
  | null
  | boolean (b : Bool)
  | number (n : Json.Numeral)
  | text (parts : Json.RawText)
  | array (items : List Json)
  | object (members : List (Json.RawText × Json))

namespace Json

open DetectionMerge.Text (Symbol)

instance : Inhabited Json := ⟨.null⟩

/-- An array or object around the value being read: what precedes the value, in
reverse. -/
inductive Frame
  | array (items : List Json)
  | object (members : List (RawText × Json)) (key : RawText)

/-- What the builder has and what may come next. -/
inductive Builder
  /-- A value. -/
  | value (stack : List Frame)
  /-- The first item of an array, or its end. -/
  | firstItem (stack : List Frame)
  /-- The first key of an object, or its end. -/
  | firstKey (stack : List Frame)
  /-- A key. -/
  | nextKey (stack : List Frame) (members : List (RawText × Json))
  /-- The colon after a key. -/
  | colon (stack : List Frame) (members : List (RawText × Json)) (key : RawText)
  /-- A comma after an item, or the end of its array. -/
  | afterItem (stack : List Frame) (items : List Json)
  /-- A comma after a member, or the end of its object. -/
  | afterMember (stack : List Frame) (members : List (RawText × Json))
  /-- Nothing: the value is complete. -/
  | complete (v : Json)

namespace Builder

/-- A value is complete inside these frames. -/
def put (v : Json) : List Frame → Builder
  | [] => .complete v
  | .array items :: stack => .afterItem stack (v :: items)
  | .object members key :: stack => .afterMember stack ((key, v) :: members)

def begin (stack : List Frame) : Token → Option Builder
  | .null => some (put .null stack)
  | .boolean b => some (put (.boolean b) stack)
  | .number n => some (put (.number n) stack)
  | .text parts => some (put (.text parts) stack)
  | .openArray => some (.firstItem stack)
  | .openObject => some (.firstKey stack)
  | _ => none

def step : Builder → Token → Option Builder
  | .value stack, t => begin stack t
  | .firstItem stack, .closeArray => some (put (.array []) stack)
  | .firstItem stack, t => begin (.array [] :: stack) t
  | .firstKey stack, .closeObject => some (put (.object []) stack)
  | .firstKey stack, .text key => some (.colon stack [] key)
  | .nextKey stack members, .text key => some (.colon stack members key)
  | .colon stack members key, .colon => some (.value (.object members key :: stack))
  | .afterItem stack items, .comma => some (.value (.array items :: stack))
  | .afterItem stack items, .closeArray => some (put (.array items.reverse) stack)
  | .afterMember stack members, .comma => some (.nextKey stack members)
  | .afterMember stack members, .closeObject => some (put (.object members.reverse) stack)
  | _, _ => none

/-- The value, if it is complete. -/
def finish : Builder → Option Json
  | .complete v => some v
  | _ => none

end Builder

def ofTokens? (tokens : List Token) : Option Json :=
  (tokens.foldlM Builder.step (.value [])).bind Builder.finish

def ofSymbols? (symbols : List Symbol) : Option Json := (tokenize? symbols).bind ofTokens?

def ofText? (text : List Char) : Option Json := ofSymbols? (text.map some)

/-- The value that a byte sequence spells. Parts that are no UTF-8 are allowed
inside texts. -/
def ofBytes? (bytes : List UInt8) : Option Json := ofSymbols? (Text.Utf8.symbols bytes)

end Json

end DetectionMerge
