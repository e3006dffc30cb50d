import DetectionMerge.Json.Layout

/-! Documents to be written as JSON text, on one line or indented. -/

namespace DetectionMerge.Json

/-- A document. Members are written in the order given. -/
inductive Document
  | null
  | boolean (b : Bool)
  | integer (n : Int)
  | real (x : Binary64)
  | text (s : String)
  | list (items : List Document)
  | record (members : List (String × Document))

def hexDigit (n : Nat) : Char := Nat.digitChar n

/-- The characters written for one character of a text. Quotation mark,
backslash and the characters below space are escaped. -/
def escaped (c : Char) : List Char :=
  if c = '"' then ['\\', '"']
  else if c = '\\' then ['\\', '\\']
  else if c = '\x08' then ['\\', 'b']
  else if c = '\x0C' then ['\\', 'f']
  else if c = '\n' then ['\\', 'n']
  else if c = '\r' then ['\\', 'r']
  else if c = '\t' then ['\\', 't']
  else if c < ' ' then ['\\', 'u', '0', '0', hexDigit (c.toNat / 16), hexDigit (c.toNat % 16)]
  else [c]

def quoted (s : String) : List Char := '"' :: s.toList.flatMap escaped ++ ['"']

namespace Document

def booleanText (b : Bool) : List Char :=
  if b then ['t', 'r', 'u', 'e'] else ['f', 'a', 'l', 's', 'e']

mutual

/-- The document on one line, without spaces. -/
def compact : Document → List Char
  | .null => ['n', 'u', 'l', 'l']
  | .boolean b => booleanText b
  | .integer n => RealLayout.integer n
  | .real x => realLayout.real x
  | .text s => quoted s
  | .list items => '[' :: compactItems items ++ [']']
  | .record members => '\x7b' :: compactMembers members ++ ['\x7d']

def compactItems : List Document → List Char
  | [] => []
  | [item] => compact item
  | item :: items => compact item ++ ',' :: compactItems items

def compactMembers : List (String × Document) → List Char
  | [] => []
  | [(key, value)] => quoted key ++ ':' :: compact value
  | (key, value) :: members => quoted key ++ ':' :: compact value ++ ',' :: compactMembers members

end

/-- A new line with two spaces for each level. -/
def newLine (level : Nat) : List Char := '\n' :: List.replicate (2 * level) ' '

mutual

/-- The document with every item and member on a line of its own. Empty lists
and records stay on one line. -/
def indented (level : Nat) : Document → List Char
  | .null => ['n', 'u', 'l', 'l']
  | .boolean b => booleanText b
  | .integer n => RealLayout.integer n
  | .real x => realLayout.real x
  | .text s => quoted s
  | .list [] => ['[', ']']
  | .list items => '[' :: indentedItems (level + 1) items ++ newLine level ++ [']']
  | .record [] => ['\x7b', '\x7d']
  | .record members => '\x7b' :: indentedMembers (level + 1) members ++ newLine level ++ ['\x7d']

def indentedItems (level : Nat) : List Document → List Char
  | [] => []
  | [item] => newLine level ++ indented level item
  | item :: items => newLine level ++ indented level item ++ ',' :: indentedItems level items

def indentedMembers (level : Nat) : List (String × Document) → List Char
  | [] => []
  | [(key, value)] => newLine level ++ quoted key ++ ':' :: ' ' :: indented level value
  | (key, value) :: members =>
    newLine level ++ quoted key ++ ':' :: ' ' :: indented level value ++
      ',' :: indentedMembers level members

end

/-- The document indented, from the left margin. -/
def pretty (d : Document) : List Char := d.indented 0

end Document

end DetectionMerge.Json
