import DetectionMerge.Text.Split
import DetectionMerge.Toml.Document

/-! Why a document cannot be used, with the line that is wrong and marks under what
is wrong in it. -/

namespace DetectionMerge.Toml

/-- What is wrong with a document, and where. -/
structure Complaint where
  /-- The number of characters before it. -/
  place : Nat
  /-- The number of octets that are marked. -/
  length : Nat
  words : String
  deriving DecidableEq, Repr

namespace Complaint

/-- The text of a complaint about a document. What is wrong at the end is shown
behind the last character. -/
def message (c : Complaint) (text : List Char) : String :=
  let shown := min c.place (text.length - 1)
  let before := text.take shown
  let line := before.count '\n'
  let column := (before.reverse.takeWhile (· ≠ '\n')).length + (c.place - shown)
  let content := String.ofList (((Text.splitAt '\n' text)[line]?).getD [])
  let number := toString (line + 1)
  let blanks (n : Nat) : String := String.ofList (List.replicate n ' ')
  let margin := blanks (number.length + 1) ++ "|"
  let marks := String.ofList
    (List.replicate (max 1 (min c.length (content.utf8ByteSize - column))) '^')
  let lines := [s!"TOML parse error at line {number}, column {column + 1}", margin,
    s!"{number} | {content}", margin ++ blanks (column + 1) ++ marks, c.words, ""]
  "\n".intercalate lines

/-- A complaint about what follows in a document with so many characters. -/
def before (total : Nat) (rest : List Char) (words : String) : Complaint where
  place := total - rest.length
  length := (rest.head?.map Char.utf8Size).getD 0
  words := words

end Complaint

/-! ### Lines -/

def duplicateWords (key : Option String) (path : List String) : String :=
  let key := key.getD ""
  if path = [] then s!"duplicate key \x60{key}\x60 in document root"
  else
    let table := ".".intercalate path
    s!"duplicate key \x60{key}\x60 in table \x60{table}\x60"

/-- What is expected where a value begins, by its first character. -/
def valueWords : List Char → String
  | '"' :: _ => "invalid basic string"
  | '[' :: _ => "invalid array\nexpected \x60]\x60"
  | '\x7b' :: _ => "invalid inline table\nexpected \x60\x7d\x60"
  | c :: _ =>
    if c = '\'' then "invalid literal string"
    else if isDigit c ∨ c = '+' ∨ c = '-' then "invalid integer"
    else "invalid string\nexpected \x60\"\x60, \x60'\x60"
  | [] => "invalid string\nexpected \x60\"\x60, \x60'\x60"

def lineEndWords : String := "expected newline, \x60#\x60"

namespace Draft

/-- What is wrong with a header, from its opening bracket on. -/
def headerComplaint (total : Nat) (d : Draft) (start : List Char) : Complaint :=
  let isRow := ['[', '['].isPrefixOf start
  let inside := skipSpace (start.drop (if isRow then 2 else 1))
  let close := if isRow then "]]" else "]"
  match key? inside with
  | none => .before total inside "invalid key"
  | some (path, rest) =>
    let rest := skipSpace rest
    if !close.toList.isPrefixOf rest then
      .before total rest s!"invalid table header\nexpected \x60.\x60, \x60{close}\x60"
    else
      match if isRow then d.openRow path else d.openTable path with
      | none => .before total start (duplicateWords path.getLast? path.dropLast)
      | some _ => .before total (skipSpace (rest.drop close.length)) lineEndWords

def keyLineComplaint (total : Nat) (d : Draft) (start : List Char) : Complaint :=
  match key? start with
  | none => .before total start "invalid key"
  | some (path, rest) =>
    match skipSpace rest with
    | '=' :: rest =>
      let value := skipSpace rest
      match value? depthLimit value with
      | none => .before total value (valueWords value)
      | some (v, rest) =>
        match setKey d.current path v with
        | none => .before total start (duplicateWords path.getLast? (d.path ++ path.dropLast))
        | some _ => .before total (skipSpace rest) lineEndWords
    | rest => .before total rest "expected \x60.\x60, \x60=\x60"

/-- What is wrong with the first line that cannot be read, if there is one. Every
line takes at least one character. -/
def complaint? (total : Nat) : Nat → Draft → List Char → Option Complaint
  | 0, _, _ => none
  | fuel + 1, d, cs =>
    match skipSpace cs with
    | [] => none
    | '[' :: rest =>
      match d.header? rest with
      | some (d, rest) => complaint? total fuel d rest
      | none => some (d.headerComplaint total ('[' :: rest))
    | cs =>
      match lineEnd? cs, d.keyLine? cs with
      | some rest, _ => complaint? total fuel d rest
      | none, some (d, rest) => complaint? total fuel d rest
      | none, none => some (d.keyLineComplaint total cs)

/-- The place and the length in octets of the value of a key, if a line sets it,
the first line being under a header. -/
def valueExtent? (total : Nat) (key : List String) : Nat → Draft → List Char → Option (Nat × Nat)
  | 0, _, _ => none
  | fuel + 1, d, cs =>
    match skipSpace cs with
    | [] => none
    | '[' :: rest => do
      let (d, rest) ← d.header? rest
      valueExtent? total key fuel d rest
    | cs =>
      match lineEnd? cs with
      | some rest => valueExtent? total key fuel d rest
      | none => do
        let (path, rest) ← key? cs
        let value := skipSpace ((skipSpace rest).drop 1)
        let (_, behind) ← value? depthLimit value
        if (d.path ++ path).isPrefixOf key then
          let text := value.take (value.length - behind.length)
          return (total - value.length, (String.ofList text).utf8ByteSize)
        else
          let (d, rest) ← d.keyLine? cs
          valueExtent? total key fuel d rest

end Draft

/-- What is wrong with a document that cannot be read. -/
def complaint? (text : List Char) : Option Complaint :=
  let body := if text.head? = some '\uFEFF' then text.drop 1 else text
  Draft.complaint? text.length (text.length + 1) {} body

/-- The place and the length in octets of the value of a key. -/
def valueExtent? (text : List Char) (key : List String) : Option (Nat × Nat) :=
  let body := if text.head? = some '\uFEFF' then text.drop 1 else text
  Draft.valueExtent? text.length key (text.length + 1) {} body

/-! ### Kinds of values -/

def Value.kindWords : Value → String
  | .text s => s!"string \"{s}\""
  | .integer n => s!"integer \x60{n}\x60"
  | .real _ => "floating point"
  | .boolean b => s!"boolean \x60{b}\x60"
  | .array _ | .rows _ => "sequence"
  | .moment | .table .. => "map"

end DetectionMerge.Toml
