import DetectionMerge.Text.Digit

/-! The texts and keys of TOML: bare, basic and literal, on one line or on
several. All readers return what they have read and what follows. -/

namespace DetectionMerge.Toml

def isSpace (c : Char) : Bool := c = ' ' ∨ c = '\t'

def skipSpace (cs : List Char) : List Char := cs.dropWhile isSpace

def newLine? : List Char → Option (List Char)
  | '\n' :: rest => some rest
  | '\r' :: '\n' :: rest => some rest
  | _ => none

/-- A character that may stand for itself in a comment or text: a tab, or no
control character. -/
def isPlain (c : Char) : Bool := c = '\t' ∨ (' ' ≤ c ∧ c ≠ '\x7F')

def skipComment : List Char → List Char
  | '#' :: rest => rest.dropWhile isPlain
  | cs => cs

/-- What follows the end of a line: spaces, a comment, and a line ending or the
end of the document. -/
def lineEnd? (cs : List Char) : Option (List Char) :=
  match skipComment (skipSpace cs) with
  | [] => some []
  | cs => newLine? cs

/-! ### Escapes -/

/-- The character with a code point of so many hexadecimal digits. -/
def codePoint? (count : Nat) (cs : List Char) : Option (Char × List Char) := do
  let digits ← (cs.take count).mapM Text.hexDigit?
  let n := digits.foldl (fun n d => 16 * n + d) 0
  if digits.length = count ∧ n.isValidChar then some (Char.ofNat n, cs.drop count) else none

/-- The character that an escape stands for, after its backslash. -/
def escape? : List Char → Option (Char × List Char)
  | 'b' :: rest => some ('\x08', rest)
  | 't' :: rest => some ('\t', rest)
  | 'n' :: rest => some ('\n', rest)
  | 'f' :: rest => some ('\x0C', rest)
  | 'r' :: rest => some ('\r', rest)
  | '"' :: rest => some ('"', rest)
  | '\\' :: rest => some ('\\', rest)
  | 'u' :: rest => codePoint? 4 rest
  | 'U' :: rest => codePoint? 8 rest
  | _ => none

/-! ### Texts -/

/-- A basic text on one line, after its opening quote. -/
def basic? : Nat → List Char → Option (List Char × List Char)
  | _, '"' :: rest => some ([], rest)
  | fuel + 1, '\\' :: rest => do
    let (c, rest) ← escape? rest
    let (text, rest) ← basic? fuel rest
    return (c :: text, rest)
  | fuel + 1, c :: rest => do
    if isPlain c then
      let (text, rest) ← basic? fuel rest
      return (c :: text, rest)
    else none
  | _, _ => none

/-- A literal text on one line, after its opening quote. -/
def literal? : List Char → Option (List Char × List Char)
  | [] => none
  | c :: rest =>
    if c = '\'' then some ([], rest)
    else if isPlain c then (literal? rest).map fun (text, rest) => (c :: text, rest)
    else none

def skipBlankLines : Nat → List Char → List Char
  | 0, cs => cs
  | fuel + 1, cs =>
    let cs := skipSpace cs
    match newLine? cs with
    | some rest => skipBlankLines fuel rest
    | none => cs

/-- The quotes at the end of a text on several lines: three that close it, after
at most two that belong to it. -/
def closing? (quote : Char) (cs : List Char) : Option (List Char × List Char) :=
  let quotes := (cs.takeWhile (· = quote)).length
  if quotes < 3 then none
  else
    let inside := min (quotes - 3) 2
    some (List.replicate inside quote, cs.drop (inside + 3))

/-- A text on several lines, after its opening quotes. In a basic one a
backslash begins an escape, or takes away the line ending and the blanks that
follow it. -/
def block? (quote : Char) (escapes : Bool) : Nat → List Char → Option (List Char × List Char)
  | 0, _ => none
  | fuel + 1, cs =>
    match closing? quote cs with
    | some closed => some closed
    | none =>
      match cs, newLine? cs with
      | _, some rest =>
        (block? quote escapes fuel rest).map fun (text, rest) => ('\n' :: text, rest)
      | '\\' :: rest, none =>
        if escapes then
          match newLine? (skipSpace rest) with
          | some rest => block? quote escapes fuel (skipBlankLines fuel rest)
          | none => do
            let (c, rest) ← escape? rest
            let (text, rest) ← block? quote escapes fuel rest
            return (c :: text, rest)
        else (block? quote escapes fuel rest).map fun (text, rest) => ('\\' :: text, rest)
      | c :: rest, none =>
        if isPlain c then (block? quote escapes fuel rest).map fun (text, rest) => (c :: text, rest)
        else none
      | [], none => none

def skipNewLine (cs : List Char) : List Char := (newLine? cs).getD cs

def text? : List Char → Option (String × List Char)
  | '"' :: '"' :: '"' :: rest =>
    (block? '"' true (rest.length + 1) (skipNewLine rest)).map fun (text, rest) =>
      (String.ofList text, rest)
  | '\'' :: '\'' :: '\'' :: rest =>
    (block? '\'' false (rest.length + 1) (skipNewLine rest)).map fun (text, rest) =>
      (String.ofList text, rest)
  | '"' :: rest => (basic? rest.length rest).map fun (text, rest) => (String.ofList text, rest)
  | '\'' :: rest => (literal? rest).map fun (text, rest) => (String.ofList text, rest)
  | _ => none

/-! ### Keys -/

def isBare (c : Char) : Bool := c.isAlphanum ∨ c = '-' ∨ c = '_'

def keyPart? : List Char → Option (String × List Char)
  | '"' :: rest => (basic? rest.length rest).map fun (text, rest) => (String.ofList text, rest)
  | '\'' :: rest => (literal? rest).map fun (text, rest) => (String.ofList text, rest)
  | cs =>
    match cs.takeWhile isBare with
    | [] => none
    | key => some (String.ofList key, cs.dropWhile isBare)

/-- How deep values may nest, and how many parts a key may have. -/
def depthLimit : Nat := 79

/-- A key of at most so many parts with dots between them. -/
def keyOf? : Nat → List Char → Option (List String × List Char)
  | 0, _ => none
  | parts + 1, cs => do
    let (part, rest) ← keyPart? cs
    match skipSpace rest with
    | '.' :: more =>
      let (path, rest) ← keyOf? parts (skipSpace more)
      return (part :: path, rest)
    | _ => return ([part], rest)

def key? (cs : List Char) : Option (List String × List Char) := keyOf? depthLimit cs

end DetectionMerge.Toml
