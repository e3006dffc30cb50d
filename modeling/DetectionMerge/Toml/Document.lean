import DetectionMerge.Toml.Scalar

/-! TOML documents: arrays and inline tables, key lines and headers. -/

namespace DetectionMerge.Toml

abbrev Reader := List Char → Option (Value × List Char)

/-! ### Values that hold others -/

/-- What follows spaces, comments and line endings. -/
def skipLines : Nat → List Char → List Char
  | 0, cs => cs
  | fuel + 1, cs =>
    let cs := skipComment (skipSpace cs)
    match newLine? cs with
    | some rest => skipLines fuel rest
    | none => cs

/-- The items of an array, after its opening bracket or a comma. -/
def items? (element : Reader) : Nat → List Char → Option (List Value × List Char)
  | 0, _ => none
  | fuel + 1, cs =>
    match skipLines cs.length cs with
    | ']' :: rest => some ([], rest)
    | cs => do
      let (item, rest) ← element cs
      match skipLines rest.length rest with
      | ',' :: rest =>
        let (items, rest) ← items? element fuel rest
        return (item :: items, rest)
      | ']' :: rest => return ([item], rest)
      | _ => none

def pair? (element : Reader) (cs : List Char) : Option (List String × Value × List Char) := do
  let (path, rest) ← key? cs
  let rest ← after? '=' (skipSpace rest)
  let (v, rest) ← element (skipSpace rest)
  return (path, v, rest)

def setKey (t : Table) (path : List String) (v : Value) : Option Table :=
  path.getLast?.bind fun key => t.insert path.dropLast key v

/-- The pairs of an inline table, after its opening brace and spaces. -/
def pairs? (element : Reader) : Nat → Table → List Char → Option (Table × List Char)
  | 0, _, _ => none
  | fuel + 1, t, cs => do
    let (path, v, rest) ← pair? element cs
    let t ← setKey t path v
    match skipSpace rest with
    | ',' :: rest => pairs? element fuel t (skipSpace rest)
    | '\x7d' :: rest => return (t, rest)
    | _ => none

def inlineTable? (element : Reader) (cs : List Char) : Option (Value × List Char) :=
  match skipSpace cs with
  | '\x7d' :: rest => some (.table .inline [], rest)
  | cs => (pairs? element cs.length [] cs).map fun (t, rest) => (.table .inline t, rest)

def value? : Nat → Reader
  | 0, cs => scalar? cs
  | depth + 1, cs =>
    match cs with
    | '[' :: rest => (items? (value? depth) (rest.length + 1) rest).map fun (items, rest) =>
        (.array items, rest)
    | '\x7b' :: rest => inlineTable? (value? depth) rest
    | cs => scalar? cs

/-! ### Lines -/

/-- A document as far as it has been read: the finished tables, and the one that
key lines go to. -/
structure Draft where
  root : Table := []
  /-- The path of the header in force; none before the first header. -/
  path : List String := []
  /-- Whether that header begins a further table of an array. -/
  row : Bool := false
  current : Table := []

namespace Draft

/-- The finished tables with the current one among them. -/
def close (d : Draft) : Option Table :=
  match d.path.getLast? with
  | none => some d.current
  | some key =>
    d.root.within (fun parent =>
      if d.row then
        match parent.get? key with
        | none => some (parent ++ [(key, .rows [d.current])])
        | some (.rows rows) => some (parent.replace key (.rows (d.current :: rows)))
        | some _ => none
      else some (parent ++ [(key, .table .headed d.current)]))
      d.path.dropLast

/-- The members that a header's table has already, and the tables without it.
Only a table that other headers have implied can still get a header. -/
def detach (root : Table) (path : List String) (key : String) : Option (Table × Table) := do
  let rest ← root.within (fun parent =>
    match parent.get? key with
    | none => some parent
    | some (.table .implied _) => some (parent.erase key)
    | some _ => none) path
  match (root.at? path).bind (·.get? key) with
  | some (.table _ members) => return (members, rest)
  | _ => return ([], rest)

def openTable (d : Draft) (path : List String) : Option Draft := do
  let root ← d.close
  let key ← path.getLast?
  let (members, root) ← detach root path.dropLast key
  return { root := root, path := path, row := false, current := members }

def openRow (d : Draft) (path : List String) : Option Draft := do
  let root ← d.close
  let key ← path.getLast?
  let root ← root.within (fun parent =>
    match parent.get? key with
    | none | some (.rows _) => some parent
    | some _ => none) path.dropLast
  return { root := root, path := path, row := true, current := [] }

/-- A header, after its opening bracket. -/
def header? (d : Draft) (cs : List Char) : Option (Draft × List Char) :=
  match cs with
  | '[' :: cs => do
    let (path, rest) ← key? (skipSpace cs)
    let rest ← after? ']' (← after? ']' (skipSpace rest))
    return (← d.openRow path, ← lineEnd? rest)
  | cs => do
    let (path, rest) ← key? (skipSpace cs)
    let rest ← after? ']' (skipSpace rest)
    return (← d.openTable path, ← lineEnd? rest)

def keyLine? (d : Draft) (cs : List Char) : Option (Draft × List Char) := do
  let (path, v, rest) ← pair? (value? depthLimit) cs
  let current ← setKey d.current path v
  return ({ d with current := current }, ← lineEnd? rest)

/-- The lines of a document. Every line takes at least one character. -/
def lines? : Nat → Draft → List Char → Option Table
  | 0, d, cs => if cs = [] then d.close else none
  | fuel + 1, d, cs =>
    match skipSpace cs with
    | [] => d.close
    | '[' :: rest => do
      let (d, rest) ← d.header? rest
      lines? fuel d rest
    | cs =>
      match lineEnd? cs with
      | some rest => lines? fuel d rest
      | none => do
        let (d, rest) ← d.keyLine? cs
        lines? fuel d rest

end Draft

/-- The table that a document describes. A byte order mark may stand before it. -/
def document? (text : List Char) : Option Table :=
  let text := if text.head? = some '\uFEFF' then text.drop 1 else text
  Draft.lines? (text.length + 1) {} text

end DetectionMerge.Toml
