import DetectionMerge.Number.Binary64

/-! TOML values. A table keeps how it came about, which decides whether it may
still be extended. -/

namespace DetectionMerge.Toml

inductive TableOrigin
  /-- It has a header of its own. -/
  | headed
  /-- A header below it mentions it. -/
  | implied
  /-- A dotted key mentions it. -/
  | dotted
  /-- It is written between braces. -/
  | inline
  deriving DecidableEq, Repr

inductive Value
  | text (s : String)
  | integer (n : Int)
  | real (x : Binary64)
  | boolean (b : Bool)
  /-- A date, a time, or both. -/
  | moment
  | array (items : List Value)
  | table (origin : TableOrigin) (members : List (String × Value))
  /-- An array of tables with headers, the last one first. -/
  | rows (rows : List (List (String × Value)))

instance : Inhabited Value := ⟨.moment⟩

/-- Values by key, each key once. -/
abbrev Table := List (String × Value)

namespace Table

def get? (t : Table) (key : String) : Option Value := (t.find? (·.1 = key)).map (·.2)

def replace (t : Table) (key : String) (v : Value) : Table :=
  t.map fun e => if e.1 = key then (key, v) else e

def erase (t : Table) (key : String) : Table := t.filter (·.1 ≠ key)

/-- The table with a value at a dotted key. The tables in between are made, or
have been made by dotted keys or implied by headers; the innermost one has
been made by dotted keys. No key is set twice. -/
def insert (t : Table) : List String → String → Value → Option Table
  | [], key, v => if (get? t key).isSome then none else some (t ++ [(key, v)])
  | name :: path, key, v =>
    match get? t name with
    | none => (insert [] path key v).map fun sub => t ++ [(name, .table .dotted sub)]
    | some (.table .dotted sub) =>
      (insert sub path key v).map fun sub => replace t name (.table .dotted sub)
    | some (.table .implied sub) =>
      if path = [] then none
      else (insert sub path key v).map fun sub => replace t name (.table .implied sub)
    | some (.rows (row :: rows)) =>
      if path = [] then none
      else (insert row path key v).map fun row => replace t name (.rows (row :: rows))
    | some _ => none

/-- Changes the table that a header's path leads to. Missing tables on the way
are implied, of an array of tables the last one is meant, and no header leads
into an inline table. -/
def within (t : Table) (change : Table → Option Table) : List String → Option Table
  | [] => change t
  | name :: path =>
    match get? t name with
    | none => (within [] change path).map fun sub => t ++ [(name, .table .implied sub)]
    | some (.table .inline _) => none
    | some (.table origin sub) =>
      (within sub change path).map fun sub => replace t name (.table origin sub)
    | some (.rows (row :: rows)) =>
      (within row change path).map fun row => replace t name (.rows (row :: rows))
    | some _ => none

/-- The table that a header's path leads to. -/
def at? (t : Table) : List String → Option Table
  | [] => some t
  | name :: path =>
    match get? t name with
    | some (.table _ sub) => at? sub path
    | some (.rows (row :: _)) => at? row path
    | _ => none

end Table

end DetectionMerge.Toml
