import DetectionMerge.Json.Fields

/-! The images of an annotation file, and the index from file name to image id.
Of records with the same file name the last one counts. -/

namespace DetectionMerge

/-- One image of an annotation file. -/
structure ImageRecord where
  fileName : String
  id : Int64
  deriving DecidableEq, Repr

namespace ImageRecord

/-- The image that a JSON value spells. -/
def ofJson? (v : Json) : Option ImageRecord := do
  match ← v.fields? ["file_name", "id"] with
  | [fileName, id] => return ⟨← fileName.text?, ← id.int64?⟩
  | _ => none

/-- The images of an annotation file. Its other contents are the evaluator's. -/
def listOfJson? (v : Json) : Option (List ImageRecord) := do
  match ← v.fields? ["images"] with
  | [images] => (← images.items?).mapM ofJson?
  | _ => none

end ImageRecord

/-- Image ids by file name. -/
structure ImageIndex where
  entries : List (String × Int64)
  /-- Each name occurs once. -/
  distinct : (entries.map (·.1)).Nodup

namespace ImageIndex

def empty : ImageIndex := ⟨[], by simp⟩

instance : Inhabited ImageIndex := ⟨empty⟩

/-- An entry in front of the entries of other names keeps the names distinct. -/
theorem distinct_cons_filter {entries : List (String × Int64)}
    (h : (entries.map (·.1)).Nodup) (name : String) (id : Int64) :
    (((name, id) :: entries.filter (·.1 ≠ name)).map (·.1)).Nodup := by
  have others : ((entries.filter (·.1 ≠ name)).map (·.1)).Nodup :=
    h.sublist (List.filter_sublist.map _)
  exact List.nodup_cons.2 ⟨by simp, others⟩

/-- The index with one more entry, in place of one of the same name. -/
def insert (index : ImageIndex) (name : String) (id : Int64) : ImageIndex :=
  ⟨(name, id) :: index.entries.filter (·.1 ≠ name), distinct_cons_filter index.distinct name id⟩

/-- The index of a list of entries; later ones count. -/
def ofList (entries : List (String × Int64)) : ImageIndex :=
  entries.foldl (fun index e => index.insert e.1 e.2) empty

def ofRecords (images : List ImageRecord) : ImageIndex :=
  ofList (images.map fun image => (image.fileName, image.id))

def get? (index : ImageIndex) (name : String) : Option Int64 :=
  (index.entries.find? (·.1 = name)).map (·.2)

/-- The number of names. -/
def size (index : ImageIndex) : Nat := index.entries.length

/-- Whether there are no names. -/
def isEmpty (index : ImageIndex) : Bool := index.entries.isEmpty

/-- Whether two indexes give every name the same id. The order in which names
were inserted does not matter. -/
def same (a b : ImageIndex) : Bool :=
  a.entries.all (fun e => b.get? e.1 = some e.2) && b.entries.all (fun e => a.get? e.1 = some e.2)

end ImageIndex

end DetectionMerge
