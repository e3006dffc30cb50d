import DetectionMerge.Json.Value
import DetectionMerge.Number.Decimal

/-! Decoding JSON values. A record is an object with each of its keys exactly
once and any other keys, or an array of its fields in order. -/

namespace DetectionMerge.Json

def text? : Json → Option String
  | .text parts => parts.decode?.map String.ofList
  | _ => none

def integer? : Json → Option Int
  | .number n => n.integer?
  | _ => none

def int64? (v : Json) : Option Int64 :=
  v.integer?.bind fun n =>
    if Int64.minValue.toInt ≤ n ∧ n ≤ Int64.maxValue.toInt then some (.ofInt n) else none

def uint32? (v : Json) : Option UInt32 :=
  v.integer?.bind fun n => if 0 ≤ n ∧ n < UInt32.size then some (.ofNat n.toNat) else none

/-- The double precision number nearest to a number that does not overflow. -/
def real? : Json → Option Binary64
  | .number n => n.decimal.finite?
  | _ => none

def items? : Json → Option (List Json)
  | .array items => some items
  | _ => none

/-- The only member with a given key. -/
def member? (members : List (String × Json)) (key : String) : Option Json :=
  match members.filter (·.1 = key) with
  | [(_, v)] => some v
  | _ => none

/-- The fields of a record, in the order of its keys. All keys must have a
meaning, also those that are not the record's. -/
def fields? (keys : List String) : Json → Option (List Json)
  | .array items => if items.length = keys.length then some items else none
  | .object members => do
    let members ← members.mapM fun (key, v) =>
      (RawText.decode? key).map fun k => (String.ofList k, v)
    keys.mapM (member? members)
  | _ => none

end DetectionMerge.Json
