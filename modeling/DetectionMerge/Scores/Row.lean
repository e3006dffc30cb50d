import DetectionMerge.Text.Blank
import DetectionMerge.Text.Digit
import DetectionMerge.Text.Word

/-! The rows of a score table:

```text
 Average Precision  (AP) @[ IoU=0.50:0.95 | area=   all | maxDets=100 ] = 0.373
```

A row is recognized at the beginning of a line; what follows it is ignored. The
threshold after `IoU=` is any run of characters without white space, bars
included, so a line can have several readings: the one with the longest
threshold counts. The other parts end where their characters end. -/

namespace DetectionMerge

/-- Precision or recall. -/
inductive ScoreKind
  | averagePrecision
  | averageRecall
  deriving DecidableEq, Repr

/-- A decimal numeral as it is spelled: digits before and after the point. -/
structure SpelledNumber where
  negative : Bool
  whole : List Char
  fraction : List Char
  deriving DecidableEq, Repr

/-- The parts of a row as they are spelled. -/
structure ScoreRow where
  kind : ScoreKind
  threshold : List Char
  area : List Char
  limit : List Char
  value : SpelledNumber
  deriving DecidableEq, Repr

namespace ScoreRow

open Text

/-- What follows a given beginning. -/
def after? (beginning cs : List Char) : Option (List Char) :=
  if beginning.isPrefixOf cs then some (cs.drop beginning.length) else none

/-- What follows at least one white space. -/
def afterBlank? : List Char → Option (List Char)
  | c :: rest => if isBlank c then some (trimLeft rest) else none
  | [] => none

/-- The longest beginning of characters of one class, which is not empty, and
what follows. -/
def run? (p : Char → Bool) (cs : List Char) : Option (List Char × List Char) :=
  match cs.takeWhile p with
  | [] => none
  | run => some (run, cs.dropWhile p)

/-- The longest numeral that a text begins with. -/
def number? (cs : List Char) : Option SpelledNumber := do
  let negative := cs.head? = some '-'
  let (whole, rest) ← run? isDigit (if negative then cs.drop 1 else cs)
  let fraction := ((after? ['.'] rest).bind (run? isDigit)).elim [] (·.1)
  return ⟨negative, whole, fraction⟩

/-- The parts of a row that follow the threshold: area, limit and value. -/
def ending? (cs : List Char) : Option (List Char × List Char × SpelledNumber) := do
  let rest ← after? ['|'] (trimLeft cs)
  let rest ← after? "area=".toList (trimLeft rest)
  let (area, rest) ← run? isWord (trimLeft rest)
  let rest ← after? ['|'] (trimLeft rest)
  let rest ← after? "maxDets=".toList (trimLeft rest)
  let (limit, rest) ← run? isDigit (trimLeft rest)
  let rest ← after? [']'] (trimLeft rest)
  let rest ← after? ['='] (trimLeft rest)
  let value ← number? (trimLeft rest)
  return (area, limit, value)

/-- The longest threshold that a text begins with and that an ending follows. -/
def threshold? : List Char → Option (List Char × List Char × List Char × SpelledNumber)
  | [] => none
  | c :: rest =>
    if isBlank c then none
    else
      match threshold? rest with
      | some (threshold, ending) => some (c :: threshold, ending)
      | none => (ending? rest).map fun ending => ([c], ending)

/-- The short name of a kind. -/
def kind? (cs : List Char) : Option (ScoreKind × List Char) :=
  match after? ['A', 'P'] cs, after? ['A', 'R'] cs with
  | some rest, _ => some (.averagePrecision, rest)
  | none, some rest => some (.averageRecall, rest)
  | none, none => none

def ofLine? (line : List Char) : Option ScoreRow := do
  let rest ← after? "Average ".toList (trimLeft line)
  let rest ← (after? "Precision".toList rest).or (after? "Recall".toList rest)
  let rest ← after? ['('] (← afterBlank? rest)
  let (kind, rest) ← kind? rest
  let rest ← after? [')'] rest
  let rest ← after? ['@', '['] (← afterBlank? rest)
  let rest ← after? "IoU=".toList (trimLeft rest)
  let (threshold, area, limit, value) ← threshold? rest
  return ⟨kind, threshold, area, limit, value⟩

end ScoreRow

end DetectionMerge
