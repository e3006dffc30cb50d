import DetectionMerge.Json.Document
import DetectionMerge.Number.Decimal
import DetectionMerge.Scores.Row
import DetectionMerge.Text.Lines

/-! The scores of an evaluation report. Every line that begins with a row and
whose numbers can be read gives a score; all other lines are ignored. -/

namespace DetectionMerge

/-- One score. A value of `-1` means that there was nothing to be found. -/
structure Score where
  kind : ScoreKind
  threshold : String
  area : String
  maxDetections : UInt32
  value : Binary64
  deriving DecidableEq

namespace ScoreKind

def name : ScoreKind → String
  | .averagePrecision => "AP"
  | .averageRecall => "AR"

end ScoreKind

namespace SpelledNumber

/-- The nearest double precision number of a numeral in ASCII digits, an
infinity on overflow. -/
def read? (n : SpelledNumber) : Option Binary64 :=
  (Text.natural? (n.whole ++ n.fraction)).map fun mantissa =>
    Decimal.nearest ⟨n.negative, mantissa, -n.fraction.length⟩

end SpelledNumber

namespace Score

/-- The score of a row, if the numbers are in ASCII digits and the limit has at
most 32 bits. -/
def ofRow? (row : ScoreRow) : Option Score := do
  let limit ← Text.natural? row.limit
  let value ← row.value.read?
  if limit < UInt32.size then
    return ⟨row.kind, String.ofList row.threshold, String.ofList row.area, .ofNat limit, value⟩
  else none

def ofLine? (line : List Char) : Option Score := (ScoreRow.ofLine? line).bind ofRow?

def kindMember (s : Score) : String × Json.Document := ("kind", .text s.kind.name)

def thresholdMember (s : Score) : String × Json.Document := ("iou", .text s.threshold)

def areaMember (s : Score) : String × Json.Document := ("area", .text s.area)

def limitMember (s : Score) : String × Json.Document := ("max_dets", .integer s.maxDetections.toNat)

def valueMember (s : Score) : String × Json.Document := ("value", .real s.value)

/-- The score as a document, in the order of its parts. -/
def document (s : Score) : Json.Document :=
  .record [s.kindMember, s.thresholdMember, s.areaMember, s.limitMember, s.valueMember]

end Score

/-- The scores of a report, in its order. -/
structure Summary where
  scores : List Score
  deriving DecidableEq

namespace Summary

instance : Inhabited Summary := ⟨⟨[]⟩⟩

def ofReport (report : List Char) : Summary := ⟨(Text.lines report).filterMap Score.ofLine?⟩

def isEmpty (s : Summary) : Bool := s.scores.isEmpty

def document (s : Summary) : Json.Document :=
  .record [("metrics", .list (s.scores.map Score.document))]

/-- The value of the first score with this description. -/
def find? (s : Summary) (kind : ScoreKind) (threshold area : String) (maxDetections : UInt32) :
    Option Binary64 :=
  (s.scores.find? fun score => score.kind = kind ∧ score.threshold = threshold ∧
    score.area = area ∧ score.maxDetections = maxDetections).map (·.value)

/-- The sweep over all thresholds. -/
def sweep : String := "0.50:0.95"

/-- Precision with at most a hundred detections. -/
def averagePrecision? (s : Summary) (threshold area : String) : Option Binary64 :=
  s.find? .averagePrecision threshold area 100

/-- Recall over the sweep. -/
def averageRecall? (s : Summary) (area : String) (maxDetections : UInt32) : Option Binary64 :=
  s.find? .averageRecall sweep area maxDetections

/-- A headline of the standard table. -/
inductive Headline
  | ap | ap50 | ap75 | apSmall | apMedium | apLarge
  | ar1 | ar10 | ar100 | arSmall | arMedium | arLarge
  deriving DecidableEq, Repr

def headline? (s : Summary) : Headline → Option Binary64
  | .ap => s.averagePrecision? sweep "all"
  | .ap50 => s.averagePrecision? "0.50" "all"
  | .ap75 => s.averagePrecision? "0.75" "all"
  | .apSmall => s.averagePrecision? sweep "small"
  | .apMedium => s.averagePrecision? sweep "medium"
  | .apLarge => s.averagePrecision? sweep "large"
  | .ar1 => s.averageRecall? "all" 1
  | .ar10 => s.averageRecall? "all" 10
  | .ar100 => s.averageRecall? "all" 100
  | .arSmall => s.averageRecall? "small" 100
  | .arMedium => s.averageRecall? "medium" 100
  | .arLarge => s.averageRecall? "large" 100

def Headline.name : Headline → String
  | .ap => "ap"
  | .ap50 => "ap50"
  | .ap75 => "ap75"
  | .apSmall => "ap_small"
  | .apMedium => "ap_medium"
  | .apLarge => "ap_large"
  | .ar1 => "ar1"
  | .ar10 => "ar10"
  | .ar100 => "ar100"
  | .arSmall => "ar_small"
  | .arMedium => "ar_medium"
  | .arLarge => "ar_large"

def Headline.all : List Headline :=
  [.ap, .ap50, .ap75, .apSmall, .apMedium, .apLarge, .ar1, .ar10, .ar100, .arSmall, .arMedium,
    .arLarge]

end Summary

end DetectionMerge
