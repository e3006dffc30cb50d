import DetectionMerge.Character.Binary

/-! What a character does at the boundaries of characters, words and sentences,
as of version 16 of Unicode. -/

namespace DetectionMerge.Segment

/-- Signs that stand before what they belong to, and are written into it. -/
def prependedMark : Recipe := .codes "600-605 6DD 70F 890-891 8E2 110BD 110CD"

/-! ### Boundaries of characters -/

def prepend : Recipe :=
  .union prependedMark
    (.codes "D4E 111C2-111C3 113D1 1193F 11941 11A3A 11A84-11A89 11D46 11F02")

def extend : Recipe := .union .graphemeExtend (.codes "1F3FB-1F3FF")

def control : Recipe :=
  .difference
    (.union (.categories [.control, .format, .lineSeparator, .paragraphSeparator])
      (.codes "2065 FFF0-FFF8 E0000 E0002-E001F E0080-E00FF E01F0-E0FFF"))
    (.union extend (.union prependedMark (.codes "A D 200D")))

def spacingMark : Recipe :=
  .difference (.union (.categories [.spacingMark]) (.codes "E33 EB3"))
    (.union (.union extend prepend)
      (.codes "102B-102C 1038 1062-1064 1067-106D 1083 1087-108C 108F 109A-109C 1A61 1A63-1A64
        AA7B AA7D 11720-11721"))

def openSyllable : Recipe := .codes "AC00-D788/1C"

def ofCharacters : List (List String × Recipe) :=
  [(["cr"], .codes "D"),
    (["lf"], .codes "A"),
    (["control", "cn"], control),
    (["extend", "ex"], extend),
    (["prepend", "pp"], prepend),
    (["regionalindicator", "ri"], .codes "1F1E6-1F1FF"),
    (["spacingmark", "sm"], spacingMark),
    (["zwj"], .codes "200D"),
    (["l"], .codes "1100-115F A960-A97C"),
    (["v"], .codes "1160-11A7 D7B0-D7C6 16D63 16D67-16D6A"),
    (["t"], .codes "11A8-11FF D7CB-D7FB"),
    (["lv"], openSyllable),
    (["lvt"], .difference (.codes "AC00-D7A3") openSyllable)]

/-! ### Boundaries of words -/

def wordExtend : Recipe := .union extend (.categories [.spacingMark])

def hebrewLetter : Recipe :=
  .codes "5D0-5EA 5EF-5F2 FB1D FB1F-FB28 FB2A-FB36 FB38-FB3C FB3E FB40-FB41 FB43-FB44 FB46-FB4F"

def katakana : Recipe :=
  .codes "3031-3035 309B-309C 30A0-30FA 30FC-30FF 31F0-31FF 32D0-32FE 3300-3357 FF66-FF9D
    1AFF0-1AFF3 1AFF5-1AFFB 1AFFD-1AFFE 1B000 1B120-1B122 1B155 1B164-1B167"

/-- Letters of scripts that are written without spaces between words. -/
def unspacedLetter : Recipe :=
  .codes "E01-E30 E32-E33 E40-E46 E81-E82 E84 E86-E8A E8C-EA3 EA5 EA7-EB0 EB2-EB3 EBD EC0-EC4 EC6
    EDC-EDF 1000-102A 103F 1050-1055 105A-105D 1061 1065-1066 106E-1070 1075-1081 108E 1780-17B3
    17D7 17DC 1950-196D 1970-1974 1980-19AB 19B0-19C9 1A20-1A54 1AA7 3041-3096 309D-309F A9E0-A9E4
    A9E6-A9EF A9FA-A9FE AA60-AA76 AA7A AA7E-AAAF AAB1 AAB5-AAB6 AAB9-AABD AAC0 AAC2 AADB-AADD
    11700-1171A 11740-11746 1B001-1B11F 1B132 1B150-1B152 1F200"

def wordLetter : Recipe :=
  .union
    (.difference .alphabetic
      (.union (.union .ideographic katakana)
        (.union (.union wordExtend hebrewLetter) unspacedLetter)))
    (.codes "2C2-2C5 2D2-2D7 2DE-2DF 2E5-2EB 2ED 2EF-2FF 55A-55C 55E 58A 5F3 70F A708-A716 A720-A721
      A789-A78A AB5B")

def numeric : Recipe :=
  .union (.categories [.decimalNumber]) (.codes "600-605 66B 6DD 890-891 8E2 110BD 110CD")

def wordFormat : Recipe :=
  .difference (.categories [.format]) (.union (.union extend prepend) (.codes "200B 200D"))

/-- What a character does at the boundaries of words. -/
def ofWords : List (List String × Recipe) :=
  [(["cr"], .codes "D"),
    (["lf"], .codes "A"),
    (["newline", "nl"], .codes "B-C 85 2028-2029"),
    (["extend"], wordExtend),
    (["zwj"], .codes "200D"),
    (["regionalindicator", "ri"], .codes "1F1E6-1F1FF"),
    (["format", "fo"], wordFormat),
    (["katakana", "ka"], katakana),
    (["hebrewletter", "hl"], hebrewLetter),
    (["aletter", "le"], wordLetter),
    (["singlequote", "sq"], .codes "27"),
    (["doublequote", "dq"], .codes "22"),
    (["midnumlet", "mb"], .codes "2E 2018-2019 2024 FE52 FF07 FF0E"),
    (["midletter", "ml"], .codes "3A B7 387 55F 5F4 2027 FE13 FE55 FF1A"),
    (["midnum", "mn"], .codes "2C 3B 37E 589 60C-60D 66C 7F8 2044 FE10 FE14 FE50 FE54 FF0C FF1B"),
    (["numeric", "nu"], numeric),
    (["extendnumlet", "ex"], .union (.categories [.connectorPunctuation]) (.codes "202F")),
    (["wsegspace"], .difference (.categories [.spaceSeparator]) (.codes "A0 2007 202F"))]

/-! ### Boundaries of sentences -/

def sentenceExtend : Recipe :=
  .union .graphemeExtend (.union (.categories [.spacingMark]) (.codes "200D"))

def lower : Recipe := .difference .lowercase (.union sentenceExtend (.codes "10D0-10FA 10FD-10FF"))

def upper : Recipe :=
  .difference (.union .uppercase (.categories [.titlecaseLetter])) (.codes "1C90-1CBA 1CBD-1CBF")

def sentenceNumeric : Recipe := .union numeric (.codes "66C")

def ambiguousTerminal : Recipe := .codes "2E 2024 FE52 FF0E"

/-- What a character does at the boundaries of sentences. -/
def ofSentences : List (List String × Recipe) :=
  [(["cr"], .codes "D"),
    (["lf"], .codes "A"),
    (["sep", "se"], .codes "85 2028-2029"),
    (["extend", "ex"], sentenceExtend),
    (["format", "fo"],
      .difference (.categories [.format]) (.union sentenceExtend sentenceNumeric)),
    (["sp"], .codes "9 B-C 20 A0 1680 2000-200A 202F 205F 3000"),
    (["lower", "lo"], lower),
    (["upper", "up"], upper),
    (["oletter", "le"],
      .union (.difference .alphabetic (.union sentenceExtend (.union lower upper)))
        (.codes "5F3")),
    (["numeric", "nu"], sentenceNumeric),
    (["aterm", "at"], ambiguousTerminal),
    (["scontinue", "sc"],
      .codes "2C-2D 3A 55D 60C-60D 7F8 1802 1808 2013-2014 3001 FE10-FE11 FE13 FE31-FE32 FE50-FE51
        FE55 FE58 FE63 FF0C-FF0D FF1A FF64"),
    (["sterm", "st"], .difference .sentenceTerminal ambiguousTerminal),
    (["close", "cl"],
      .union
        (.categories
          [.openPunctuation, .closePunctuation, .initialPunctuation, .finalPunctuation])
        (.codes "22 27 275B-2760 2E00-2E01 2E06-2E08 2E0B 1F676-1F678"))]

end DetectionMerge.Segment
