import DetectionMerge.Character.Age
import DetectionMerge.Character.Script
import DetectionMerge.Character.Segment

/-! Sets of characters by the names that Unicode gives them. A name is that of a
property, of a general category or of a script, or of a property together with
one of its values. Blanks, hyphens, underscores and case do not count in names,
nor does a leading "is". -/

namespace DetectionMerge.Property

/-- What a set of characters is asked for by. -/
inductive Query
  | name (name : String)
  | value (property value : String)
  deriving DecidableEq, Repr

inductive Missing
  | property
  /-- The property is known, but not the value, or not its characters. -/
  | value
  deriving DecidableEq, Repr

/-! ### Names -/

/-- A name in the form in which names are compared. One abbreviation begins with
a real "is". -/
def plain (name : String) : String :=
  let cs := name.toList
  let isPrefixed := cs.take 2 ∈ [['i', 's'], ['i', 'S'], ['I', 's'], ['I', 'S']]
  let kept := (if isPrefixed then cs.drop 2 else cs).filter fun c =>
    c.toNat < 0x80 && c ∉ [' ', '_', '-']
  let kept := kept.map Char.toLower
  if isPrefixed && kept = ['c'] then "isc" else String.ofList kept

/-- The names of properties whose characters cannot be asked for, either because
they have no values or because no table of them is kept. -/
def otherNames : List String :=
  ["bidiclass", "bc", "bidimirroringglyph", "bmg", "bidipairedbracket", "bpb",
    "bidipairedbrackettype", "bpt", "block", "blk", "canonicalcombiningclass", "ccc", "casefolding",
    "cf", "changeswhennfkccasefolded", "cwkcf", "cjkaccountingnumeric", "kaccountingnumeric",
    "cjkcompatibilityvariant", "kcompatibilityvariant", "cjkiicore", "kiicore", "cjkirggsource",
    "kirggsource", "cjkirghsource", "kirghsource", "cjkirgjsource", "kirgjsource", "cjkirgkpsource",
    "kirgkpsource", "cjkirgksource", "kirgksource", "cjkirgmsource", "kirgmsource", "cjkirgssource",
    "kirgssource", "cjkirgtsource", "kirgtsource", "cjkirguksource", "kirguksource", "cjkirgusource",
    "kirgusource", "cjkirgvsource", "kirgvsource", "cjkothernumeric", "kothernumeric",
    "cjkprimarynumeric", "kprimarynumeric", "cjkrsunicode", "krsunicode", "unicoderadicalstroke",
    "urs", "compositionexclusion", "ce", "decompositionmapping", "dm", "decompositiontype", "dt",
    "eastasianwidth", "ea", "equnifiedideograph", "equivalentunifiedideograph", "equideo",
    "expandsonnfc", "xonfc", "expandsonnfd", "xonfd", "expandsonnfkc", "xonfkc", "expandsonnfkd",
    "xonfkd", "fcnfkcclosure", "fcnfkc", "fullcompositionexclusion", "compex", "hangulsyllabletype",
    "hst", "indicconjunctbreak", "incb", "indicpositionalcategory", "inpc", "indicsyllabiccategory",
    "insc", "isc", "ocomment", "jamoshortname", "jsn", "joininggroup", "jg", "joiningtype", "jt",
    "kehcat", "kehcore", "kehdesc", "kehfunc", "kehfval", "kehhg", "kehifao", "kehjsesh",
    "kehnomirror", "kehnorotate", "kehunik", "linebreak", "lb", "lowercasemapping", "lc", "name",
    "na", "namealias", "nfcquickcheck", "nfcqc", "nfdquickcheck", "nfdqc", "nfkccasefold", "nfkccf",
    "nfkcquickcheck", "nfkcqc", "nfkcsimplecasefold", "nfkcscf", "nfkdquickcheck", "nfkdqc",
    "numerictype", "nt", "numericvalue", "nv", "simplecasefolding", "scf", "sfc",
    "simplelowercasemapping", "slc", "simpletitlecasemapping", "stc", "simpleuppercasemapping",
    "suc", "titlecasemapping", "tc", "unicode1name", "na1", "uppercasemapping", "uc",
    "verticalorientation", "vo"]

inductive Valued
  | age | category | script | scriptExtension | characterBreak | wordBreak | sentenceBreak
  deriving DecidableEq, Repr

def Valued.named? : String → Option Valued
  | "age" => some .age
  | "gc" | "generalcategory" => some .category
  | "sc" | "script" => some .script
  | "scx" | "scriptextensions" => some .scriptExtension
  | "gcb" | "graphemeclusterbreak" => some .characterBreak
  | "wb" | "wordbreak" => some .wordBreak
  | "sb" | "sentencebreak" => some .sentenceBreak
  | _ => none

/-! ### Sets -/

/-- The set of a general category or a group of them. -/
def category? (name : String) : Option CharSet :=
  if name = "ascii" then some .ascii
  else (GeneralCategory.named? name).map fun gs => .unions (gs.map GeneralCategory.characters)

def recipe? (recipes : List (List String × Recipe)) (name : String) : Option CharSet :=
  (recipes.find? (·.1.contains name)).map (·.2.characters)

def Valued.characters? (p : Valued) (value : String) : Option CharSet :=
  match p with
  | .age => Age.characters? value
  | .category => category? value
  | .script => (Script.named? value).map Script.characters
  | .scriptExtension => (Script.named? value).map Script.extended
  | .characterBreak => recipe? Segment.ofCharacters value
  | .wordBreak => recipe? Segment.ofWords value
  | .sentenceBreak => recipe? Segment.ofSentences value

/-- The set for a name alone. A name of a property is none of a category or a
script, but for three abbreviations. -/
def byName (name : String) : Except Missing CharSet :=
  let isAbbreviation := name ∈ ["cf", "sc", "lc"]
  match recipe? binaryProperties name with
  | some s => .ok s
  | none =>
    if !isAbbreviation && (otherNames.contains name || (Valued.named? name).isSome) then
      .error .property
    else if name ∈ ["cs", "surrogate"] || Script.otherNames.contains name then .error .value
    else
      match category? name, Script.named? name with
      | some s, _ => .ok s
      | none, some script => .ok script.characters
      | none, none => .error .property

/-- The set for a name of a property and a name of a value. -/
def byValue (property value : String) : Except Missing CharSet :=
  match Valued.named? property with
  | some p => (p.characters? value).elim (.error .value) .ok
  | none =>
    if otherNames.contains property || binaryProperties.any (·.1.contains property) then
      .error .value
    else .error .property

def Query.find : Query → Except Missing CharSet
  | .name n => byName (plain n)
  | .value p v => byValue (plain p) (plain v)

end DetectionMerge.Property
