import DetectionMerge.Pattern.Syntax
import DetectionMerge.Text.Lines

/-! What can be wrong with the text of a pattern, and how it is shown: the text
with marks under the part that is wrong. A text of several lines is shown with
numbers of lines between dividers. -/

namespace DetectionMerge.Pattern

inductive Fault
  | classEscapeInvalid | classRangeInvalid | classRangeLiteral | classUnclosed
  | decimalInvalid
  | escapeUnfinished | escapeUnknown
  | hexEmpty | hexInvalid | hexDigitInvalid
  | flagDangling | flagDuplicate | flagNegatedTwice | flagUnfinished | flagUnknown
  | groupUnclosed | groupUnopened
  | nameDuplicate | nameEmpty | nameInvalid | nameUnfinished
  | countInvalid | countEmpty | countUnclosed
  | nothingToRepeat
  | boundaryUnclosed | boundaryUnknown | boundaryUnfinished
  | backreference | lookAround
  | tooDeep
  | propertyInvalid | propertyUnknown | propertyValueUnknown
  | scriptsExcluded | notText
  deriving DecidableEq, Repr

def depthLimit : Nat := 250

def Fault.message : Fault → String
  | .classEscapeInvalid => "invalid escape sequence found in character class"
  | .classRangeInvalid => "invalid character class range, the start must be <= the end"
  | .classRangeLiteral => "invalid range boundary, must be a literal"
  | .classUnclosed => "unclosed character class"
  | .decimalInvalid => "decimal literal invalid"
  | .escapeUnfinished => "incomplete escape sequence, reached end of pattern prematurely"
  | .escapeUnknown => "unrecognized escape sequence"
  | .hexEmpty => "hexadecimal literal empty"
  | .hexInvalid => "hexadecimal literal is not a Unicode scalar value"
  | .hexDigitInvalid => "invalid hexadecimal digit"
  | .flagDangling => "dangling flag negation operator"
  | .flagDuplicate => "duplicate flag"
  | .flagNegatedTwice => "flag negation operator repeated"
  | .flagUnfinished => "expected flag but got end of regex"
  | .flagUnknown => "unrecognized flag"
  | .groupUnclosed => "unclosed group"
  | .groupUnopened => "unopened group"
  | .nameDuplicate => "duplicate capture group name"
  | .nameEmpty => "empty capture group name"
  | .nameInvalid => "invalid capture group character"
  | .nameUnfinished => "unclosed capture group name"
  | .countInvalid => "invalid repetition count range, the start must be <= the end"
  | .countEmpty => "repetition quantifier expects a valid decimal"
  | .countUnclosed => "unclosed counted repetition"
  | .nothingToRepeat => "repetition operator missing expression"
  | .boundaryUnclosed =>
    "special word boundary assertion is either unclosed or contains an invalid character"
  | .boundaryUnknown =>
    "unrecognized special word boundary assertion, valid choices are: start, end, " ++
      "start-half or end-half"
  | .boundaryUnfinished =>
    "found either the beginning of a special word boundary or a bounded repetition on a \\b " ++
      "with an opening brace, but no closing brace"
  | .backreference => "backreferences are not supported"
  | .lookAround => "look-around, including look-ahead and look-behind, is not supported"
  | .tooDeep => s!"exceed the maximum number of nested parentheses/brackets ({depthLimit})"
  | .propertyInvalid => "invalid Unicode character class"
  | .propertyUnknown => "Unicode property not found"
  | .propertyValueUnknown => "Unicode property value not found"
  | .scriptsExcluded => "Unicode not allowed here"
  | .notText => "pattern can match invalid UTF-8"

/-- A fault and where it is. -/
structure Mistake where
  fault : Fault
  span : Span
  /-- The earlier part that a repeated one repeats. -/
  earlier : Option Span := none
  deriving DecidableEq, Repr

def wrong {α : Type} (fault : Fault) (span : Span) : Except Mistake α := .error ⟨fault, span, none⟩

/-! ### Places in lines -/

/-- The line and the column of a place, both from one on. -/
def position (text : List Char) (place : Nat) : Nat × Nat :=
  let before := text.take place
  (before.count '\n' + 1, (before.reverse.takeWhile (· ≠ '\n')).length + 1)

/-- A part of a text by lines and columns. -/
structure Extent where
  startLine : Nat
  startColumn : Nat
  stopLine : Nat
  stopColumn : Nat
  deriving DecidableEq, Repr

def Extent.of (text : List Char) (s : Span) : Extent :=
  let (startLine, startColumn) := position text s.start
  let (stopLine, stopColumn) := position text s.stop
  { startLine, startColumn, stopLine, stopColumn }

/-! ### The description -/

def marks (extents : List Extent) : List Char :=
  extents.foldl (fun line e =>
    line ++ List.replicate (e.startColumn - 1 - line.length) ' ' ++
      List.replicate (max 1 (e.stopColumn - e.startColumn)) '^') []

/-- The lines of a text, each followed by marks for the parts that lie in it. A
line begins with its number, if there are several. -/
def markedLines (text : List Char) (extents : List Extent) : List String :=
  let lines := Text.lines text
  let count := lines.length + (if text.getLast? = some '\n' then 1 else 0)
  let width := if count ≤ 1 then 0 else (toString count).length
  lines.zipIdx.flatMap fun (line, i) =>
    let number := toString (i + 1)
    let label := if width = 0 then "    " else
      String.ofList (List.replicate (width - number.length) ' ') ++ number ++ ": "
    let inside := extents.filter fun e => e.startLine = i + 1 && e.stopLine = i + 1
    (label ++ String.ofList line) ::
      if inside = [] then []
      else [String.ofList (List.replicate label.length ' ' ++ marks inside)]

def Mistake.message (m : Mistake) (text : String) : String :=
  let cs := text.toList
  let spans := (m.earlier.toList ++ [m.span]).mergeSort fun a b =>
    a.start < b.start || (a.start = b.start && a.stop ≤ b.stop)
  let extents := spans.map (Extent.of cs)
  let shown := markedLines cs extents
  let divider := String.ofList (List.replicate 79 '~')
  let notes := (extents.filter fun e => e.startLine ≠ e.stopLine).map fun e =>
    s!"on line {e.startLine} (column {e.startColumn}) through line {e.stopLine} " ++
      s!"(column {e.stopColumn - 1})"
  let body := if cs.contains '\n' then divider :: shown ++ divider :: notes else shown
  "\n".intercalate ("regex parse error:" :: body ++ [s!"error: {m.fault.message}"])

end DetectionMerge.Pattern
