import DetectionMerge.Shell.Tool.Basic
import DetectionMerge.Shell.Value

/-! Tools that pass on texts line by line or octet by octet. -/

namespace DetectionMerge.Shell

/-! ### Whole texts -/

def withNumber (i : Nat) (line : Octets) : Octets :=
  let digits := (toString i).toList
  List.replicate (6 - digits.length) ' ' ++ digits ++ '\t' :: line

/-- Lines with numbers in front, or only those that are not empty. -/
def numbered (onlyFilled : Bool) : Nat → List Octets → List Octets
  | _, [] => []
  | i, line :: rest =>
    if onlyFilled ∧ line = [] then line :: numbered onlyFilled i rest
    else withNumber i line :: numbered onlyFilled (i + 1) rest

/-- Lines with one empty line in place of several. -/
def withoutGaps : List Octets → List Octets
  | [] :: [] :: rest => withoutGaps ([] :: rest)
  | line :: rest => line :: withoutGaps rest
  | [] => []

/-- An octet in printable characters. Line feeds stay, and tabs can stay. -/
def visible (tabs : Bool) (c : Char) : Octets :=
  let shape (n : Nat) : Octets :=
    if n < 32 then ['^', Char.ofNat (n + 64)] else if n = 127 then ['^', '?'] else [Char.ofNat n]
  if c = '\n' ∨ (c = '\t' ∧ !tabs) then [c]
  else if c.toNat < 128 then shape c.toNat
  else 'M' :: '-' :: shape (c.toNat - 128)

/-- Lines put together, with an end for the last one if it had one. -/
def together (lines : List Octets) (ended : Bool) : Octets :=
  if ended then ofLines lines else joined '\n' lines

def cat : Tool := withOptions "AbeEnstTuv" "" 1 fun s => fun call =>
  let e := overFiles s.operands 1 plainFault (fun _ content => content) call
  let (lines, ended) := linesOf e.output
  let lines := if s.has 's' then withoutGaps lines else lines
  let marked (c : Char) : Bool := s.has c || s.has 'A'
  let shape (line : Octets) : Octets :=
    if marked 'v' ∨ s.has 'e' ∨ s.has 't' then line.flatMap (visible (marked 'T' || s.has 't'))
    else if s.has 'T' then line.flatMap fun c => if c = '\t' then ['^', 'I'] else [c]
    else line
  let lines := lines.map shape
  let lines := if s.has 'n' ∨ s.has 'b' then numbered (s.has 'b') 1 lines else lines
  let lines :=
    if marked 'E' ∨ s.has 'e' then
      (lines.zipIdx 1).map fun (line, i) => if i < lines.length ∨ ended then line ++ ['$'] else line
    else lines
  { e with output := together lines ended }

/-- `tac`. -/
def reversedLines : Tool := withOptions "" "" 1 fun s =>
  overFiles s.operands 1 plainFault fun _ content => ofLines (linesOf content).1.reverse

def tee : Tool := withOptions "ai" "" 1 fun s => fun call =>
  let e := { call.writing call.input with input := [] }
  s.operands.foldl (fun e file =>
    let before := if s.has 'a' then (e.disk.read (Call.path file)).toOption.getD [] else []
    match e.disk.writeFile (Call.path file) (before ++ toBytes call.input) with
    | .ok disk => { e with disk := disk }
    | .error fault =>
      { e with status := 1, errors := e.errors ++ call.complaint (plainFault file fault) }) e

/-! ### Beginnings and ends -/

/-- The first lines, without the line feed that the last one may lack. -/
def firstLines (n : Nat) (cs : Octets) : Octets :=
  let (lines, ended) := linesOf cs
  if n < lines.length then ofLines (lines.take n) else together lines ended

def fromLine (n : Nat) (cs : Octets) : Octets :=
  let (lines, ended) := linesOf cs
  together (lines.drop n) (ended || n ≥ lines.length)

/-- The number of lines, where a rest without an end counts. -/
def countLines (cs : Octets) : Nat := (linesOf cs).1.length

/-- The part of a text that a number of lines or octets with a sign selects. -/
def headOf (octets : Bool) (amount : Octets) (cs : Octets) : Option Octets :=
  let (minus, digits) : Bool × Octets := match amount with
    | '-' :: rest => (true, rest)
    | '+' :: rest => (false, rest)
    | rest => (false, rest)
  (Text.natural? digits).map fun n =>
    if octets then cs.take (if minus then cs.length - n else n)
    else firstLines (if minus then countLines cs - n else n) cs

def tailOf (octets : Bool) (amount : Octets) (cs : Octets) : Option Octets :=
  let (plus, digits) : Bool × Octets := match amount with
    | '+' :: rest => (true, rest)
    | '-' :: rest => (false, rest)
    | rest => (false, rest)
  (Text.natural? digits).map fun n =>
    if octets then cs.drop (if plus then n - 1 else cs.length - n)
    else fromLine (if plus then n - 1 else countLines cs - n) cs

/-- The old way to give a number: as an option of its own. -/
def modernised (arguments : List Octets) : List Octets :=
  match arguments with
  | ('-' :: digits) :: rest =>
    if digits ≠ [] ∧ digits.all Char.isDigit then ['-', 'n'] :: digits :: rest else arguments
  | arguments => arguments

/-- A tool that shows a part of each text, under headings if there are several. -/
def selecting (select : Bool → Octets → Octets → Option Octets) : Tool := fun call =>
  withOptions "qvf" "nc" 1 (fun s call =>
    let octets := s.has 'c'
    let amount := ((if octets then s.value? 'c' else s.value? 'n').getD ['1', '0'])
    let kind := if octets then "bytes" else "lines"
    if (select octets amount []).isNone then
      call.failing 1 (ofString s!"invalid number of {kind}: " ++ inMarks amount)
    else
      let several := s.operands.length > 1 && !s.has 'q'
      let e := overFiles s.operands 1 (fun file fault =>
          match fault with
          | .isDirectory => ofString "error reading " ++ inQuotes file ++ [':', ' '] ++ faultWords fault
          | fault => cannot "open" (inQuotes file ++ ofString " for reading") fault)
        (fun file content =>
          let heading := if several ∨ s.has 'v' then
              ofString "\n==> " ++ (if file = ['-'] then ofString "standard input" else file) ++
                ofString " <==\n"
            else []
          heading ++ (select octets amount content).getD []) call
      if several ∨ s.has 'v' then { e with output := e.output.drop 1 } else e)
    { call with arguments := modernised call.arguments }
where
  /-- A complaint about something that cannot be done. -/
  cannot (deed : String) (name : Octets) (fault : Fault) : Octets :=
    ofString s!"cannot {deed} " ++ name ++ [':', ' '] ++ faultWords fault

def head : Tool := selecting headOf

def tail : Tool := selecting tailOf

/-! ### Counting -/

def wordsIn (cs : Octets) : List Octets :=
  let isBlank (c : Char) : Bool := c = ' ' ∨ ('\t' ≤ c ∧ c ≤ '\r')
  (cs.splitBy fun a b => isBlank a == isBlank b).filter fun run => !run.all isBlank

def countsOf (s : Sorted) (cs : Octets) : List Nat :=
  let all := s.options.isEmpty
  (if all ∨ s.has 'l' then [lineFeeds cs] else []) ++
    (if all ∨ s.has 'w' then [(wordsIn cs).length] else []) ++
    (if s.has 'm' then [cs.length] else []) ++
    (if all ∨ s.has 'c' then [cs.length] else []) ++
    (if s.has 'L' then [((linesOf cs).1.map List.length).foldl max 0] else [])

/-- `wc`. -/
def count : Tool := withOptions "lwmcL" "" 1 fun s => fun call =>
  let files := if s.operands.isEmpty then [['-']] else s.operands
  let read := files.map fun file => (file, call.read file)
  let counts := read.map fun (file, content) => (file, match content with
    | .ok content => some (countsOf s content)
    | .error .isDirectory => some (countsOf s [])
    | .error _ => none)
  let isFolder (content : Except Fault Octets) : Bool := match content with
    | .error fault => fault = .isDirectory
    | .ok _ => false
  let total := (counts.filterMap (·.2)).foldl (fun a b =>
    if a.isEmpty then b else a.zipWith (· + ·) b) []
  let sizes := (read.filterMap fun (_, content) => content.toOption).map List.length
  let size := sizes.foldl (· + ·) 0
  let kinds := max 1 s.options.length
  let single : Bool := files.length = 1 && kinds = 1 && !s.options.isEmpty
  let width :=
    if single then 1
    else if files.contains ['-'] ∨ read.any (isFolder ·.2) then 7
    else (toString size).length
  let line (numbers : List Nat) (name : Octets) : Octets :=
    let columns := numbers.map fun n =>
      let digits := (toString n).toList
      List.replicate (width - digits.length) ' ' ++ digits
    joined ' ' columns ++ name ++ ['\n']
  let name (file : Octets) : Octets := if s.operands.isEmpty then [] else ' ' :: file
  let lines := counts.map fun (file, numbers) => (numbers.map fun ns => line ns (name file)).getD []
  let errors := read.filterMap fun (file, content) => match content with
    | .error fault => some (call.complaint (plainFault file fault))
    | .ok _ => none
  { call.writing
      (lines.flatten ++ if files.length > 1 then line total (ofString " total") else []) with
    status := if errors.isEmpty then 0 else 1
    errors := errors.flatten
    input := call.inputAfter s.operands }

/-! ### Order -/

/-- The number at the beginning of a text, in units of a fraction with so many
places. -/
def leadingNumber (cs : Octets) : Int :=
  let cs := cs.dropWhile fun c => c = ' ' ∨ c = '\t'
  let (minus, cs) : Bool × Octets := match cs with
    | '-' :: rest => (true, rest)
    | cs => (false, cs)
  let whole := cs.takeWhile Char.isDigit
  let fraction := match cs.drop whole.length with
    | '.' :: rest => (rest.takeWhile Char.isDigit).take 30
    | _ => []
  let digits := whole ++ fraction ++ List.replicate (30 - fraction.length) '0'
  let n : Int := (Text.natural? digits).getD 0
  if minus then -n else n

/-- A part of each line by which lines are sorted. -/
structure SortKey where
  /-- The number of the first field, and how much of it is left out. -/
  first : Nat
  offset : Nat
  /-- The number of the last field, and how much of it counts if not all. -/
  last : Option (Nat × Nat)
  letters : Octets
  deriving DecidableEq, Repr

namespace SortKey

/-- A number of a field, perhaps with one of a character, and what follows. -/
def position? (text : Octets) : Option (Nat × Nat × Octets) :=
  let digits := text.takeWhile Char.isDigit
  (Text.natural? digits).map fun n =>
    match text.drop digits.length with
    | '.' :: rest =>
      let more := rest.takeWhile Char.isDigit
      (n, (Text.natural? more).getD 0, rest.drop more.length)
    | rest => (n, 0, rest)

def ofText? (text : Octets) : Option SortKey :=
  match Text.splitAt ',' text with
  | [start] => do
    let (first, offset, letters) ← position? start
    some ⟨first, offset - 1, none, letters⟩
  | [start, stop] => do
    let (first, offset, letters) ← position? start
    let (last, length, more) ← position? stop
    some ⟨first, offset - 1, some (last, length), letters ++ more⟩
  | _ => none

def part (k : SortKey) (separator : Option Char) (line : Octets) : Octets :=
  let (fields, glue) : List Octets × Octets := match separator with
    | some c => (Text.splitAt c line, [c])
    | none => (line.splitBy fun a b => !(a ≠ ' ' && b = ' '), [])
  let kept : List Octets := match k.last with
    | none => fields
    | some (n, 0) => fields.take n
    | some (n, length) =>
      let last := (fields[n - 1]?).map fun (field : Octets) => field.take length
      fields.take (n - 1) ++ last.toList
  let text := ((kept.drop (k.first - 1)).intersperse glue).flatten
  let text := if k.letters.contains 'b' then text.dropWhile fun c => c = ' ' ∨ c = '\t' else text
  text.drop k.offset

end SortKey

def orderBy (letters : Octets) (a b : Octets) : Ordering :=
  let fold (cs : Octets) : Octets := if letters.contains 'f' then cs.map Char.toUpper else cs
  let plain (cs : Octets) : Octets :=
    if letters.contains 'd' then cs.filter fun c => c.isAlphanum || c = ' ' || c = '\t' else cs
  let (x, y) := (fold (plain a), fold (plain b))
  let order :=
    if letters.any fun c => c ∈ ['n', 'g', 'h'] then compare (leadingNumber x) (leadingNumber y)
    else if x < y then .lt
    else if y < x then .gt
    else .eq
  if letters.contains 'r' then order.swap else order

/-- How two lines are ordered by some keys, and by the whole lines where these
do not tell them apart. A key without letters has those of all lines. -/
def lineOrder (s : Sorted) (keys : List SortKey) (a b : Octets) : Ordering :=
  let letters := s.options.map (·.1)
  let separator := (s.value? 't').bind List.head?
  let first :=
    if keys.isEmpty then
      let trim (cs : Octets) : Octets :=
        if s.has 'b' then cs.dropWhile fun c => c = ' ' ∨ c = '\t' else cs
      orderBy letters (trim a) (trim b)
    else
      keys.foldl (fun order k =>
        let k := if k.letters = [] then { k with letters := letters } else k
        order.then (orderBy k.letters (k.part separator a) (k.part separator b))) .eq
  if s.has 's' ∨ s.has 'u' then first
  else first.then (orderBy (if s.has 'r' then ['r'] else []) a b)

/-- Whether a line comes before another or is equal to it. -/
def sortBefore (s : Sorted) (keys : List SortKey) (a b : Octets) : Bool :=
  lineOrder s keys a b != .gt

/-- Lines of which each differs from the one before it. -/
def withoutRepetition (same : Octets → Octets → Bool) : List Octets → List (Octets × Nat)
  | [] => []
  | line :: rest =>
    match withoutRepetition same rest with
    | (next, n) :: more =>
      if same line next then (line, n + 1) :: more else (line, 1) :: (next, n) :: more
    | [] => [(line, 1)]

def sort : Tool := withOptions "rnufbsgczdhiM" "kto" 2 fun s => fun call =>
  let given := s.options.filterMap fun (c, value) => if c = 'k' then some value else none
  match given.find? fun text => (SortKey.ofText? text).isNone with
  | some wrong =>
    call.failing 2
      (ofString "invalid number at field start: invalid count at start of " ++ inMarks wrong)
  | none =>
    let keys := given.filterMap SortKey.ofText?
    let ending : Char := if s.has 'z' then '\x00' else '\n'
    let split (content : Octets) : List Octets :=
      let lines := Text.splitAt ending content
      if lines.getLast? = some [] then lines.dropLast else lines
    let written (lines : List Octets) : Octets := lines.flatMap (· ++ [ending])
    let e := overFiles s.operands 2 (fun file fault =>
        ofString (if fault = .isDirectory then "read failed: "
          else if s.has 'c' then "open failed: " else "cannot read: ") ++ plainFault file fault)
      (fun _ content => written (split content)) call
    if e.status ≠ 0 then { e with output := [] }
    else
      let lines := split e.output
      if s.has 'c' then
        let before (a b : Octets) : Bool :=
          if s.has 'u' then lineOrder s keys a b == .lt else sortBefore s keys a b
        match ((lines.zip lines.tail).zipIdx 2).find? fun ((a, b), _) => !before a b with
        | none => { e with output := [] }
        | some ((_, line), i) =>
          let file := s.operands.headD ['-']
          { e with
            output := [], status := 1
            errors := call.complaint (file ++ ofString s!":{i}: disorder: " ++ line) }
      else
        let sorted := lines.mergeSort (sortBefore s keys)
        let same (a b : Octets) : Bool := lineOrder s keys a b == .eq
        let sorted := if s.has 'u' then (withoutRepetition same sorted).map (·.1) else sorted
        match s.value? 'o' with
        | none => { e with output := written sorted }
        | some file =>
          match e.disk.writeFile (Call.path file) (toBytes (written sorted)) with
          | .ok disk => { e with output := [], disk := disk }
          | .error fault =>
            { e with output := [], status := 2, errors := call.complaint (ofString "open failed: " ++
                plainFault file fault) }

/-- `uniq`. -/
def unique : Tool := withOptions "cdui" "" 1 fun s => fun call =>
  let e := overFiles (s.operands.take 1) 1 plainFault (fun _ content => content) call
  let same (a b : Octets) : Bool :=
    if s.has 'i' then a.map Char.toLower = b.map Char.toLower else a = b
  let runs := (withoutRepetition same (linesOf e.output).1).filter fun (_, n) =>
    (!s.has 'd' || n > 1) && (!s.has 'u' || n = 1)
  let text := ofLines (runs.map fun (line, n) =>
    if s.has 'c' then
      let digits := (toString n).toList
      List.replicate (7 - digits.length) ' ' ++ digits ++ ' ' :: line
    else line)
  match s.operands.drop 1 with
  | [] => { e with output := text }
  | file :: _ =>
    match e.disk.writeFile (Call.path file) (toBytes text) with
    | .ok disk => { e with output := [], disk := disk }
    | .error fault =>
      { e with output := [], status := 1, errors := call.complaint (plainFault file fault) }

/-! ### Columns -/

inductive RangeFault
  | noNumber | zero | noEnds | decreasing
  deriving DecidableEq, Repr

def RangeFault.message (fields : Bool) (list : Octets) : RangeFault → Octets
  | .noNumber =>
    (if fields then ofString "invalid field value "
      else ofString "invalid byte/character position ") ++
      inMarks list
  | .zero =>
    if fields then ofString "fields are numbered from 1"
    else ofString "byte/character positions are numbered from 1"
  | .noEnds => ofString "invalid range with no endpoint: -"
  | .decreasing => ofString "invalid decreasing range"

/-- The ranges of a list such as `1,3-5,7-`. -/
def ranges (text : Octets) : Except RangeFault (List (Nat × Option Nat)) :=
  let number (digits : Octets) : Except RangeFault Nat :=
    match Text.natural? digits with
    | some 0 => .error .zero
    | some n => .ok n
    | none => .error .noNumber
  (Text.splitAt ',' text).mapM fun part => do
    match Text.splitAt '-' part with
    | [n] =>
      let n ← number n
      return (n, some n)
    | [[], []] => throw .noEnds
    | [a, b] =>
      let first ← if a = [] then pure 1 else number a
      if b = [] then return (first, none)
      else
        let last ← number b
        if last < first then throw .decreasing else return (first, some last)
    | _ => throw .noNumber

/-- The items of a list whose numbers lie in ranges. -/
def inRanges {α : Type} (ranges : List (Nat × Option Nat)) (items : List α) : List α :=
  (items.zipIdx 1).filterMap fun (item, i) =>
    if ranges.any fun (first, last) => first ≤ i ∧ (last.all (i ≤ ·)) then some item else none

def cut : Tool := withOptions "sn" "dfcb" 1 fun s => fun call =>
  let isSingle (text : Octets) : Bool := text.length ≤ 1
  match s.value? 'f', (s.value? 'c').or (s.value? 'b') with
  | none, none =>
    call.misused 1 (ofString "you must specify a list of bytes, characters, or fields")
  | some list, _ =>
    match ranges list, s.value? 'd' with
    | .error fault, _ => call.misused 1 (fault.message true list)
    | .ok chosen, delimiter =>
      if !delimiter.all isSingle then
        call.misused 1 (ofString "the delimiter must be a single character")
      else
        let separator := (delimiter.map fun d => d.headD '\x00').getD '\t'
        overFiles s.operands 1 plainFault (fun _ content =>
          ofLines ((linesOf content).1.filterMap fun line =>
            if line.contains separator then
              some (joined separator (inRanges chosen (Text.splitAt separator line)))
            else if s.has 's' then none
            else some line)) call
  | none, some list =>
    match ranges list with
    | .error fault => call.misused 1 (fault.message false list)
    | .ok chosen =>
      if (s.value? 'd').isSome then
        call.misused 1
          (ofString "an input delimiter may be specified only when operating on fields")
      else
        overFiles s.operands 1 plainFault
          (fun _ content => ofLines ((linesOf content).1.map (inRanges chosen))) call

/-! ### Octets -/

def classOctets? (name : String) : Option Octets :=
  let all := (List.range 256).map Char.ofNat
  let isPrintable (c : Char) : Bool := ' ' < c ∧ c ≤ '~'
  match name with
  | "alpha" => some (all.filter Char.isAlpha)
  | "digit" => some (all.filter Char.isDigit)
  | "alnum" => some (all.filter Char.isAlphanum)
  | "upper" => some (all.filter Char.isUpper)
  | "lower" => some (all.filter Char.isLower)
  | "space" => some ['\t', '\n', '\x0b', '\x0c', '\r', ' ']
  | "blank" => some ['\t', ' ']
  | "punct" => some (all.filter fun c => isPrintable c && !c.isAlphanum)
  | "print" => some (all.filter fun c => c = ' ' || isPrintable c)
  | "graph" => some (all.filter isPrintable)
  | "cntrl" => some (all.filter fun c => c < ' ' || c = '\x7f')
  | "xdigit" => some (all.filter fun c => (digitValue? c).isSome)
  | _ => none

def setOctet : Octets → Option (Char × Octets)
  | [] => none
  | ['\\'] => some ('\\', [])
  | '\\' :: c :: rest =>
    let digits := ((c :: rest).take 3).takeWhile fun d => '0' ≤ d ∧ d ≤ '7'
    if digits ≠ [] then
      let n := digits.foldl (fun n d => 8 * n + (d.toNat - '0'.toNat)) 0
      some (Char.ofNat (n % 256), (c :: rest).drop digits.length)
    else
      some (((Pattern.control? c).or (if c = 'b' then some '\x08' else none)).getD c, rest)
  | c :: rest => some (c, rest)

/-- The octets of a set with ranges and classes, in so many steps. -/
def setOctets : Nat → Octets → Octets
  | 0, _ => []
  | fuel + 1, cs =>
    match cs with
    | '[' :: ':' :: rest =>
      let name := rest.takeWhile (· ≠ ':')
      match classOctets? (String.ofList name), rest.drop name.length with
      | some octets, ':' :: ']' :: rest => octets ++ setOctets fuel rest
      | _, _ => '[' :: setOctets fuel (':' :: rest)
    | cs =>
      match setOctet cs with
      | none => []
      | some (first, '-' :: c :: rest) =>
        match setOctet (c :: rest) with
        | some (last, rest) =>
          let run := (List.range (last.toNat + 1)).drop first.toNat
          run.map Char.ofNat ++ setOctets fuel rest
        | none => [first]
      | some (first, rest) => first :: setOctets fuel rest

def squeezed (set : Octets) : Octets → Octets
  | a :: b :: rest =>
    if a = b ∧ set.contains a then squeezed set (b :: rest) else a :: squeezed set (b :: rest)
  | cs => cs

def exchanged (source target : Octets) (c : Char) : Char :=
  match (source.zipIdx.reverse.find? (·.1 = c)).map (·.2) with
  | some i => (target[i]?.or target.getLast?).getD c
  | none => c

/-- `tr`. -/
def exchange : Tool := withOptions "dscCt" "" 1 fun s => fun call =>
  let octetsOf (text : Octets) : Octets := setOctets (text.length + 1) text
  let complement (set : Octets) : Octets :=
    if s.has 'c' ∨ s.has 'C' then ((List.range 256).map Char.ofNat).filter fun c => !set.contains c
    else set
  let missing (operand : Octets) (words : String) : Effect :=
    { call.ending 1 with
      errors := call.complaint (ofString "missing operand after " ++ inMarks operand) ++
        ofString s!"{words}\n" ++ call.pointing }
  match s.operands.map octetsOf with
  | [] => call.misused 1 (ofString "missing operand")
  | [a] =>
    let set := complement a
    if s.has 'd' ∧ !s.has 's' then
      { call.writing (call.input.filter fun c => !set.contains c) with input := [] }
    else if s.has 's' ∧ !s.has 'd' then
      { call.writing (squeezed set call.input) with input := [] }
    else
      missing (s.operands.headD []) (if s.has 'd' then
        "Two strings must be given when both deleting and squeezing repeats."
        else "Two strings must be given when translating.")
  | a :: b :: more =>
    match s.operands, more with
    | _ :: _ :: extra :: _, _ => call.misused 1 (ofString "extra operand " ++ inMarks extra)
    | _, _ =>
      let set := complement a
      if s.has 'd' then
        if s.has 's' then
          { call.writing (squeezed b (call.input.filter fun c => !set.contains c)) with
            input := [] }
        else
          { call.ending 1 with
            errors := call.complaint (ofString "extra operand " ++
                inMarks (s.operands.getLast?.getD [])) ++
              ofString "Only one string may be given when deleting without squeezing repeats.\n" ++
              call.pointing }
      else if b = [] then
        call.failing 1 (ofString "when not truncating set1, string2 must be non-empty")
      else
        let text := call.input.map (exchanged set b)
        { call.writing (if s.has 's' then squeezed b text else text) with input := [] }

/-- `rev`. -/
def mirrored : Tool := withOptions "" "" 1 fun s =>
  overFiles s.operands 1 plainFault fun _ content =>
    let (lines, ended) := linesOf content
    together (lines.map List.reverse) ended

end DetectionMerge.Shell
