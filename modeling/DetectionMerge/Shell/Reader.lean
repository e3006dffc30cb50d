import DetectionMerge.Shell.Command
import DetectionMerge.Text.Digit

/-! Reading the text of a shell script, one complete command after the other. -/

namespace DetectionMerge.Shell

/-! ### Problems -/

/-- What keeps a script from being read. -/
inductive Flaw
  | unexpected (found : String) (expected : Option String)
  | openQuote | openBrace | openValue | openSubstitution
  | badLoopName | badFunctionName
  deriving DecidableEq, Repr

def Flaw.message : Flaw → String
  | .unexpected found (some expected) => s!"{found} unexpected (expecting {expected})"
  | .unexpected found none => s!"{found} unexpected"
  | .openQuote => "Unterminated quoted string"
  | .openBrace => "Missing '\x7d'"
  | .openValue => "Missing '))'"
  | .openSubstitution => "EOF in backquote substitution"
  | .badLoopName => "Bad for loop variable"
  | .badFunctionName => "Bad function name"

/-- A flaw in a line. -/
structure Problem where
  line : Nat
  flaw : Flaw
  deriving DecidableEq, Repr

def lineFeeds (cs : Octets) : Nat := cs.count '\n'

/-- The line where so many characters are left of a text with so many line
feeds. -/
def lineAt (lines : Nat) (rest : Octets) : Nat := lines - lineFeeds rest + 1

/-! ### Tokens -/

inductive Token
  | ending
  | newline
  | operator (text : String)
  | keyword (name : String)
  | redirection (stream : Nat) (direction : Direction) (stripped : Bool)
  | word (w : Word)

def Token.name : Token → String
  | .ending => "end of file"
  | .newline => "newline"
  | .operator text | .keyword text => s!"\"{text}\""
  | .redirection .. => "redirection"
  | .word _ => "word"

def keywords : List String :=
  ["if", "then", "elif", "else", "fi", "for", "in", "while", "until", "do", "done", "case", "esac",
    "\x7b", "\x7d", "!"]

/-- The names of the tokens that end a list of commands. -/
def closers : List String :=
  ["then", "elif", "else", "fi", "do", "done", "esac", "\x7d", ")", ";;"]

def Token.closes : Token → Bool
  | .operator text | .keyword text => closers.contains text
  | .ending => true
  | _ => false

def afterComment (cs : Octets) : Octets := cs.dropWhile (· ≠ '\n')

/-- What follows blanks, continued lines and, if they do not count, line
feeds. -/
def skipBlanks (newlines : Bool) : Octets → Octets
  | ' ' :: rest | '\t' :: rest => skipBlanks newlines rest
  | '\\' :: '\n' :: rest => skipBlanks newlines rest
  | '\n' :: rest => if newlines then skipBlanks newlines rest else '\n' :: rest
  | cs => cs

/-- The same without comments; each of them is followed by a line feed. -/
def skipSpace (newlines : Bool) : Nat → Octets → Octets
  | 0, cs => cs
  | n + 1, cs =>
    match skipBlanks newlines cs with
    | '#' :: rest => skipSpace newlines n (afterComment rest)
    | cs => cs

def operator? : Octets → Option (Token × Octets)
  | '\n' :: rest => some (.newline, rest)
  | '&' :: '&' :: rest => some (.operator "&&", rest)
  | '|' :: '|' :: rest => some (.operator "||", rest)
  | ';' :: ';' :: rest => some (.operator ";;", rest)
  | c :: rest =>
    if c ∈ ['&', '|', ';', '(', ')'] then some (.operator (String.singleton c), rest) else none
  | [] => none

/-- The redirection at the beginning, perhaps of a given stream. -/
def redirection? (stream : Option Nat) : Octets → Option (Token × Octets)
  | '<' :: '<' :: '-' :: rest => some (.redirection (stream.getD 0) .document true, rest)
  | '<' :: '<' :: rest => some (.redirection (stream.getD 0) .document false, rest)
  | '<' :: '&' :: rest => some (.redirection (stream.getD 0) .copy false, rest)
  | '<' :: '>' :: rest => some (.redirection (stream.getD 0) .both false, rest)
  | '<' :: rest => some (.redirection (stream.getD 0) .input false, rest)
  | '>' :: '>' :: rest => some (.redirection (stream.getD 1) .append false, rest)
  | '>' :: '&' :: rest => some (.redirection (stream.getD 1) .copy false, rest)
  | '>' :: '|' :: rest | '>' :: rest => some (.redirection (stream.getD 1) .output false, rest)
  | _ => none

/-! ### Names -/

def isNameChar (c : Char) : Bool := c.isAlphanum || c = '_'

def isName (cs : Octets) : Bool :=
  match cs with
  | c :: _ => !c.isDigit && cs.all isNameChar
  | [] => false

/-- The name and the rest of a word that assigns to it. -/
def assignment? (w : Word) : Option (Octets × Word) :=
  let name := w.takeWhile fun piece => match piece with
    | .char c false => isNameChar c
    | _ => false
  match (Word.plain? name).filter isName, w.drop name.length with
  | some name, .char '=' false :: value => some (name, value)
  | _, _ => none

/-- The parameter that one character names. -/
def special? (c : Char) : Option Parameter :=
  match c with
  | '#' => some .count
  | '@' => some (.arguments false)
  | '*' => some (.arguments true)
  | '?' => some .status
  | '-' => some .options
  | '$' | '!' => some .process
  | c => if c.isDigit then some (.argument (c.toNat - '0'.toNat)) else none

/-- The parameter that braces name at their beginning. -/
def braced? (cs : Octets) : Option (Parameter × Octets) :=
  match cs with
  | [] => none
  | c :: rest =>
    let name := cs.takeWhile isNameChar
    if isName name then some (.named name, cs.drop name.length)
    else
      let digits := cs.takeWhile Char.isDigit
      match Text.natural? digits with
      | some n => some (.argument n, cs.drop digits.length)
      | none => (special? c).map fun p => (p, rest)

/-- Whether the operand is a pattern, in which quotation marks always count. -/
def Use.isPattern : Use → Bool
  | .withoutStart _ | .withoutEnd _ => true
  | _ => false

/-- What braces do with their parameter. -/
def use? : Octets → Option (Use × Octets)
  | ':' :: '-' :: rest => some (.orElse true, rest)
  | '-' :: rest => some (.orElse false, rest)
  | ':' :: '=' :: rest => some (.assign true, rest)
  | '=' :: rest => some (.assign false, rest)
  | ':' :: '?' :: rest => some (.demand true, rest)
  | '?' :: rest => some (.demand false, rest)
  | ':' :: '+' :: rest => some (.ifThere true, rest)
  | '+' :: rest => some (.ifThere false, rest)
  | '#' :: '#' :: rest => some (.withoutStart true, rest)
  | '#' :: rest => some (.withoutStart false, rest)
  | '%' :: '%' :: rest => some (.withoutEnd true, rest)
  | '%' :: rest => some (.withoutEnd false, rest)
  | _ => none

/-! ### Documents -/

/-- The lines up to a delimiter, the number of lines that they take with it, and
what follows. -/
def documentLines (stripped : Bool) (delimiter : Octets) :
    List Octets → List Octets × Nat × List Octets
  | [] => ([], 0, [])
  | line :: rest =>
    let line := if stripped then line.dropWhile (· = '\t') else line
    if line = delimiter then ([], 1, rest)
    else
      let (body, count, rest) := documentLines stripped delimiter rest
      (line :: body, count + 1, rest)

/-- The document that begins in the next line, and the script without it. In its
place stand continued lines, so that the other lines keep their numbers. -/
def takeDocument (stripped : Bool) (delimiter cs : Octets) : Octets × Octets :=
  let line := cs.takeWhile (· ≠ '\n')
  match cs.drop line.length with
  | [] => ([], cs)
  | _ :: after =>
    let (lines, _) := linesOf after
    let (body, count, rest) := documentLines stripped delimiter lines
    (ofLines body, line ++ '\n' :: (List.replicate count ['\\', '\n']).flatten ++ ofLines rest)

/-- The text of a delimiter, and whether a part of it is quoted. -/
def delimiterOf (w : Word) : Octets × Bool :=
  (w.filterMap fun piece => match piece with
    | .char c _ => some c
    | _ => none,
   w.any fun piece => match piece with
    | .char _ quoted => quoted
    | .quotes => true
    | _ => false)

/-! ### Words -/

/-- Where pieces of words stand. -/
inductive Context
  /-- Up to a blank or an operator. -/
  | plain
  /-- Up to a quotation mark. -/
  | double
  /-- Up to a closing brace. -/
  | brace (quoted : Bool)
  /-- Up to the end. -/
  | document
  /-- Up to two closing parentheses, after so many opening ones. -/
  | value (depth : Nat)
  deriving DecidableEq, Repr

def Context.quoted : Context → Bool
  | .plain => false
  | .brace quoted => quoted
  | _ => true

/-- Whether a backslash before a character is left out there. -/
def Context.escapes (context : Context) (c : Char) : Bool :=
  match context with
  | .plain | .brace false => true
  | .double | .value _ => c ∈ ['$', '\x60', '"', '\\']
  | .brace true => c ∈ ['$', '\x60', '"', '\\', '\x7d']
  | .document => c ∈ ['$', '\x60', '\\']

/-- The text between accents, without the backslashes that belong to them. -/
def accented? (quoted : Bool) : Octets → Option (Octets × Octets)
  | [] => none
  | '\x60' :: rest => some ([], rest)
  | '\\' :: c :: rest =>
    (accented? quoted rest).map fun (text, rest) =>
      (if c ∈ ['$', '\x60', '\\'] ∨ (quoted ∧ c = '"') then (c :: text, rest)
      else ('\\' :: c :: text, rest))
  | c :: rest => (accented? quoted rest).map fun (text, rest) => (c :: text, rest)

/-- The pieces between two quotation marks. They make a word unless they consist
of all arguments, of which there may be none. -/
def enquote (pieces : Word) : Word :=
  match pieces with
  | [.parameter (.arguments false) .value _ _] => pieces
  | _ => .quotes :: pieces

/-! ### Commands -/

def unexpected {α : Type} (lines : Nat) (expected : Option String) (token : Token) (rest : Octets) :
    Except Problem α :=
  .error ⟨lineAt lines rest, .unexpected token.name (expected.map fun name => s!"\"{name}\"")⟩

def Command.withRedirections (line : Nat) (c : Command) : List Redirection → Command
  | [] => c
  | redirections => .redirected line c redirections

mutual

/-- The pieces of a word in a context, after some pieces in reverse. -/
def readPieces (lines : Nat) : Nat → Context → Word → Octets → Except Problem (Word × Octets)
  | 0, _, _, cs => .error ⟨lineAt lines cs, .openQuote⟩
  | fuel + 1, context, before, cs =>
    match context, cs with
    | .plain, [] | .document, [] => .ok (before.reverse, [])
    | .double, [] => .error ⟨lineAt lines [], .openQuote⟩
    | .brace _, [] => .error ⟨lineAt lines [], .openBrace⟩
    | .value _, [] => .error ⟨lineAt lines [], .openValue⟩
    | .double, '"' :: rest | .brace _, '\x7d' :: rest | .value 0, ')' :: ')' :: rest =>
      .ok (before.reverse, rest)
    | .brace false, '\n' :: _ => .error ⟨lineAt lines cs, .openBrace⟩
    | context, '\\' :: '\n' :: rest => readPieces lines fuel context before rest
    | context, ['\\'] => readPieces lines fuel context (.char '\\' context.quoted :: before) []
    | context, '\\' :: c :: rest =>
      if context.escapes c then readPieces lines fuel context (.char c true :: before) rest
      else readPieces lines fuel context (.char '\\' true :: before) (c :: rest)
    | context, '$' :: rest => do
      let (piece, rest) ← readDollar lines fuel context.quoted rest
      readPieces lines fuel context (piece :: before) rest
    | context, '\x60' :: rest =>
      match accented? context.quoted rest with
      | none => .error ⟨lineAt lines [], .openSubstitution⟩
      | some (text, rest) => do
        let (c, _) ← readList (lineFeeds text) fuel true text
        readPieces lines fuel context (.output c context.quoted :: before) rest
    | .plain, '\'' :: rest | .brace false, '\'' :: rest =>
      let text := rest.takeWhile (· ≠ '\'')
      match rest.drop text.length with
      | [] => .error ⟨lineAt lines [], .openQuote⟩
      | _ :: rest =>
        let quoted := (text.map fun c => Piece.char c true).reverse
        readPieces lines fuel context (quoted ++ .quotes :: before) rest
    | .plain, '"' :: rest | .brace _, '"' :: rest => do
      let (pieces, rest) ← readPieces lines fuel .double [] rest
      readPieces lines fuel context ((enquote pieces).reverse ++ before) rest
    | .value depth, '(' :: rest =>
      readPieces lines fuel (.value (depth + 1)) (.char '(' true :: before) rest
    | .value (depth + 1), ')' :: rest =>
      readPieces lines fuel (.value depth) (.char ')' true :: before) rest
    | .plain, c :: rest =>
      if c ∈ [' ', '\t', '\n', ';', '&', '|', '<', '>', '(', ')'] then
        .ok (before.reverse, c :: rest)
      else readPieces lines fuel context (.char c false :: before) rest
    | context, c :: rest => readPieces lines fuel context (.char c context.quoted :: before) rest
termination_by structural fuel => fuel

def readDollar (lines : Nat) : Nat → Bool → Octets → Except Problem (Piece × Octets)
  | 0, _, cs => .error ⟨lineAt lines cs, .openQuote⟩
  | fuel + 1, quoted, cs =>
    match cs with
    | '(' :: '(' :: rest => do
      let (expression, rest) ← readPieces lines fuel (.value 0) [] rest
      return (.value expression quoted, rest)
    | '(' :: rest => do
      let (c, rest) ← readList lines fuel true rest
      match ← readToken lines fuel true true rest with
      | (.operator ")", rest) => return (.output c quoted, rest)
      | (token, rest) => unexpected lines (some ")") token rest
    | '\x7b' :: '#' :: '\x7d' :: rest => .ok (.parameter .count .value [] quoted, rest)
    | '\x7b' :: '#' :: rest =>
      match braced? rest with
      | some (p, '\x7d' :: rest) => .ok (.parameter p .length [] quoted, rest)
      | _ => readOperand lines fuel quoted '#' rest
    | '\x7b' :: c :: rest => readOperand lines fuel quoted c rest
    | c :: rest =>
      let name := cs.takeWhile isNameChar
      if isName name then
        .ok (.parameter (.named name) .value [] quoted, cs.drop name.length)
      else
        match special? c with
        | some p => .ok (.parameter p .value [] quoted, rest)
        | none => .ok (.char '$' quoted, cs)
    | [] => .ok (.char '$' quoted, [])
termination_by structural fuel => fuel

/-- A parameter between braces, from its first character on. -/
def readOperand (lines : Nat) : Nat → Bool → Char → Octets → Except Problem (Piece × Octets)
  | 0, _, _, cs => .error ⟨lineAt lines cs, .openQuote⟩
  | fuel + 1, quoted, c, rest =>
    match braced? (c :: rest) with
    | some (p, '\x7d' :: rest) => .ok (.parameter p .value [] quoted, rest)
    | some (p, rest) =>
      match use? rest with
      | some (use, rest) => do
        let (operand, rest) ← readPieces lines fuel (.brace (quoted && !use.isPattern)) [] rest
        return (.parameter p use operand quoted, rest)
      | none => do
        let (_, rest) ← readPieces lines fuel (.brace quoted) [] rest
        return (.meaningless, rest)
    | none => do
      let (_, rest) ← readPieces lines fuel (.brace quoted) [] (c :: rest)
      return (.meaningless, rest)
termination_by structural fuel => fuel

/-- The next token. It is told whether keywords count and whether line feeds are
passed over. -/
def readToken (lines : Nat) : Nat → Bool → Bool → Octets → Except Problem (Token × Octets)
  | 0, _, _, cs => .error ⟨lineAt lines cs, .openQuote⟩
  | fuel + 1, keywordsCount, newlines, cs =>
    let cs := skipSpace newlines (cs.length + 1) cs
    match cs, operator? cs, redirection? none cs with
    | [], _, _ => .ok (.ending, [])
    | _, some found, _ | _, none, some found => .ok found
    | _, none, none => do
      let (w, rest) ← readPieces lines fuel .plain [] cs
      match Word.plain? w with
      | some [c] =>
        match (if c.isDigit then redirection? (some (c.toNat - '0'.toNat)) rest else none) with
        | some found => return found
        | none =>
          return (if keywordsCount ∧ keywords.contains (String.singleton c) then
            .keyword (String.singleton c) else .word w, rest)
      | some text =>
        let name := String.ofList text
        return (if keywordsCount ∧ keywords.contains name then .keyword name else .word w, rest)
      | none => return (.word w, rest)
termination_by structural fuel => fuel

def readTarget (lines : Nat) : Nat → Nat → Direction → Bool → Octets →
    Except Problem (Redirection × Octets)
  | 0, _, _, _, cs => .error ⟨lineAt lines cs, .openQuote⟩
  | fuel + 1, stream, direction, stripped, cs => do
    match ← readToken lines fuel false false cs with
    | (.word w, rest) =>
      if direction = .document then
        let (delimiter, quoted) := delimiterOf w
        let (body, rest) := takeDocument stripped delimiter rest
        if quoted then return (⟨stream, direction, body.map fun c => .char c true⟩, rest)
        else
          let (pieces, _) ← readPieces (lineFeeds body) fuel .document [] body
          return (⟨stream, direction, pieces⟩, rest)
      else return (⟨stream, direction, w⟩, rest)
    | (token, rest) => unexpected lines none token rest
termination_by structural fuel => fuel

/-- The redirections after a command, after some in reverse. -/
def readRedirections (lines : Nat) : Nat → List Redirection → Octets →
    Except Problem (List Redirection × Octets)
  | 0, _, cs => .error ⟨lineAt lines cs, .openQuote⟩
  | fuel + 1, before, cs => do
    match ← readToken lines fuel true false cs with
    | (.redirection stream direction stripped, rest) =>
      let (r, rest) ← readTarget lines fuel stream direction stripped rest
      readRedirections lines fuel (r :: before) rest
    | _ => return (before.reverse, cs)
termination_by structural fuel => fuel

/-- A simple command after some of its parts, each in reverse, or a function. -/
def readSimple (lines line : Nat) : Nat → List (Octets × Word) → List Word → List Redirection →
    Octets → Except Problem (Command × Octets)
  | 0, _, _, _, cs => .error ⟨lineAt lines cs, .openQuote⟩
  | fuel + 1, assignments, words, redirections, cs => do
    let finished : Command × Octets :=
      (.simple line assignments.reverse words.reverse redirections.reverse, cs)
    match ← readToken lines fuel false false cs with
    | (.word w, rest) =>
      match words, assignment? w with
      | [], some assignment =>
        readSimple lines line fuel (assignment :: assignments) words redirections rest
      | _, _ => readSimple lines line fuel assignments (w :: words) redirections rest
    | (.redirection stream direction stripped, rest) =>
      let (r, rest) ← readTarget lines fuel stream direction stripped rest
      readSimple lines line fuel assignments words (r :: redirections) rest
    | (.operator "(", rest) =>
      match assignments, words, redirections with
      | [], [w], [] =>
        match ← readToken lines fuel false false rest with
        | (.operator ")", rest) =>
          match (Word.plain? w).filter isName with
          | some name =>
            let (body, rest) ← readCommand lines fuel true rest
            return (.function name body, rest)
          | none => .error ⟨lineAt lines rest, .badFunctionName⟩
        | (token, rest) => unexpected lines (some ")") token rest
      | _, _, _ => return finished
    | _ => return finished
termination_by structural fuel => fuel

def readCommand (lines : Nat) : Nat → Bool → Octets → Except Problem (Command × Octets)
  | 0, _, cs => .error ⟨lineAt lines cs, .openQuote⟩
  | fuel + 1, newlines, cs => do
    let line := lineAt lines (skipSpace newlines (cs.length + 1) cs)
    let closing (name : String) (c : Command) (cs : Octets) :
        Except Problem (Command × Octets) := do
      let (token, rest) ← readToken lines fuel true true cs
      if token.name = s!"\"{name}\"" then
        let (redirections, rest) ← readRedirections lines fuel [] rest
        return (c.withRedirections line redirections, rest)
      else unexpected lines (some name) token rest
    match ← readToken lines fuel true newlines cs with
    | (.word _, _) | (.redirection .., _) =>
      readSimple lines line fuel [] [] [] (skipSpace newlines (cs.length + 1) cs)
    | (.keyword "if", rest) =>
      let (c, rest) ← readConditional lines fuel rest
      closing "fi" c rest
    | (.keyword "while", rest) =>
      let (condition, body, rest) ← readLoop lines fuel rest
      closing "done" (.loop true condition body) rest
    | (.keyword "until", rest) =>
      let (condition, body, rest) ← readLoop lines fuel rest
      closing "done" (.loop false condition body) rest
    | (.keyword "for", rest) =>
      let (c, rest) ← readEach lines fuel rest
      closing "done" c rest
    | (.keyword "case", rest) =>
      match ← readToken lines fuel false false rest with
      | (.word w, rest) =>
        match ← readToken lines fuel true true rest with
        | (.keyword "in", rest) =>
          let (branches, rest) ← readBranches lines fuel [] rest
          let (redirections, rest) ← readRedirections lines fuel [] rest
          return (Command.withRedirections line (.choice w branches) redirections, rest)
        | (token, rest) => unexpected lines (some "in") token rest
      | (token, rest) =>
        .error ⟨lineAt lines rest, .unexpected token.name (some "word")⟩
    | (.keyword "\x7b", rest) =>
      let (c, rest) ← readList lines fuel false rest
      closing "\x7d" c rest
    | (.operator "(", rest) =>
      let (c, rest) ← readList lines fuel false rest
      closing ")" (.subshell c) rest
    | (token, rest) => unexpected lines none token rest
termination_by structural fuel => fuel

/-- A conditional after the word that opens it or one of its branches, up to
the word that closes it. -/
def readConditional (lines : Nat) : Nat → Octets → Except Problem (Command × Octets)
  | 0, cs => .error ⟨lineAt lines cs, .openQuote⟩
  | fuel + 1, cs => do
    let (condition, rest) ← readList lines fuel false cs
    match ← readToken lines fuel true true rest with
    | (.keyword "then", rest) =>
      let (consequence, rest) ← readList lines fuel false rest
      match ← readToken lines fuel true true rest with
      | (.keyword "elif", rest) =>
        let (alternative, rest) ← readConditional lines fuel rest
        return (.conditional condition consequence alternative, rest)
      | (.keyword "else", rest) =>
        let (alternative, rest) ← readList lines fuel false rest
        return (.conditional condition consequence alternative, rest)
      | _ => return (.conditional condition consequence .nothing, rest)
    | (token, rest) => unexpected lines (some "then") token rest
termination_by structural fuel => fuel

/-- The condition and the body of a loop, up to the word that closes it. -/
def readLoop (lines : Nat) : Nat → Octets → Except Problem (Command × Command × Octets)
  | 0, cs => .error ⟨lineAt lines cs, .openQuote⟩
  | fuel + 1, cs => do
    let (condition, rest) ← readList lines fuel false cs
    let (body, rest) ← readBody lines fuel rest
    return (condition, body, rest)
termination_by structural fuel => fuel

/-- The body of a loop, up to the word that closes it. -/
def readBody (lines : Nat) : Nat → Octets → Except Problem (Command × Octets)
  | 0, cs => .error ⟨lineAt lines cs, .openQuote⟩
  | fuel + 1, cs => do
    match ← readToken lines fuel true true cs with
    | (.keyword "do", rest) => readList lines fuel false rest
    | (token, rest) => unexpected lines (some "do") token rest
termination_by structural fuel => fuel

/-- A loop over words, up to the word that closes it. -/
def readEach (lines : Nat) : Nat → Octets → Except Problem (Command × Octets)
  | 0, cs => .error ⟨lineAt lines cs, .openQuote⟩
  | fuel + 1, cs => do
    let (token, rest) ← readToken lines fuel false false cs
    let name := match token with
      | .word w => (Word.plain? w).filter isName
      | _ => none
    match name with
    | none => .error ⟨lineAt lines rest, .badLoopName⟩
    | some name =>
      match ← readToken lines fuel true true rest with
      | (.keyword "in", rest) =>
        let (words, rest) ← readWords lines fuel [] rest
        let (body, rest) ← readBody lines fuel rest
        return (.each name (some words) body, rest)
      | (.operator ";", rest) =>
        let (body, rest) ← readBody lines fuel rest
        return (.each name none body, rest)
      | _ =>
        let (body, rest) ← readBody lines fuel rest
        return (.each name none body, rest)
termination_by structural fuel => fuel

/-- Words up to a separator, after some in reverse. -/
def readWords (lines : Nat) : Nat → List Word → Octets → Except Problem (List Word × Octets)
  | 0, _, cs => .error ⟨lineAt lines cs, .openQuote⟩
  | fuel + 1, before, cs => do
    match ← readToken lines fuel false false cs with
    | (.word w, rest) => readWords lines fuel (w :: before) rest
    | (.newline, rest) | (.operator ";", rest) => return (before.reverse, rest)
    | (token, rest) => unexpected lines none token rest
termination_by structural fuel => fuel

/-- The branches of a choice, after some in reverse, with the word that closes
it. -/
def readBranches (lines : Nat) : Nat → List (List Word × Command) → Octets →
    Except Problem (List (List Word × Command) × Octets)
  | 0, _, cs => .error ⟨lineAt lines cs, .openQuote⟩
  | fuel + 1, before, cs => do
    match ← readToken lines fuel true true cs with
    | (.keyword "esac", rest) => return (before.reverse, rest)
    | (token, rest) =>
      let start := match token with
        | .operator "(" => rest
        | _ => skipSpace true (cs.length + 1) cs
      let (patterns, rest) ← readPatterns lines fuel [] start
      let (c, rest) ← readList lines fuel true rest
      match ← readToken lines fuel true true rest with
      | (.keyword "esac", rest) => return (((patterns, c) :: before).reverse, rest)
      | (.operator ";;", rest) => readBranches lines fuel ((patterns, c) :: before) rest
      | (token, rest) => unexpected lines (some ";;") token rest
termination_by structural fuel => fuel

/-- The patterns of a branch, after some in reverse, with the parenthesis behind
them. -/
def readPatterns (lines : Nat) : Nat → List Word → Octets → Except Problem (List Word × Octets)
  | 0, _, cs => .error ⟨lineAt lines cs, .openQuote⟩
  | fuel + 1, before, cs => do
    let (token, rest) ← readToken lines fuel false false cs
    let w := match token with
      | .word w => w
      | _ => []
    match ← readToken lines fuel true false rest with
    | (.operator "|", rest) => readPatterns lines fuel (w :: before) rest
    | (.operator ")", rest) => return ((w :: before).reverse, rest)
    | (token, rest) => unexpected lines (some ")") token rest
termination_by structural fuel => fuel

def readPipeline (lines : Nat) : Nat → Bool → Octets → Except Problem (Command × Octets)
  | 0, _, cs => .error ⟨lineAt lines cs, .openQuote⟩
  | fuel + 1, newlines, cs => do
    match ← readToken lines fuel true newlines cs with
    | (.keyword "!", rest) =>
      let (c, rest) ← readCommand lines fuel false rest
      let (c, rest) ← readPiped lines fuel c rest
      return (.negation c, rest)
    | _ =>
      let (c, rest) ← readCommand lines fuel newlines cs
      readPiped lines fuel c rest
termination_by structural fuel => fuel

/-- The commands behind a first one that reads from none. -/
def readPiped (lines : Nat) : Nat → Command → Octets → Except Problem (Command × Octets)
  | 0, _, cs => .error ⟨lineAt lines cs, .openQuote⟩
  | fuel + 1, first, cs => do
    match ← readToken lines fuel true false cs with
    | (.operator "|", rest) =>
      let (second, rest) ← readCommand lines fuel true rest
      readPiped lines fuel (.pipe first second) rest
    | _ => return (first, cs)
termination_by structural fuel => fuel

/-- Commands behind a first one that run if it succeeds or fails. -/
def readChain (lines : Nat) : Nat → Command → Octets → Except Problem (Command × Octets)
  | 0, _, cs => .error ⟨lineAt lines cs, .openQuote⟩
  | fuel + 1, first, cs => do
    match ← readToken lines fuel true false cs with
    | (.operator "&&", rest) =>
      let (second, rest) ← readPipeline lines fuel true rest
      readChain lines fuel (.both first second) rest
    | (.operator "||", rest) =>
      let (second, rest) ← readPipeline lines fuel true rest
      readChain lines fuel (.either first second) rest
    | _ => return (first, cs)
termination_by structural fuel => fuel

/-- A list of commands up to what closes it. The list can be empty where this is
allowed. -/
def readList (lines : Nat) : Nat → Bool → Octets → Except Problem (Command × Octets)
  | 0, _, cs => .error ⟨lineAt lines cs, .openQuote⟩
  | fuel + 1, canBeEmpty, cs => do
    let (token, _) ← readToken lines fuel true true cs
    let isEnd := match token with
      | .ending => true
      | token => canBeEmpty && token.closes
    if isEnd then return (.nothing, skipSpace true (cs.length + 1) cs)
    else
      let (first, rest) ← readPipeline lines fuel true cs
      let (first, rest) ← readChain lines fuel first rest
      match ← readToken lines fuel true false rest with
      | (.operator ";", rest) | (.newline, rest) =>
        let (second, rest) ← readList lines fuel true rest
        return (.sequence first second, rest)
      | (.operator "&", rest) =>
        let (second, rest) ← readList lines fuel true rest
        return (.sequence (.background first) second, rest)
      | _ => return (first, rest)
termination_by structural fuel => fuel

def readLine (lines : Nat) : Nat → Octets → Except Problem (Command × Octets)
  | 0, cs => .error ⟨lineAt lines cs, .openQuote⟩
  | fuel + 1, cs => do
    match ← readToken lines fuel true false cs with
    | (.newline, rest) | (.ending, rest) => return (.nothing, rest)
    | _ =>
      let (first, rest) ← readPipeline lines fuel false cs
      let (first, rest) ← readChain lines fuel first rest
      match ← readToken lines fuel true false rest with
      | (.newline, rest) | (.ending, rest) => return (first, rest)
      | (.operator ";", rest) =>
        let (second, rest) ← readLine lines fuel rest
        return (.sequence first second, rest)
      | (.operator "&", rest) =>
        let (second, rest) ← readLine lines fuel rest
        return (.sequence (.background first) second, rest)
      | (token, rest) => unexpected lines none token rest
termination_by structural fuel => fuel

end

/-- The commands in the next lines of a script with so many line feeds. No
reading is nested deeper than a few times the number of characters. -/
def Command.ofLines (lines : Nat) (cs : Octets) : Except Problem (Command × Octets) :=
  readLine lines (16 * cs.length + 64) cs

end DetectionMerge.Shell
