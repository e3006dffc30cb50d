import DetectionMerge.Json.Document
import DetectionMerge.Json.Fields
import DetectionMerge.Proofs.Json.Numeral
import DetectionMerge.Proofs.Traversal

/-! Documents written as JSON text and read again. The text of every document, on
one line or indented, is grammatical, and what it spells has the document's shape:
numbers that read as the document's numbers, texts that decode to its texts, and
`null` for a number that is not finite. The reader and the builder are followed
apart: the text is read as tokens, and the tokens build the value. Indented text
has the same tokens with white space between them. -/

namespace DetectionMerge.Json

/-! ### What a document spells -/

mutual

/-- Whether a value as it is spelled stands for a document. -/
def Document.Spells : Document → Json → Prop
  | .null, v => v = .null
  | .boolean b, v => v = .boolean b
  | .integer k, v => ∃ n, v = .number n ∧ n.integer? = some k
  | .real (.finite x), v => ∃ n, v = .number n ∧ n.integral = false ∧ n.decimal.nearest = .finite x
  | .real _, v => v = .null
  | .text s, v => ∃ parts, v = .text parts ∧ parts.decode? = some s.toList
  | .list items, v => ∃ values, v = .array values ∧ SpellsItems items values
  | .record members, v => ∃ fields, v = .object fields ∧ SpellsMembers members fields

/-- Whether values stand for the items of a list, one by one. -/
def Document.SpellsItems : List Document → List Json → Prop
  | [], values => values = []
  | item :: items, values => ∃ v rest, values = v :: rest ∧ item.Spells v ∧ SpellsItems items rest

/-- Whether keys and values stand for the members of a record, one by one. -/
def Document.SpellsMembers : List (String × Document) → List (RawText × Json) → Prop
  | [], fields => fields = []
  | (key, value) :: members, fields =>
    ∃ parts v rest, fields = (parts, v) :: rest ∧ parts.decode? = some key.toList ∧
      value.Spells v ∧ SpellsMembers members rest

end

/-! ### Characters between tokens -/

/-- A character that continues no number. -/
def Stops (c : Char) : Prop := ∀ (n : Numeral) phase, n.advance phase c = none

theorem stops_of {c : Char} (digit : Text.asciiDigit? c = none)
    (other : c ≠ '.' ∧ c ≠ 'e' ∧ c ≠ 'E' ∧ c ≠ '+' ∧ c ≠ '-') : Stops c := by
  intro n phase
  obtain ⟨h1, h2, h3, h4, h5⟩ := other
  cases phase <;> simp [Numeral.advance, digit, h1, h2, h3, h4, h5]

/-- A reader that has some tokens, the last one perhaps a number that is not yet
known to have ended. -/
def Lexer.Ends (l : Lexer) (tokens : List Token) : Prop :=
  l = ⟨.between, tokens⟩ ∨
    ∃ phase n rest, NumberPhase.complete phase ∧ tokens = .number n :: rest ∧
      l = ⟨.number phase n, rest⟩

theorem Lexer.Ends.step {l : Lexer} {tokens : List Token} (h : l.Ends tokens) {c : Char}
    (stops : Stops c) : l.step (some c) = Lexer.begin tokens c := by
  obtain rfl | ⟨phase, n, rest, complete, rfl, rfl⟩ := h
  · rfl
  · simp only [Lexer.step, stops n phase, if_pos complete]

theorem Lexer.Ends.finish {l : Lexer} {tokens : List Token} (h : l.Ends tokens) :
    l.finish = some tokens.reverse := by
  obtain rfl | ⟨phase, n, rest, complete, rfl, rfl⟩ := h
  · rfl
  · simp only [Lexer.finish, if_pos complete]

/-- A text between tokens is read as these tokens. -/
def Lexes (text : List Char) (ts : List Token) : Prop :=
  ∀ tokens, ∃ l, Lexer.scan ⟨.between, tokens⟩ text = some l ∧ l.Ends (ts.reverse ++ tokens)

/-- A character that is a token by itself. -/
def Mark (c : Char) (t : Token) : Prop :=
  Stops c ∧ ∀ tokens, Lexer.begin tokens c = some ⟨.between, t :: tokens⟩

theorem mark_comma : Mark ',' .comma := ⟨stops_of rfl (by decide), fun _ => rfl⟩
theorem mark_colon : Mark ':' .colon := ⟨stops_of rfl (by decide), fun _ => rfl⟩
theorem mark_openArray : Mark '[' .openArray := ⟨stops_of rfl (by decide), fun _ => rfl⟩
theorem mark_closeArray : Mark ']' .closeArray := ⟨stops_of rfl (by decide), fun _ => rfl⟩
theorem mark_openObject : Mark '\x7b' .openObject := ⟨stops_of rfl (by decide), fun _ => rfl⟩
theorem mark_closeObject : Mark '\x7d' .closeObject := ⟨stops_of rfl (by decide), fun _ => rfl⟩

theorem lexes_nil : Lexes [] [] := fun _ => ⟨_, rfl, .inl rfl⟩

/-- Texts may be joined where a number before the joint ends there. -/
theorem Lexes.append {text more : List Char} {ts us : List Token} (h : Lexes text ts)
    (h' : Lexes more us)
    (stops : more = [] ∧ us = [] ∨ ∃ c rest, more = c :: rest ∧ Stops c) :
    Lexes (text ++ more) (ts ++ us) := by
  intro tokens
  obtain ⟨l, scans, ends⟩ := h tokens
  rcases stops with ⟨rfl, rfl⟩ | ⟨c, rest, rfl, stops⟩
  · exact ⟨l, by simpa using scans, by simpa using ends⟩
  · obtain ⟨l', scans', ends'⟩ := h' (ts.reverse ++ tokens)
    refine ⟨l', ?_, by simpa using ends'⟩
    rw [Lexer.scan_append, scans, Option.bind_some, Lexer.scan_cons, ends.step stops]
    exact scans'

theorem Lexes.cons_mark {text : List Char} {ts : List Token} {c : Char} {t : Token} (mark : Mark c t)
    (h : Lexes text ts) : Lexes (c :: text) (t :: ts) := by
  intro tokens
  obtain ⟨l, scans, ends⟩ := h (t :: tokens)
  have first : Lexer.step ⟨.between, tokens⟩ (some c) = some ⟨.between, t :: tokens⟩ :=
    mark.2 tokens
  exact ⟨l, by rw [Lexer.scan_cons, first, Option.bind_some, scans], by simpa using ends⟩

theorem Lexes.append_mark {text more : List Char} {ts us : List Token} {c : Char} {t : Token}
    (h : Lexes text ts) (mark : Mark c t) (h' : Lexes more us) :
    Lexes (text ++ c :: more) (ts ++ t :: us) :=
  h.append (h'.cons_mark mark) (.inr ⟨c, more, rfl, mark.1⟩)

/-! ### White space between tokens -/

/-- A character that is no part of a token. -/
def Blank (c : Char) : Prop :=
  Stops c ∧ ∀ tokens, Lexer.begin tokens c = some ⟨.between, tokens⟩

theorem blank_of_isSpace {c : Char} (h : isSpace c) : Blank c := by
  have cases : c = ' ' ∨ c = '\t' ∨ c = '\n' ∨ c = '\r' := by simpa [isSpace] using h
  rcases cases with rfl | rfl | rfl | rfl <;>
    exact ⟨stops_of rfl (by decide), fun _ => rfl⟩

theorem Lexes.cons_blank {text : List Char} {ts : List Token} {c : Char} (blank : Blank c)
    (h : Lexes text ts) : Lexes (c :: text) ts := by
  intro tokens
  obtain ⟨l, scans, ends⟩ := h tokens
  have first : Lexer.step ⟨.between, tokens⟩ (some c) = some ⟨.between, tokens⟩ := blank.2 tokens
  exact ⟨l, by rw [Lexer.scan_cons, first, Option.bind_some, scans], ends⟩

theorem Lexes.append_blank {text more : List Char} {ts us : List Token} {c : Char}
    (h : Lexes text ts) (blank : Blank c) (h' : Lexes more us) :
    Lexes (text ++ c :: more) (ts ++ us) :=
  h.append (h'.cons_blank blank) (.inr ⟨c, more, rfl, blank.1⟩)

theorem Lexes.cons_space {text : List Char} {ts : List Token} (h : Lexes text ts) :
    Lexes (' ' :: text) ts :=
  h.cons_blank (blank_of_isSpace rfl)

theorem Lexes.replicate_space {text : List Char} {ts : List Token} (h : Lexes text ts) (n : ℕ) :
    Lexes (List.replicate n ' ' ++ text) ts := by
  induction n with
  | zero => exact h
  | succ n ih => exact ih.cons_space

theorem Lexes.append_newLine {text more : List Char} {ts us : List Token} (h : Lexes text ts)
    (level : ℕ) (h' : Lexes more us) :
    Lexes (text ++ Document.newLine level ++ more) (ts ++ us) := by
  rw [List.append_assoc, Document.newLine, List.cons_append]
  exact h.append_blank (blank_of_isSpace rfl) (h'.replicate_space _)

theorem Lexes.newLine {text : List Char} {ts : List Token} (h : Lexes text ts) (level : ℕ) :
    Lexes (Document.newLine level ++ text) ts :=
  lexes_nil.append_newLine level h

/-! ### Texts -/

/-- The piece of a text token that a character is read as when it was written. -/
def writtenPart (c : Char) : TextPart :=
  if c < ' ' ∧ c ≠ '\x08' ∧ c ≠ '\x0C' ∧ c ≠ '\n' ∧ c ≠ '\r' ∧ c ≠ '\t' then .codeUnit c.toNat
  else .character c

section Text

variable {tokens : List Token} {parts : RawText}

theorem scan_codeUnit {n : ℕ} (h : n < 32) :
    Lexer.scan ⟨.text parts, tokens⟩
        ['\\', 'u', '0', '0', hexDigit (n / 16), hexDigit (n % 16)] =
      some ⟨.text (.codeUnit n :: parts), tokens⟩ := by
  interval_cases n <;> rfl

/-- A character of a text is read as one piece. -/
theorem scan_escaped (c : Char) :
    Lexer.scan ⟨.text parts, tokens⟩ (escaped c) =
      some ⟨.text (writtenPart c :: parts), tokens⟩ := by
  unfold escaped writtenPart
  by_cases quote : c = '"'
  · subst quote
    rfl
  by_cases backslash : c = '\\'
  · subst backslash
    rfl
  by_cases backspace : c = '\x08'
  · subst backspace
    rfl
  by_cases formFeed : c = '\x0C'
  · subst formFeed
    rfl
  by_cases lineFeed : c = '\n'
  · subst lineFeed
    rfl
  by_cases carriageReturn : c = '\r'
  · subst carriageReturn
    rfl
  by_cases tab : c = '\t'
  · subst tab
    rfl
  simp only [quote, backslash, backspace, formFeed, lineFeed, carriageReturn, tab, if_false, ne_eq,
    not_false_eq_true, and_true]
  split_ifs with control
  · exact scan_codeUnit control
  · simp only [Lexer.scan_cons, Lexer.scan_nil, Lexer.step, Lexer.insideText, quote, backslash,
      control, if_false, Option.bind_some]

theorem scan_flatMap_escaped (cs : List Char) :
    Lexer.scan ⟨.text parts, tokens⟩ (cs.flatMap escaped) =
      some ⟨.text ((cs.map writtenPart).reverse ++ parts), tokens⟩ := by
  induction cs generalizing parts with
  | nil => rfl
  | cons c cs ih =>
    rw [List.flatMap_cons, Lexer.scan_append, scan_escaped, Option.bind_some, ih]
    simp

/-- What is read between quotation marks is one token. -/
theorem scan_quotation {cs : List Char} {raw : RawText}
    (inside : Lexer.scan ⟨.text [], tokens⟩ cs = some ⟨.text raw.reverse, tokens⟩) :
    Lexer.scan ⟨.between, tokens⟩ ('"' :: cs ++ ['"']) = some ⟨.between, .text raw :: tokens⟩ := by
  have opens : Lexer.step ⟨.between, tokens⟩ (some '"') = some ⟨.text [], tokens⟩ := rfl
  have closes (parts : RawText) : Lexer.scan ⟨.text parts, tokens⟩ ['"'] =
      some ⟨.between, .text parts.reverse :: tokens⟩ := rfl
  rw [List.cons_append, Lexer.scan_cons, opens, Option.bind_some, Lexer.scan_append, inside,
    Option.bind_some, closes, List.reverse_reverse]

theorem lexes_quoted (s : String) : Lexes (quoted s) [.text (s.toList.map writtenPart)] := by
  refine fun tokens => ⟨_, scan_quotation ?_, .inl rfl⟩
  rw [scan_flatMap_escaped, List.append_nil]

end Text

/-- The pieces of a written text decode to the text. -/
theorem decode?_writtenPart (cs : List Char) :
    RawText.decode? (cs.map writtenPart) = some cs := by
  induction cs with
  | nil => rfl
  | cons c cs ih =>
    rw [List.map_cons, writtenPart]
    split_ifs with control
    · have small : c.toNat < 32 := control.1
      have scalar : c.toNat < 0xD800 ∨ 0xDFFF < c.toNat := by omega
      rw [RawText.decode?.eq_def]
      simp only [if_pos scalar, ih, Char.ofNat_toNat, Option.map_some]
    · rw [RawText.decode?, ih, Option.map_some]

/-! ### Names -/

theorem lexes_null : Lexes ['n', 'u', 'l', 'l'] [.null] := fun _ => ⟨_, rfl, .inl rfl⟩

theorem lexes_boolean (b : Bool) : Lexes (Document.booleanText b) [.boolean b] := by
  cases b <;> exact fun _ => ⟨_, rfl, .inl rfl⟩

theorem lexes_number {text : List Char} {n : Numeral} (h : Written text n) :
    Lexes text [.number n] := by
  intro tokens
  obtain ⟨phase, complete, scans⟩ := h tokens
  exact ⟨_, scans, .inr ⟨phase, n, tokens, complete, rfl, rfl⟩⟩

/-! ### Building a value -/

/-- These tokens build a value, wherever a value may stand. -/
def Builds (ts : List Token) (v : Json) : Prop :=
  ∀ stack, ts.foldlM Builder.step (.value stack) = some (.put v stack)

/-- These tokens build items behind others of the same array. -/
def BuildsItems (ts : List Token) (values : List Json) : Prop :=
  ∀ stack items, ts.foldlM Builder.step (.value (.array items :: stack)) =
    some (.afterItem stack (values.reverse ++ items))

/-- These tokens build members behind others of the same object. -/
def BuildsMembers (ts : List Token) (fields : List (RawText × Json)) : Prop :=
  ∀ stack members, ts.foldlM Builder.step (.nextKey stack members) =
    some (.afterMember stack (fields.reverse ++ members))

/-- The first item of an array is built like the others. -/
theorem BuildsItems.first {ts : List Token} {values : List Json} (h : BuildsItems ts values)
    (stack : List Frame) :
    ts.foldlM Builder.step (.firstItem stack) = some (.afterItem stack values.reverse) := by
  have value := h stack []
  rw [List.append_nil] at value
  cases ts with
  | nil => simp at value
  | cons t ts =>
    rw [← value]
    cases t with
    | closeArray => simp [Builder.step, Builder.begin] at value
    | _ => rfl

/-- The first member of an object is built like the others. -/
theorem BuildsMembers.first {ts : List Token} {fields : List (RawText × Json)}
    (h : BuildsMembers ts fields) (stack : List Frame) :
    ts.foldlM Builder.step (.firstKey stack) = some (.afterMember stack fields.reverse) := by
  have value := h stack []
  rw [List.append_nil] at value
  cases ts with
  | nil => simp at value
  | cons t ts =>
    rw [← value]
    cases t with
    | text key => rfl
    | _ => simp [Builder.step] at value

theorem Builds.item {ts : List Token} {v : Json} (h : Builds ts v) : BuildsItems ts [v] :=
  fun stack items => h (.array items :: stack)

theorem Builds.items {ts us : List Token} {v : Json} {values : List Json} (h : Builds ts v)
    (h' : BuildsItems us values) : BuildsItems (ts ++ .comma :: us) (v :: values) := by
  intro stack items
  have comma (items : List Json) : Builder.step (.afterItem stack items) .comma =
      some (.value (.array items :: stack)) := rfl
  rw [List.foldlM_append, h.item stack items, Option.bind_eq_bind, Option.bind_some,
    List.foldlM_cons, comma, Option.bind_eq_bind, Option.bind_some, h']
  simp

theorem Builds.member {ts : List Token} {v : Json} (h : Builds ts v) (key : RawText) :
    BuildsMembers (.text key :: .colon :: ts) [(key, v)] :=
  fun stack members => h (.object members key :: stack)

theorem Builds.members {ts us : List Token} {v : Json} {fields : List (RawText × Json)}
    (h : Builds ts v) (key : RawText) (h' : BuildsMembers us fields) :
    BuildsMembers (.text key :: .colon :: ts ++ .comma :: us) ((key, v) :: fields) := by
  intro stack members
  have comma (members : List (RawText × Json)) : Builder.step (.afterMember stack members) .comma =
      some (.nextKey stack members) := rfl
  rw [List.foldlM_append, h.member key stack members, Option.bind_eq_bind, Option.bind_some,
    List.foldlM_cons, comma, Option.bind_eq_bind, Option.bind_some, h']
  simp

theorem builds_array {ts : List Token} {values : List Json} (h : BuildsItems ts values) :
    Builds (.openArray :: ts ++ [.closeArray]) (.array values) := by
  intro stack
  rw [List.cons_append, List.foldlM_cons]
  change (ts ++ [Token.closeArray]).foldlM Builder.step (.firstItem stack) = _
  rw [List.foldlM_append, h.first]
  simp [Builder.step]

theorem builds_object {ts : List Token} {fields : List (RawText × Json)}
    (h : BuildsMembers ts fields) :
    Builds (.openObject :: ts ++ [.closeObject]) (.object fields) := by
  intro stack
  rw [List.cons_append, List.foldlM_cons]
  change (ts ++ [Token.closeObject]).foldlM Builder.step (.firstKey stack) = _
  rw [List.foldlM_append, h.first]
  simp [Builder.step]

/-! ### Documents -/

namespace Document

/-- The text of a document, on one line or indented, is read as a value. -/
def ReadsAs (d : Document) (v : Json) : Prop :=
  ∃ ts, Lexes d.compact ts ∧ (∀ level, Lexes (d.indented level) ts) ∧ Builds ts v

mutual

/-- The text of a document is read as a value that stands for the document. -/
theorem exists_readsAs : (d : Document) → ∃ v, d.Spells v ∧ d.ReadsAs v
  | .null => ⟨.null, rfl, [.null], lexes_null, fun _ => lexes_null, fun _ => rfl⟩
  | .boolean b =>
    ⟨.boolean b, rfl, [.boolean b], lexes_boolean b, fun _ => lexes_boolean b, fun _ => rfl⟩
  | .integer k => by
    have lexes := lexes_number (written_integer k)
    exact ⟨.number (integerNumeral k), ⟨_, rfl, integer?_integerNumeral k⟩,
      [.number (integerNumeral k)], lexes, fun _ => lexes, fun _ => rfl⟩
  | .real (.finite x) => by
    obtain ⟨n, written, integral, nearest⟩ := written_real x
    have lexes := lexes_number written
    exact ⟨.number n, ⟨n, rfl, integral, nearest⟩, [.number n], lexes, fun _ => lexes,
      fun _ => rfl⟩
  | .real (.infinite _) => ⟨.null, rfl, [.null], lexes_null, fun _ => lexes_null, fun _ => rfl⟩
  | .real .nan => ⟨.null, rfl, [.null], lexes_null, fun _ => lexes_null, fun _ => rfl⟩
  | .text s =>
    ⟨.text _, ⟨_, rfl, decode?_writtenPart s.toList⟩, [.text _], lexes_quoted s,
      fun _ => lexes_quoted s, fun _ => rfl⟩
  | .list [] => by
    have lexes := lexes_nil.cons_mark mark_closeArray |>.cons_mark mark_openArray
    exact ⟨.array [], ⟨[], rfl, rfl⟩, _, lexes, fun _ => lexes, fun _ => rfl⟩
  | .list (item :: items) => by
    obtain ⟨values, spells, ts, lexes, indented, builds⟩ :=
      exists_readsAs_items (item :: items) (by simp)
    have closes := lexes_nil.cons_mark mark_closeArray
    refine ⟨.array values, ⟨values, rfl, spells⟩, .openArray :: ts ++ [.closeArray], ?_,
      fun level => ?_, builds_array builds⟩
    · exact .cons_mark mark_openArray (lexes.append_mark mark_closeArray lexes_nil)
    · exact .cons_mark mark_openArray ((indented _).append_newLine level closes)
  | .record [] => by
    have lexes := lexes_nil.cons_mark mark_closeObject |>.cons_mark mark_openObject
    exact ⟨.object [], ⟨[], rfl, rfl⟩, _, lexes, fun _ => lexes, fun _ => rfl⟩
  | .record (member :: members) => by
    obtain ⟨fields, spells, ts, lexes, indented, builds⟩ :=
      exists_readsAs_members (member :: members) (by simp)
    have closes := lexes_nil.cons_mark mark_closeObject
    refine ⟨.object fields, ⟨fields, rfl, spells⟩, .openObject :: ts ++ [.closeObject], ?_,
      fun level => ?_, builds_object builds⟩
    · exact .cons_mark mark_openObject (lexes.append_mark mark_closeObject lexes_nil)
    · exact .cons_mark mark_openObject ((indented _).append_newLine level closes)

theorem exists_readsAs_items : (items : List Document) → items ≠ [] →
    ∃ values, SpellsItems items values ∧
      ∃ ts, Lexes (compactItems items) ts ∧ (∀ level, Lexes (indentedItems level items) ts) ∧
        BuildsItems ts values
  | [], nonempty => absurd rfl nonempty
  | [item], _ => by
    obtain ⟨v, spells, ts, lexes, indented, builds⟩ := exists_readsAs item
    exact ⟨[v], ⟨v, [], rfl, spells, rfl⟩, ts, lexes, fun level => (indented level).newLine level,
      builds.item⟩
  | item :: next :: items, _ => by
    obtain ⟨v, spells, ts, lexes, indented, builds⟩ := exists_readsAs item
    obtain ⟨values, spells', us, lexes', indented', builds'⟩ :=
      exists_readsAs_items (next :: items) (by simp)
    exact ⟨v :: values, ⟨v, values, rfl, spells, spells'⟩, ts ++ .comma :: us,
      lexes.append_mark mark_comma lexes',
      fun level => ((indented level).newLine level).append_mark mark_comma (indented' level),
      builds.items builds'⟩

theorem exists_readsAs_members : (members : List (String × Document)) → members ≠ [] →
    ∃ fields, SpellsMembers members fields ∧
      ∃ ts, Lexes (compactMembers members) ts ∧ (∀ level, Lexes (indentedMembers level members) ts) ∧
        BuildsMembers ts fields
  | [], nonempty => absurd rfl nonempty
  | [(key, value)], _ => by
    obtain ⟨v, spells, ts, lexes, indented, builds⟩ := exists_readsAs value
    exact ⟨[(_, v)], ⟨_, v, [], rfl, decode?_writtenPart key.toList, spells, rfl⟩, _,
      (lexes_quoted key).append_mark mark_colon lexes,
      fun level => ((lexes_quoted key).newLine level).append_mark mark_colon
        (indented level).cons_space,
      builds.member _⟩
  | (key, value) :: next :: members, _ => by
    obtain ⟨v, spells, ts, lexes, indented, builds⟩ := exists_readsAs value
    obtain ⟨fields, spells', us, lexes', indented', builds'⟩ :=
      exists_readsAs_members (next :: members) (by simp)
    refine ⟨(_, v) :: fields, ⟨_, v, fields, rfl, decode?_writtenPart key.toList, spells, spells'⟩,
      _, ?_, fun level => ?_, builds.members _ builds'⟩
    · exact ((lexes_quoted key).append_mark mark_colon lexes).append_mark mark_comma lexes'
    · have first := ((lexes_quoted key).newLine level).append_mark mark_colon
        (indented level).cons_space
      exact first.append_mark mark_comma (indented' level)

end

end Document

/-- A text whose tokens build a value spells it. -/
theorem ofText?_of_lexes {text : List Char} {ts : List Token} {v : Json} (lexes : Lexes text ts)
    (builds : Builds ts v) : ofText? text = some v := by
  obtain ⟨l, scans, ends⟩ := lexes []
  have tokens : tokenize? (text.map some) = some ts := by
    change (Lexer.scan ⟨.between, []⟩ text).bind Lexer.finish = some ts
    rw [scans, Option.bind_some, ends.finish]
    simp
  rw [Json.ofText?, ofSymbols?, tokens, Option.bind_some, ofTokens?, builds []]
  rfl

/-- Both texts of a document spell the same value, which stands for the document. -/
theorem exists_ofText? (d : Document) :
    ∃ v, d.Spells v ∧ ofText? d.compact = some v ∧ ofText? d.pretty = some v := by
  obtain ⟨v, spells, ts, lexes, indented, builds⟩ := d.exists_readsAs
  exact ⟨v, spells, ofText?_of_lexes lexes builds, ofText?_of_lexes (indented 0) builds⟩

/-- The text of a document spells a value that stands for the document. -/
theorem exists_ofText?_compact (d : Document) :
    ∃ v, d.Spells v ∧ ofText? d.compact = some v := by
  obtain ⟨v, spells, reads, -⟩ := exists_ofText? d
  exact ⟨v, spells, reads⟩

/-! ### Decoding what was written -/

theorem member?_of_mem {members : List (String × Json)} (distinct : (members.map (·.1)).Nodup)
    {key : String} {v : Json} (h : (key, v) ∈ members) : member? members key = some v := by
  have only : members.filter (·.1 = key) = [(key, v)] := by
    induction members with
    | nil => simp at h
    | cons member members ih =>
      rw [List.map_cons, List.nodup_cons] at distinct
      rcases List.mem_cons.1 h with rfl | h
      · have others : members.filter (·.1 = key) = [] := by
          rw [List.filter_eq_nil_iff]
          intro other mem same
          exact distinct.1 (List.mem_map.2 ⟨other, mem, of_decide_eq_true same⟩)
        rw [List.filter_cons_of_pos (by simp), others]
      · have different : member.1 ≠ key := by
          rintro rfl
          exact distinct.1 (List.mem_map.2 ⟨_, h, rfl⟩)
        rw [List.filter_cons_of_neg (by simpa using different), ih distinct.2 h]
  simp only [member?, only]

/-- A record with distinct keys gives its values in the order of the keys. -/
theorem fields?_of_spells {members : List (String × Document)} {fields : List (RawText × Json)}
    (distinct : (members.map (·.1)).Nodup) (h : Document.SpellsMembers members fields) :
    fields? (members.map (·.1)) (.object fields) = some (fields.map (·.2)) := by
  have decoded : (fields.mapM fun field =>
      (RawText.decode? field.1).map fun k => (String.ofList k, field.2)) =
      some ((members.map (·.1)).zip (fields.map (·.2))) := by
    clear distinct
    induction members generalizing fields with
    | nil =>
      obtain rfl : fields = [] := h
      rfl
    | cons member members ih =>
      obtain ⟨parts, v, rest, rfl, key, -, h⟩ := h
      simp only [List.mapM_cons, key, ih h, Option.map_some, Option.bind_eq_bind, Option.bind_some,
        String.ofList_toList, List.map_cons, List.zip_cons_cons]
      rfl
  have length : members.length = fields.length := by
    clear distinct decoded
    induction members generalizing fields with
    | nil =>
      obtain rfl : fields = [] := h
      rfl
    | cons member members ih =>
      obtain ⟨parts, v, rest, rfl, -, -, h⟩ := h
      simp [ih h]
  simp only [fields?, decoded, Option.bind_eq_bind, Option.bind_some]
  rw [Traversal.mapM_eq_some_iff, List.forall₂_iff_zip]
  refine ⟨by simp [length], fun {key v} mem => member?_of_mem ?_ mem⟩
  rw [List.map_fst_zip (by simp [length])]
  exact distinct

/-- Items that stand for a list of documents decode as each of them does. -/
theorem mapM_eq_of_spellsItems {α β : Type} {f : Json → Option β} {g : α → Option β}
    {document : α → Document} (one : ∀ a v, (document a).Spells v → f v = g a)
    {as : List α} {values : List Json} (h : Document.SpellsItems (as.map document) values) :
    values.mapM f = as.mapM g := by
  induction as generalizing values with
  | nil =>
    obtain rfl : values = [] := h
    rfl
  | cons a as ih =>
    obtain ⟨v, rest, rfl, spells, h⟩ := h
    rw [List.mapM_cons, List.mapM_cons, one a v spells, ih h]

theorem mapM_eq_map_of_spellsItems {α β : Type} {f : Json → Option β} {g : α → β}
    {document : α → Document} (one : ∀ a v, (document a).Spells v → f v = some (g a))
    {as : List α} {values : List Json} (h : Document.SpellsItems (as.map document) values) :
    values.mapM f = some (as.map g) :=
  (mapM_eq_of_spellsItems one h).trans List.mapM_pure

theorem integer?_of_spells {k : ℤ} {v : Json} (h : (Document.integer k).Spells v) :
    v.integer? = some k := by
  obtain ⟨n, rfl, value⟩ := h
  exact value

theorem int64?_of_spells {k : Int64} {v : Json} (h : (Document.integer k.toInt).Spells v) :
    v.int64? = some k := by
  rw [int64?, integer?_of_spells h, Option.bind_some,
    if_pos ⟨Int64.minValue_le_toInt k, Int64.toInt_le k⟩, Int64.ofInt_toInt]

theorem uint32?_of_spells {k : UInt32} {v : Json} (h : (Document.integer k.toNat).Spells v) :
    v.uint32? = some k := by
  have range : (0 : ℤ) ≤ k.toNat ∧ (k.toNat : ℤ) < UInt32.size :=
    ⟨Int.natCast_nonneg _, by exact_mod_cast k.toNat_lt⟩
  rw [uint32?, integer?_of_spells h, Option.bind_some, if_pos range, Int.toNat_natCast,
    UInt32.ofNat_toNat]

theorem real?_of_spells {x : Binary64} {v : Json} (h : (Document.real x).Spells v) :
    v.real? = if x.isFinite then some x else none := by
  cases x with
  | finite x =>
    obtain ⟨n, rfl, -, nearest⟩ := h
    simp only [real?, Decimal.finite?, nearest]
  | infinite negative =>
    obtain rfl : v = .null := h
    rfl
  | nan =>
    obtain rfl : v = .null := h
    rfl

end DetectionMerge.Json
