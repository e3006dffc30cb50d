import DetectionMerge.Proofs.Json.Fields
import DetectionMerge.Proofs.Json.Tokens

/-! Texts with parts that are no UTF-8. Plain characters may be put in the place of such parts:
what was read before is read again, with these characters in its texts. The reader is
followed symbol by symbol, and a value that means something has no such part in it. -/

namespace DetectionMerge.Json

open DetectionMerge.Text (Symbol)

section Mend

variable (fill : List Char)

/-! ### Characters in the place of what is undecodable -/

/-- A piece of a text, or the characters in its place. -/
def TextPart.mend : TextPart → RawText
  | .undecodable => fill.map .character
  | .character c => [.character c]
  | .codeUnit u => [.codeUnit u]

/-- The pieces of a text, with characters in the place of undecodable ones. -/
def RawText.mend (parts : RawText) : RawText := parts.flatMap (TextPart.mend fill)

/-- The same in a token. -/
def Token.mend : Token → Token
  | .text parts => .text (parts.mend fill)
  | t => t

mutual

/-- The same anywhere in a value. -/
def mend : Json → Json
  | .null => .null
  | .boolean b => .boolean b
  | .number n => .number n
  | .text parts => .text (RawText.mend fill parts)
  | .array items => .array (mendItems items)
  | .object members => .object (mendMembers members)

/-- The same in each item. -/
def mendItems : List Json → List Json
  | [] => []
  | item :: items => mend item :: mendItems items

/-- The same in each key and value. -/
def mendMembers : List (RawText × Json) → List (RawText × Json)
  | [] => []
  | (key, v) :: members => (RawText.mend fill key, mend v) :: mendMembers members

end

theorem mendItems_eq (items : List Json) : mendItems fill items = items.map (mend fill) := by
  induction items with
  | nil => rfl
  | cons item items ih => rw [mendItems, ih, List.map_cons]

theorem mendMembers_eq (members : List (RawText × Json)) :
    mendMembers fill members = members.map fun m => (m.1.mend fill, m.2.mend fill) := by
  induction members with
  | nil => rfl
  | cons m members ih => rw [mendMembers, ih, List.map_cons]

mutual

theorem tokens_mend : (v : Json) → (v.mend fill).tokens = v.tokens.map (Token.mend fill)
  | .null | .boolean _ | .number _ | .text _ => rfl
  | .array items => by
    simp [mend, tokens, itemTokens_mend items, Token.mend]
  | .object members => by
    simp [mend, tokens, memberTokens_mend members, Token.mend]

theorem itemTokens_mend : (items : List Json) →
    itemTokens (mendItems fill items) = (itemTokens items).map (Token.mend fill)
  | [] => rfl
  | [item] => tokens_mend item
  | item :: next :: items => by
    have rest := itemTokens_mend (next :: items)
    rw [mendItems] at rest
    simp [mendItems, itemTokens, tokens_mend item, rest, Token.mend]

theorem memberTokens_mend : (members : List (RawText × Json)) →
    memberTokens (mendMembers fill members) = (memberTokens members).map (Token.mend fill)
  | [] => rfl
  | [(key, v)] => by
    simp [mendMembers, memberTokens, tokens_mend v, Token.mend]
  | (key, v) :: next :: members => by
    have rest := memberTokens_mend (next :: members)
    rw [mendMembers] at rest
    simp [mendMembers, memberTokens, tokens_mend v, rest, Token.mend]

end

/-! ### The reader -/

/-- A text with characters in the place of each part that is no UTF-8. -/
def fillIn (symbols : List Symbol) : List Char := symbols.flatMap (·.elim fill fun c => [c])

/-- The pieces of an unfinished text, in reverse. -/
def RawText.mendReversed (parts : RawText) : RawText := (RawText.mend fill parts.reverse).reverse

/-- The reader on the filled text. -/
def LexState.mend : LexState → LexState
  | .between => .between
  | .name expected token => .name expected (token.mend fill)
  | .number phase n => .number phase n
  | .text parts => .text (parts.mendReversed fill)
  | .escape parts => .escape (parts.mendReversed fill)
  | .unicode parts value owed => .unicode (parts.mendReversed fill) value owed

/-- The reader on the filled text, with what it has read. -/
def Lexer.mend (l : Lexer) : Lexer := ⟨l.state.mend fill, l.tokens.map (Token.mend fill)⟩

theorem mendReversed_cons (part : TextPart) (parts : RawText) :
    RawText.mendReversed fill (part :: parts) =
      (part.mend fill).reverse ++ parts.mendReversed fill := by
  simp [RawText.mendReversed, RawText.mend]

theorem reverse_mendReversed (parts : RawText) :
    (parts.mendReversed fill).reverse = RawText.mend fill parts.reverse :=
  List.reverse_reverse _

theorem begin_mend (tokens : List Token) (c : Char) :
    Lexer.begin (tokens.map (Token.mend fill)) c =
      (Lexer.begin tokens c).map (Lexer.mend fill) := by
  unfold Lexer.begin
  split_ifs
  · rfl
  · split
    case h_12 => cases Numeral.advance {} .sign _ <;> rfl
    all_goals rfl

/-- A character is read in the filled text as it was read before. -/
theorem step_mend (l : Lexer) (c : Char) :
    (l.mend fill).step (some c) = (l.step (some c)).map (Lexer.mend fill) := by
  obtain ⟨state, tokens⟩ := l
  cases state with
  | between => exact begin_mend fill tokens c
  | name expected token =>
    cases expected with
    | nil => rfl
    | cons e expected =>
      cases expected <;> (simp only [Lexer.mend, LexState.mend, Lexer.step]; split_ifs <;> rfl)
  | number phase n =>
    simp only [Lexer.mend, LexState.mend, Lexer.step]
    split
    · rfl
    · split_ifs
      · exact begin_mend fill (.number n :: tokens) c
      · rfl
  | text parts =>
    simp only [Lexer.mend, LexState.mend, Lexer.step, Lexer.insideText]
    split_ifs <;> simp [Lexer.mend, LexState.mend, mendReversed_cons, TextPart.mend, Token.mend,
      reverse_mendReversed]
  | escape parts =>
    simp only [Lexer.mend, LexState.mend, Lexer.step]
    split_ifs
    · rfl
    · cases shortEscape? c <;> simp [Lexer.mend, LexState.mend, mendReversed_cons, TextPart.mend]
  | unicode parts value owed =>
    simp only [Lexer.mend, LexState.mend, Lexer.step]
    cases Text.hexDigit? c with
    | none => rfl
    | some d =>
      simp only [Option.bind_eq_bind, Option.bind_some]
      split_ifs <;> simp [Lexer.mend, LexState.mend, mendReversed_cons, TextPart.mend]

theorem finish_mend (l : Lexer) :
    (l.mend fill).finish = l.finish.map (List.map (Token.mend fill)) := by
  obtain ⟨state, tokens⟩ := l
  cases state with
  | between => simp [Lexer.mend, LexState.mend, Lexer.finish]
  | number phase n =>
    simp only [Lexer.mend, LexState.mend, Lexer.finish]
    split_ifs <;> simp [Token.mend]
  | name | text | escape | unicode => rfl

/-- A character that stands for itself in a text. -/
def IsPlain (c : Char) : Prop := c ≠ '"' ∧ c ≠ '\\' ∧ ¬c < ' '

variable {fill} (plain : ∀ c ∈ fill, IsPlain c)

include plain

theorem scan_plain (parts : RawText) (tokens : List Token) :
    Lexer.scan ⟨.text parts, tokens⟩ fill =
      some ⟨.text ((fill.map .character).reverse ++ parts), tokens⟩ := by
  induction fill generalizing parts with
  | nil => rfl
  | cons c fill ih =>
    obtain ⟨quote, backslash, visible⟩ := plain c List.mem_cons_self
    have step : Lexer.step ⟨.text parts, tokens⟩ (some c) =
        some ⟨.text (.character c :: parts), tokens⟩ := by
      simp [Lexer.step, Lexer.insideText, quote, backslash, visible]
    rw [Lexer.scan_cons, step, Option.bind_some, ih fun c mem => plain c (List.mem_cons_of_mem _ mem)]
    simp

/-- What is read of a symbol is read of the characters in its place. -/
theorem scan_mend_of_step {l l' : Lexer} {symbol : Symbol} (steps : l.step symbol = some l') :
    (l.mend fill).scan (symbol.elim fill fun c => [c]) = some (l'.mend fill) := by
  cases symbol with
  | some c =>
    rw [Option.elim_some, Lexer.scan_cons, step_mend, steps]
    rfl
  | none =>
    obtain ⟨state, tokens⟩ := l
    cases state with
    | text parts =>
      obtain rfl := Option.some.inj steps
      simp [Lexer.mend, LexState.mend, mendReversed_cons, TextPart.mend, scan_plain plain]
    | between | name | number | escape | unicode => cases steps

theorem scan_mend {l l' : Lexer} {symbols : List Symbol}
    (runs : symbols.foldlM Lexer.step l = some l') :
    (l.mend fill).scan (fillIn fill symbols) = some (l'.mend fill) := by
  induction symbols generalizing l with
  | nil =>
    obtain rfl := Option.some.inj runs
    rfl
  | cons symbol symbols ih =>
    obtain ⟨next, steps, runs⟩ := Option.bind_eq_some_iff.1 runs
    rw [fillIn, List.flatMap_cons, Lexer.scan_append, scan_mend_of_step plain steps,
      Option.bind_some]
    exact ih runs

/-- The filled text spells the value with the same characters in its texts. -/
theorem ofText?_fillIn {symbols : List Symbol} {v : Json} (reads : ofSymbols? symbols = some v) :
    ofText? (fillIn fill symbols) = some (v.mend fill) := by
  obtain ⟨ts, tokenizes, builds⟩ := Option.bind_eq_some_iff.1 reads
  obtain ⟨l, scans, finishes⟩ := Option.bind_eq_some_iff.1 tokenizes
  obtain rfl := ofTokens?_eq_some_iff.1 builds
  have filled : Lexer.start.scan (fillIn fill symbols) = some (l.mend fill) := scan_mend plain scans
  have tokens : tokenize? ((fillIn fill symbols).map some) = some (v.mend fill).tokens := by
    change (Lexer.start.scan (fillIn fill symbols)).bind Lexer.finish = _
    rw [filled, Option.bind_some, finish_mend, finishes, tokens_mend]
    rfl
  rw [ofText?, ofSymbols?, tokens, Option.bind_some, ofTokens?_eq_some_iff]

end Mend

/-! ### What has a meaning -/

section Meaning

variable {fill : List Char}

theorem undecodable_not_mem {parts : RawText} (decodes : parts.decode? ≠ none) :
    .undecodable ∉ parts := by
  fun_induction RawText.decode? parts with
  | case1 => simp
  | case2 c rest ih => simp_all
  | case3 => simp at decodes
  | case4 u rest scalar ih => simp_all
  | case5 => simp at decodes
  | case6 u high low v rest pair ih => simp_all
  | case7 => simp at decodes
  | case8 => simp at decodes

/-- A text with a meaning has nothing undecodable in it. -/
theorem mend_of_decode? {parts : RawText} (decodes : parts.decode? ≠ none) :
    RawText.mend fill parts = parts := by
  have whole := undecodable_not_mem decodes
  clear decodes
  induction parts with
  | nil => rfl
  | cons part parts ih =>
    rw [List.mem_cons, not_or] at whole
    have rest := ih whole.2
    rw [RawText.mend] at rest ⊢
    rw [List.flatMap_cons, rest]
    cases part with
    | undecodable => exact absurd rfl whole.1
    | character | codeUnit => rfl

theorem text?_mend {v : Json} {s : String} (h : v.text? = some s) :
    (v.mend fill).text? = some s := by
  cases v with
  | text parts =>
    have decodes : parts.decode? ≠ none := by
      intro none
      simp [text?, none] at h
    rw [mend, mend_of_decode? decodes, h]
  | _ => cases h

theorem int64?_mend (v : Json) : (v.mend fill).int64? = v.int64? := by
  cases v <;> rfl

theorem items?_mend (v : Json) : (v.mend fill).items? = v.items?.map (List.map (mend fill)) := by
  cases v with
  | array items => simp [mend, items?, mendItems_eq]
  | _ => rfl

theorem fields?_mend {keys : List String} {v : Json} {values : List Json}
    (h : v.fields? keys = some values) :
    (v.mend fill).fields? keys = some (values.map (mend fill)) := by
  cases v with
  | array items =>
    rw [fields?_array] at h
    split_ifs at h with length
    obtain rfl := Option.some.inj h
    rw [mend, mendItems_eq, fields?_array, List.length_map, if_pos length]
  | object members =>
    obtain ⟨decodes, found⟩ := fields?_object_eq_some_iff.1 h
    -- All keys decode, so only values change.
    have keysKept : mendMembers fill members = members.map fun m => (m.1, m.2.mend fill) := by
      rw [mendMembers_eq]
      exact List.map_congr_left fun m mem => by rw [mend_of_decode? (decodes m mem)]
    have values_mend (key : String) : valuesOf (mendMembers fill members) key =
        (valuesOf members key).map (mend fill) := by
      simp [keysKept, valuesOf, List.filter_map, Function.comp_def]
    rw [mend, fields?_object_eq_some_iff]
    constructor
    · rw [keysKept, List.forall_mem_map]
      exact decodes
    · rw [List.forall₂_map_right_iff]
      exact found.imp fun key v single => by rw [values_mend, single, List.map_singleton]
  | _ => cases h

end Meaning

end DetectionMerge.Json
