import DetectionMerge.Proofs.Json.Phase
import DetectionMerge.Proofs.Json.Tokens

/-! The grammar of JSON text, and that the reader accepts it and nothing else. A text spells
the tokens that it is put together from, with white space anywhere between them. In one
direction the tokens are read one after another; only a number ends with the character
behind it, and no value has two numbers in a row. In the other direction the reader keeps
what it has read: whole tokens, and the beginning of one. -/

namespace DetectionMerge.Json

/-! ### The grammar -/

/-- The characters of one piece of a text. -/
inductive PieceSpelling : List Char → TextPart → Prop
  | plain {c : Char} (quote : c ≠ '"') (backslash : c ≠ '\\') (visible : ¬c < ' ') :
    PieceSpelling [c] (.character c)
  | short {c e : Char} (escape : shortEscape? c = some e) : PieceSpelling ['\\', c] (.character e)
  | unicode {digits : List Char} {values : List ℕ}
    (hexadecimal : List.Forall₂ (fun c d => Text.hexDigit? c = some d) digits values)
    (four : digits.length = 4) :
    PieceSpelling ('\\' :: 'u' :: digits) (.codeUnit (values.foldl (16 * · + ·) 0))

/-- The characters of a text between its quotation marks. -/
inductive TextSpelling : List Char → RawText → Prop
  | nil : TextSpelling [] []
  | concat {cs ds : List Char} {parts : RawText} {part : TextPart} (before : TextSpelling cs parts)
    (piece : PieceSpelling ds part) : TextSpelling (cs ++ ds) (parts ++ [part])

/-- The characters of one token. -/
inductive Lexeme : List Char → Token → Prop
  | openArray : Lexeme ['['] .openArray
  | closeArray : Lexeme [']'] .closeArray
  | openObject : Lexeme ['\x7b'] .openObject
  | closeObject : Lexeme ['\x7d'] .closeObject
  | comma : Lexeme [','] .comma
  | colon : Lexeme [':'] .colon
  | null : Lexeme ['n', 'u', 'l', 'l'] .null
  | boolean (b : Bool) : Lexeme (Document.booleanText b) (.boolean b)
  | number (l : Literal) : Lexeme l.text (.number l.numeral)
  | text {cs : List Char} {parts : RawText} (inside : TextSpelling cs parts) :
    Lexeme ('"' :: cs ++ ['"']) (.text parts)

/-- The characters of a sequence of tokens, with any white space around them. -/
inductive Spelling : List Char → List Token → Prop
  | nil : Spelling [] []
  | space {c : Char} {cs : List Char} {ts : List Token} (blank : isSpace c) (rest : Spelling cs ts) :
    Spelling (c :: cs) ts
  | token {cs ds : List Char} {t : Token} {ts : List Token} (lexeme : Lexeme cs t)
    (rest : Spelling ds ts) : Spelling (cs ++ ds) (t :: ts)

/-- A text spells a value. -/
def SpelledBy (v : Json) (text : List Char) : Prop := Spelling text v.tokens

theorem Spelling.append {cs ds : List Char} {ts us : List Token} (h : Spelling cs ts)
    (h' : Spelling ds us) : Spelling (cs ++ ds) (ts ++ us) := by
  induction h with
  | nil => exact h'
  | space blank _ ih => exact .space blank ih
  | token lexeme _ ih =>
    rw [List.append_assoc]
    exact .token lexeme ih

/-! ### Tokens one after another -/

def Token.IsNumber (t : Token) : Prop := ∃ n, t = .number n

section Reading

variable {cs ds : List Char} {t : Token} {ts tokens : List Token} {parts : RawText}

theorem scan_hexadecimal {values : List ℕ} {value owed : ℕ}
    (h : List.Forall₂ (fun c d => Text.hexDigit? c = some d) ds values)
    (length : ds.length = owed + 1) :
    Lexer.scan ⟨.unicode parts value (owed + 1), tokens⟩ ds =
      some ⟨.text (.codeUnit (values.foldl (16 * · + ·) value) :: parts), tokens⟩ := by
  induction owed generalizing ds values value with
  | zero =>
    obtain ⟨c, rfl⟩ := List.length_eq_one_iff.1 length
    obtain ⟨d, _, digit, none, rfl⟩ := List.forall₂_cons_left_iff.1 h
    obtain rfl := List.forall₂_nil_left_iff.1 none
    simp [Lexer.step, digit]
  | succ owed ih =>
    obtain ⟨c, ds, rfl⟩ := List.exists_cons_of_length_eq_add_one length
    obtain ⟨d, values, digit, more, rfl⟩ := List.forall₂_cons_left_iff.1 h
    have step : Lexer.step ⟨.unicode parts value (owed + 1 + 1), tokens⟩ (some c) =
        some ⟨.unicode parts (16 * value + d) (owed + 1), tokens⟩ := by
      simp [Lexer.step, digit]
    rw [Lexer.scan_cons, step, Option.bind_some, ih more (by simpa using length), List.foldl_cons]

theorem PieceSpelling.scan {part : TextPart} (h : PieceSpelling cs part) :
    Lexer.scan ⟨.text parts, tokens⟩ cs = some ⟨.text (part :: parts), tokens⟩ := by
  cases h with
  | plain quote backslash visible =>
    simp [Lexer.step, Lexer.insideText, quote, backslash, visible]
  | @short c e escape =>
    have backslash : Lexer.step ⟨.text parts, tokens⟩ (some '\\') = some ⟨.escape parts, tokens⟩ := rfl
    have short : c ≠ 'u' := by
      rintro rfl
      cases escape
    have second : Lexer.step ⟨.escape parts, tokens⟩ (some c) =
        some ⟨.text (.character e :: parts), tokens⟩ := by
      simp [Lexer.step, short, escape]
    rw [Lexer.scan_cons, backslash, Option.bind_some, Lexer.scan_cons, second]
    rfl
  | unicode hexadecimal four => exact scan_hexadecimal hexadecimal four

theorem TextSpelling.scan {raw : RawText} (h : TextSpelling cs raw) :
    Lexer.scan ⟨.text [], tokens⟩ cs = some ⟨.text raw.reverse, tokens⟩ := by
  induction h with
  | nil => rfl
  | concat _ piece ih =>
    rw [Lexer.scan_append, ih, Option.bind_some, piece.scan, List.reverse_append]
    rfl

/-- A token that is no number ends with its own last character. -/
theorem Lexeme.scan (h : Lexeme cs t) (other : ¬t.IsNumber) :
    Lexer.scan ⟨.between, tokens⟩ cs = some ⟨.between, t :: tokens⟩ := by
  cases h with
  | number l => exact absurd ⟨_, rfl⟩ other
  | boolean b => cases b <;> rfl
  | text inside => exact scan_quotation inside.scan
  | _ => rfl

/-- A token that is no number begins with a character that ends a number before it. -/
theorem Lexeme.stops (h : Lexeme cs t) (other : ¬t.IsNumber) :
    ∃ c rest, cs = c :: rest ∧ Stops c := by
  cases h with
  | number l => exact absurd ⟨_, rfl⟩ other
  | boolean b => cases b <;> exact ⟨_, _, rfl, stops_of rfl (by decide)⟩
  | _ => exact ⟨_, _, rfl, stops_of rfl (by decide)⟩

/-- A number before other tokens ends where they begin. -/
theorem Spelling.stops (h : Spelling cs ts) (other : ∀ t ∈ ts.head?, ¬t.IsNumber) :
    cs = [] ∧ ts = [] ∨ ∃ c rest, cs = c :: rest ∧ Stops c := by
  cases h with
  | nil => exact .inl ⟨rfl, rfl⟩
  | space blank _ => exact .inr ⟨_, _, rfl, (blank_of_isSpace blank).1⟩
  | token lexeme _ =>
    obtain ⟨c, rest, rfl, stops⟩ := lexeme.stops (other _ rfl)
    exact .inr ⟨c, _, rfl, stops⟩

/-- Of two tokens in a row at most one is a number. -/
def Apart (t u : Token) : Prop := t.IsNumber → ¬u.IsNumber

/-- Tokens are read as they are spelled, unless two numbers run together. -/
theorem Spelling.lexes (h : Spelling cs ts) (apart : ts.IsChain Apart) : Lexes cs ts := by
  induction h with
  | nil => exact lexes_nil
  | space blank _ ih => exact (ih apart).cons_blank (blank_of_isSpace blank)
  | @token cs ds t ts lexeme rest ih =>
    have next := ih (List.isChain_cons.1 apart).2
    -- Only a number is still open at the end of its text: the next token has to end it.
    by_cases number : t.IsNumber
    · have first : Lexes cs [t] := by
        cases lexeme with
        | number l => exact lexes_number l.written
        | _ => exact absurd number (by simp [Token.IsNumber])
      exact first.append next (rest.stops fun u mem => (List.isChain_cons.1 apart).1 u mem number)
    · intro tokens
      rw [Lexer.scan_append, lexeme.scan number, Option.bind_some]
      simpa using next (t :: tokens)

end Reading

/-- After a number no builder takes another one. -/
theorem Builder.apart {b b₁ b₂ : Builder} {t u : Token} (first : b.step t = some b₁)
    (second : b₁.step u = some b₂) : Apart t u := by
  rintro ⟨n, rfl⟩ ⟨m, rfl⟩
  have full (stack : List Frame) : (put (.number n) stack).step (.number m) = none := by
    rcases stack with _ | ⟨_ | _, _⟩ <;> rfl
  cases b with
  | value stack =>
    obtain rfl := Option.some.inj first
    rw [full] at second
    cases second
  | firstItem stack =>
    obtain rfl := Option.some.inj first
    cases second
  | _ => cases first

theorem Builder.isChain_apart {b b' : Builder} {ts : List Token}
    (runs : ts.foldlM Builder.step b = some b') : ts.IsChain Apart := by
  induction ts generalizing b with
  | nil => exact .nil
  | cons t ts ih =>
    obtain ⟨next, first, runs⟩ := Option.bind_eq_some_iff.1 runs
    refine List.isChain_cons.2 ⟨fun u mem => ?_, ih runs⟩
    cases ts with
    | nil => cases mem
    | cons u' ts =>
      obtain rfl := Option.some.inj mem
      obtain ⟨_, second, _⟩ := Option.bind_eq_some_iff.1 runs
      exact Builder.apart first second

theorem ofText?_of_spelledBy {text : List Char} {v : Json} (h : v.SpelledBy text) :
    ofText? text = some v :=
  ofText?_of_lexes (Spelling.lexes h (Builder.isChain_apart (builds_tokens v []))) (builds_tokens v)

/-! ### What the reader has read -/

/-- The characters of the token that is being read. -/
def LexState.Begun : LexState → List Char → Prop
  | .between, cs => cs = []
  | .name expected token, cs => Lexeme (cs ++ expected) token
  | .number phase n, cs => NumberBegun phase n cs
  | .text parts, cs => ∃ ds, cs = '"' :: ds ∧ TextSpelling ds parts.reverse
  | .escape parts, cs => ∃ ds, cs = '"' :: ds ++ ['\\'] ∧ TextSpelling ds parts.reverse
  | .unicode parts value owed, cs =>
    ∃ ds digits values, cs = '"' :: ds ++ '\\' :: 'u' :: digits ∧ TextSpelling ds parts.reverse ∧
      List.Forall₂ (fun c d => Text.hexDigit? c = some d) digits values ∧
      0 < owed ∧ digits.length + owed = 4 ∧ value = values.foldl (16 * · + ·) 0

/-- A number that may end is a literal. -/
theorem NumberBegun.lexeme {phase : NumberPhase} {n : Numeral} {cs : List Char}
    (h : NumberBegun phase n cs) (complete : phase.complete) : Lexeme cs (.number n) := by
  cases phase with
  | zero | whole | fraction | exponentDigits =>
    obtain ⟨l, -, rfl, rfl⟩ := h
    exact .number l
  | sign | point | exponent | exponentSign => cases complete

namespace Lexer

/-- The reader has come to its state by these characters. -/
def Has (l : Lexer) (cs : List Char) : Prop :=
  ∃ before begun, cs = before ++ begun ∧ Spelling before l.tokens.reverse ∧ l.state.Begun begun

variable {l l' : Lexer} {tokens : List Token} {cs ds before begun : List Char} {c : Char}
  {t : Token} {parts : RawText} {part : TextPart}

theorem has_token (h : Spelling before tokens.reverse) (lexeme : Lexeme begun t) :
    Has ⟨.between, t :: tokens⟩ (before ++ begun) := by
  refine ⟨before ++ begun, [], (List.append_nil _).symm, ?_, rfl⟩
  simpa using h.append (.token lexeme .nil)

theorem has_begin (h : Spelling before tokens.reverse) (begins : Lexer.begin tokens c = some l) :
    l.Has (before ++ [c]) := by
  unfold Lexer.begin at begins
  split_ifs at begins with blank
  · obtain rfl := Option.some.inj begins
    refine ⟨before ++ [c], [], (List.append_nil _).symm, ?_, rfl⟩
    simpa using h.append (.space blank .nil)
  split at begins
  case h_12 =>
    obtain ⟨⟨phase, n⟩, advances, rfl⟩ := Option.map_eq_some_iff.1 begins
    have sign : NumberBegun .sign {} [] := ⟨false, rfl, rfl⟩
    exact ⟨before, [c], rfl, h, sign.step advances⟩
  all_goals obtain rfl := Option.some.inj begins
  · exact has_token h .openArray
  · exact has_token h .closeArray
  · exact has_token h .openObject
  · exact has_token h .closeObject
  · exact has_token h .comma
  · exact has_token h .colon
  · exact ⟨before, ['"'], rfl, h, [], rfl, .nil⟩
  · exact ⟨before, ['n'], rfl, h, .null⟩
  · exact ⟨before, ['t'], rfl, h, .boolean true⟩
  · exact ⟨before, ['f'], rfl, h, .boolean false⟩
  · exact ⟨before, ['-'], rfl, h, true, rfl, rfl⟩

theorem has_piece (h : Spelling before tokens.reverse) (inside : TextSpelling cs parts.reverse)
    (piece : PieceSpelling ds part) :
    Has ⟨.text (part :: parts), tokens⟩ (before ++ '"' :: cs ++ ds) := by
  refine ⟨before, '"' :: cs ++ ds, by simp, h, cs ++ ds, rfl, ?_⟩
  simpa using inside.concat piece

theorem has_insideText (h : Spelling before tokens.reverse) (inside : TextSpelling cs parts.reverse)
    (steps : insideText tokens parts c = some l) : l.Has (before ++ '"' :: cs ++ [c]) := by
  unfold insideText at steps
  split_ifs at steps with quote backslash control
  all_goals obtain rfl := Option.some.inj steps
  · subst quote
    simpa using has_token h (.text inside)
  · subst backslash
    exact ⟨before, '"' :: cs ++ ['\\'], by simp, h, cs, rfl, inside⟩
  · exact has_piece h inside (.plain quote backslash control)

theorem has_name {expected : List Char} (h : Spelling before tokens.reverse)
    (name : Lexeme (begun ++ expected) t)
    (steps : Lexer.step ⟨.name expected t, tokens⟩ (some c) = some l) :
    l.Has (before ++ begun ++ [c]) := by
  match expected with
  | [] => cases steps
  | [e] =>
    simp only [Lexer.step] at steps
    split_ifs at steps with same
    obtain rfl := Option.some.inj steps
    subst same
    simpa using has_token h name
  | e :: e' :: expected =>
    simp only [Lexer.step] at steps
    split_ifs at steps with same
    obtain rfl := Option.some.inj steps
    subst same
    exact ⟨before, begun ++ [c], by simp, h, by simpa [LexState.Begun] using name⟩

/-- A further digit of a code unit. The fourth one ends it. -/
theorem has_codeUnit {digits : List Char} {values : List ℕ} {owed : ℕ}
    (h : Spelling before tokens.reverse) (inside : TextSpelling cs parts.reverse)
    (hexadecimal : List.Forall₂ (fun c d => Text.hexDigit? c = some d) digits values)
    (owes : 0 < owed)
    (four : digits.length + owed = 4)
    (steps : Lexer.step ⟨.unicode parts (values.foldl (16 * · + ·) 0) owed, tokens⟩ (some c) =
      some l) :
    l.Has (before ++ '"' :: cs ++ '\\' :: 'u' :: (digits ++ [c])) := by
  obtain ⟨d, digit, steps⟩ := Option.bind_eq_some_iff.1 steps
  have more : List.Forall₂ (fun c d => Text.hexDigit? c = some d) (digits ++ [c]) (values ++ [d]) :=
    List.rel_append hexadecimal (.cons digit .nil)
  have length : (digits ++ [c]).length = digits.length + 1 := List.length_append
  have value : 16 * values.foldl (16 * · + ·) 0 + d = (values ++ [d]).foldl (16 * · + ·) 0 := by
    rw [List.foldl_append]
    rfl
  rw [value] at steps
  split_ifs at steps with last
  all_goals obtain rfl := Option.some.inj steps
  · exact has_piece h inside (.unicode more (by omega))
  · exact ⟨before, '"' :: cs ++ '\\' :: 'u' :: (digits ++ [c]), by simp, h, cs, digits ++ [c],
      values ++ [d], rfl, inside, more, by omega, by omega, rfl⟩

theorem Has.step (h : l.Has cs) (steps : l.step (some c) = some l') : l'.Has (cs ++ [c]) := by
  obtain ⟨state, tokens⟩ := l
  obtain ⟨before, begun, rfl, spelling, h⟩ := h
  cases state with
  | between =>
    obtain rfl := h
    simpa using has_begin spelling steps
  | name expected token => exact has_name spelling h steps
  | number phase n =>
    simp only [Lexer.step] at steps
    split at steps
    case h_1 phase' n' advances =>
      obtain rfl := Option.some.inj steps
      exact ⟨before, begun ++ [c], by simp, spelling, h.step advances⟩
    case h_2 =>
      split_ifs at steps with complete
      refine has_begin ?_ steps
      simpa using spelling.append (.token (h.lexeme complete) .nil)
  | text parts =>
    obtain ⟨ds, rfl, inside⟩ := h
    simpa using has_insideText spelling inside steps
  | escape parts =>
    obtain ⟨ds, rfl, inside⟩ := h
    simp only [Lexer.step] at steps
    split_ifs at steps with unicode
    · obtain rfl := Option.some.inj steps
      subst unicode
      exact ⟨before, '"' :: ds ++ ['\\', 'u'], by simp, spelling, ds, [], [], rfl, inside, .nil,
        by decide, rfl, rfl⟩
    · obtain ⟨e, escape, rfl⟩ := Option.map_eq_some_iff.1 steps
      simpa using has_piece spelling inside (.short escape)
  | unicode parts value owed =>
    obtain ⟨ds, digits, values, rfl, inside, hexadecimal, owes, four, rfl⟩ := h
    simpa using has_codeUnit spelling inside hexadecimal owes four steps

theorem Has.scan (h : l.Has cs) (scans : l.scan ds = some l') :
    l'.Has (cs ++ ds) := by
  induction ds generalizing l cs with
  | nil =>
    obtain rfl := Option.some.inj scans
    rwa [List.append_nil]
  | cons c ds ih =>
    obtain ⟨next, steps, scans⟩ := Option.bind_eq_some_iff.1 scans
    simpa using ih (h.step steps) scans

/-- Where the reader may end, it has read whole tokens. -/
theorem Has.spelling (h : l.Has cs) {ts : List Token} (finishes : l.finish = some ts) :
    Spelling cs ts := by
  obtain ⟨state, tokens⟩ := l
  obtain ⟨before, begun, rfl, spelling, h⟩ := h
  cases state with
  | between =>
    obtain rfl := h
    obtain rfl := Option.some.inj finishes
    rwa [List.append_nil]
  | number phase n =>
    simp only [Lexer.finish] at finishes
    split_ifs at finishes with complete
    obtain rfl := Option.some.inj finishes
    simpa using spelling.append (.token (h.lexeme complete) .nil)
  | name | text | escape | unicode => cases finishes

end Lexer

/-- A text is read as a value exactly if it spells the value. -/
theorem ofText?_eq_some_iff {text : List Char} {v : Json} :
    ofText? text = some v ↔ v.SpelledBy text := by
  refine ⟨fun reads => ?_, ofText?_of_spelledBy⟩
  obtain ⟨ts, tokenizes, builds⟩ := Option.bind_eq_some_iff.1 reads
  obtain ⟨l, scans, finishes⟩ := Option.bind_eq_some_iff.1 tokenizes
  obtain rfl := ofTokens?_eq_some_iff.1 builds
  have nothing : Lexer.start.Has [] := ⟨[], [], rfl, .nil, rfl⟩
  exact (nothing.scan scans).spelling finishes

end DetectionMerge.Json
