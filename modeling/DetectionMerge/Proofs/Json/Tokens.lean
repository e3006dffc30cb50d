import DetectionMerge.Proofs.Json.Spelling

/-! The tokens of a value. A value is built from one sequence of tokens and from no other,
however deep it is, so what comes before a token never depends on what a skipped value has
in it. One direction follows the value and the other the builder, whose state keeps the
tokens that led to it. -/

namespace DetectionMerge.Json

mutual

def tokens : Json → List Token
  | .null => [.null]
  | .boolean b => [.boolean b]
  | .number n => [.number n]
  | .text parts => [.text parts]
  | .array items => .openArray :: itemTokens items ++ [.closeArray]
  | .object members => .openObject :: memberTokens members ++ [.closeObject]

/-- The tokens of items, with commas between them. -/
def itemTokens : List Json → List Token
  | [] => []
  | [item] => tokens item
  | item :: next :: items => tokens item ++ .comma :: itemTokens (next :: items)

/-- The tokens of members, with commas between them. -/
def memberTokens : List (RawText × Json) → List Token
  | [] => []
  | [(key, v)] => .text key :: .colon :: tokens v
  | (key, v) :: next :: members =>
    .text key :: .colon :: tokens v ++ .comma :: memberTokens (next :: members)

end

/-! ### From a value to its tokens and back -/

mutual

theorem builds_tokens : (v : Json) → Builds v.tokens v
  | .null | .boolean _ | .number _ | .text _ | .array [] | .object [] => fun _ => rfl
  | .array (item :: items) => builds_array (buildsItems_tokens (item :: items) (by simp))
  | .object (member :: members) =>
    builds_object (buildsMembers_tokens (member :: members) (by simp))

theorem buildsItems_tokens : (items : List Json) → items ≠ [] → BuildsItems (itemTokens items) items
  | [], nonempty => absurd rfl nonempty
  | [item], _ => (builds_tokens item).item
  | item :: next :: items, _ =>
    (builds_tokens item).items (buildsItems_tokens (next :: items) (by simp))

theorem buildsMembers_tokens : (members : List (RawText × Json)) → members ≠ [] →
    BuildsMembers (memberTokens members) members
  | [], nonempty => absurd rfl nonempty
  | [(key, v)], _ => (builds_tokens v).member key
  | (key, v) :: next :: members, _ =>
    (builds_tokens v).members key (buildsMembers_tokens (next :: members) (by simp))

end

/-! ### Items and members that others follow -/

/-- The tokens of items, each with the comma behind it. -/
def itemsBefore (items : List Json) : List Token :=
  items.flatMap fun item => item.tokens ++ [.comma]

/-- The tokens of members, each with the comma behind it. -/
def membersBefore (members : List (RawText × Json)) : List Token :=
  members.flatMap fun m => .text m.1 :: .colon :: m.2.tokens ++ [.comma]

theorem itemTokens_concat (items : List Json) (v : Json) :
    itemTokens (items ++ [v]) = itemsBefore items ++ v.tokens := by
  induction items with
  | nil => rfl
  | cons item items ih =>
    rw [itemsBefore, List.flatMap_cons, List.append_assoc, ← itemsBefore, ← ih]
    cases items <;> simp [itemTokens]

theorem memberTokens_concat (members : List (RawText × Json)) (key : RawText) (v : Json) :
    memberTokens (members ++ [(key, v)]) =
      membersBefore members ++ .text key :: .colon :: v.tokens := by
  induction members with
  | nil => rfl
  | cons member members ih =>
    rw [membersBefore, List.flatMap_cons, List.append_assoc, ← membersBefore, ← ih]
    cases members <;> simp [memberTokens]

theorem itemsBefore_concat (items : List Json) (v : Json) :
    itemsBefore (items ++ [v]) = itemTokens (items ++ [v]) ++ [.comma] := by
  rw [itemTokens_concat]
  simp [itemsBefore]

theorem membersBefore_concat (members : List (RawText × Json)) (m : RawText × Json) :
    membersBefore (members ++ [m]) = memberTokens (members ++ [m]) ++ [.comma] := by
  rw [memberTokens_concat]
  simp [membersBefore]

/-! ### From the builder to the tokens -/

/-- The tokens of an array or object as far as the value in it. -/
def Frame.tokens : Frame → List Token
  | .array items => .openArray :: itemsBefore items.reverse
  | .object members key => .openObject :: membersBefore members.reverse ++ [.text key, .colon]

/-- The tokens around a value, as far as the value. -/
def stackTokens (stack : List Frame) : List Token := stack.reverse.flatMap Frame.tokens

@[simp] theorem stackTokens_cons (frame : Frame) (stack : List Frame) :
    stackTokens (frame :: stack) = stackTokens stack ++ frame.tokens := by
  simp [stackTokens]

namespace Builder

variable {b b' : Builder} {ts us : List Token} {t : Token} {v : Json} {stack : List Frame}

/-- The builder has come to its state by these tokens. -/
def Has : Builder → List Token → Prop
  | .value stack, ts => ts = stackTokens stack
  | .firstItem stack, ts => ts = stackTokens stack ++ [.openArray]
  | .firstKey stack, ts => ts = stackTokens stack ++ [.openObject]
  | .nextKey stack members, ts =>
    ts = stackTokens stack ++ .openObject :: membersBefore members.reverse
  | .colon stack members key, ts =>
    ts = stackTokens stack ++ .openObject :: membersBefore members.reverse ++ [.text key]
  | .afterItem stack items, ts =>
    items ≠ [] ∧ ts = stackTokens stack ++ .openArray :: itemTokens items.reverse
  | .afterMember stack members, ts =>
    members ≠ [] ∧ ts = stackTokens stack ++ .openObject :: memberTokens members.reverse
  | .complete v, ts => ts = v.tokens

theorem has_put (v : Json) (stack : List Frame) :
    (put v stack).Has (stackTokens stack ++ v.tokens) := by
  cases stack with
  | nil => rfl
  | cons frame stack =>
    cases frame with
    | array items => simp [put, Has, Frame.tokens, itemTokens_concat]
    | object members key => simp [put, Has, Frame.tokens, memberTokens_concat]

theorem has_begin (begins : begin stack t = some b) : b.Has (stackTokens stack ++ [t]) := by
  cases t with
  | null | boolean | number | text =>
    obtain rfl := Option.some.inj begins
    exact has_put _ stack
  | openArray | openObject =>
    obtain rfl := Option.some.inj begins
    rfl
  | closeArray | closeObject | comma | colon => cases begins

theorem Has.step (h : b.Has ts) (steps : b.step t = some b') : b'.Has (ts ++ [t]) := by
  cases b with
  | value stack =>
    obtain rfl := h
    exact has_begin steps
  | firstItem stack =>
    obtain rfl := h
    by_cases closes : t = .closeArray
    · subst closes
      obtain rfl := Option.some.inj steps
      simpa [tokens, itemTokens] using has_put (.array []) stack
    · have first : begin (.array [] :: stack) t = some b' := by
        cases t <;> first | exact steps | exact absurd rfl closes
      simpa [Frame.tokens, itemsBefore] using has_begin first
  | firstKey stack =>
    obtain rfl := h
    cases t with
    | closeObject =>
      obtain rfl := Option.some.inj steps
      simpa [tokens, memberTokens] using has_put (.object []) stack
    | text key =>
      obtain rfl := Option.some.inj steps
      simp [Has, membersBefore]
    | _ => cases steps
  | nextKey stack members =>
    obtain rfl := h
    cases t with
    | text key =>
      obtain rfl := Option.some.inj steps
      rfl
    | _ => cases steps
  | colon stack members key =>
    obtain rfl := h
    cases t with
    | colon =>
      obtain rfl := Option.some.inj steps
      simp [Has, Frame.tokens]
    | _ => cases steps
  | afterItem stack items =>
    obtain ⟨nonempty, rfl⟩ := h
    obtain ⟨item, items, rfl⟩ := List.exists_cons_of_ne_nil nonempty
    cases t with
    | comma =>
      obtain rfl := Option.some.inj steps
      simp [Has, Frame.tokens, itemsBefore_concat]
    | closeArray =>
      obtain rfl := Option.some.inj steps
      simpa [tokens] using has_put (.array (item :: items).reverse) stack
    | _ => cases steps
  | afterMember stack members =>
    obtain ⟨nonempty, rfl⟩ := h
    obtain ⟨member, members, rfl⟩ := List.exists_cons_of_ne_nil nonempty
    cases t with
    | comma =>
      obtain rfl := Option.some.inj steps
      simp [Has, membersBefore_concat]
    | closeObject =>
      obtain rfl := Option.some.inj steps
      simpa [tokens] using has_put (.object (member :: members).reverse) stack
    | _ => cases steps
  | complete v => cases t <;> cases steps

theorem Has.run (h : b.Has ts) (runs : us.foldlM Builder.step b = some b') : b'.Has (ts ++ us) := by
  induction us generalizing b ts with
  | nil =>
    obtain rfl := Option.some.inj runs
    rwa [List.append_nil]
  | cons t us ih =>
    obtain ⟨next, steps, runs⟩ := Option.bind_eq_some_iff.1 runs
    simpa using ih (h.step steps) runs

end Builder

/-- A sequence of tokens spells a value exactly if it is that of the value. -/
theorem ofTokens?_eq_some_iff {ts : List Token} {v : Json} :
    ofTokens? ts = some v ↔ ts = v.tokens := by
  constructor
  · intro reads
    obtain ⟨b, runs, finishes⟩ := Option.bind_eq_some_iff.1 reads
    have starts : (Builder.value []).Has [] := rfl
    have came : b.Has ts := starts.run runs
    cases b with
    | complete v' =>
      obtain rfl := Option.some.inj finishes
      exact came
    | _ => cases finishes
  · rintro rfl
    rw [ofTokens?, builds_tokens v []]
    rfl

end DetectionMerge.Json
