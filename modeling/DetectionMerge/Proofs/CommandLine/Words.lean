import DetectionMerge.Proofs.CommandLine.Presentation
import Mathlib.Data.List.TakeWhile

/-! What the arguments of a command line say, one after the other and without regard to
what has been said before. Every list of arguments says exactly one sequence of words, and
reading it is taking in these words from left to right. -/

namespace DetectionMerge.CommandLine

/-! ### Names -/

/-- How a name is spelled in full, without its dashes. -/
def OptionName.spellings : OptionName → List SystemText
  | .value .annotations => ["gt_json", "gt-json"]
  | .value .folder => ["det_folder", "det-folder"]
  | .value .suffix => ["img_suffix", "img-suffix"]
  | .value .output => ["output_json", "output-json"]
  | .value .program => ["python"]
  | .switch .noEvaluation => ["no-eval"]
  | .switch .json => ["json"]
  | .switch .quiet => ["quiet"]
  | .switch .noColor => ["no-color"]
  | .verbose => ["verbose"]
  | .help => ["help"]
  | .version => ["version"]

def OptionName.letter? : OptionName → Option Char
  | .verbose => some 'v'
  | .switch .quiet => some 'q'
  | .help => some 'h'
  | .version => some 'V'
  | _ => none

theorem OptionName.exists_spelling (o : OptionName) : ∃ name, name ∈ o.spellings := by
  obtain o | s | _ | _ | _ := o
  · cases o <;> exact ⟨_, List.mem_cons_self⟩
  · cases s <;> exact ⟨_, List.mem_cons_self⟩
  all_goals exact ⟨_, List.mem_cons_self⟩

theorem longName?_eq_some_iff {name : SystemText} {o : OptionName} :
    longName? name = some o ↔ name ∈ o.spellings := by
  constructor
  · intro known
    obtain ⟨⟨name', o'⟩, found, rfl⟩ := Option.map_eq_some_iff.1 known
    have same := List.find?_some found
    rw [decide_eq_true_eq] at same
    subst same
    have member := List.mem_of_find?_eq_some found
    have spelled : ∀ entry ∈ longNames, SystemText.ofString entry.1 ∈ entry.2.spellings := by decide
    exact spelled _ member
  · intro spelled
    have known : ∀ name ∈ o.spellings, longName? name = some o := by
      obtain o | s | _ | _ | _ := o
      · cases o <;> decide
      · cases s <;> decide
      all_goals decide
    exact known name spelled

theorem shortName?_eq_some_iff {letter : Text.Symbol} {o : OptionName} :
    shortName? letter = some o ↔ ∃ c, o.letter? = some c ∧ letter = some c := by
  constructor
  · intro known
    obtain ⟨⟨c', o'⟩, found, rfl⟩ := Option.map_eq_some_iff.1 known
    have same := List.find?_some found
    rw [decide_eq_true_eq] at same
    subst same
    have member := List.mem_of_find?_eq_some found
    have spelled : ∀ entry ∈ shortNames, entry.2.letter? = some entry.1 := by decide
    exact ⟨c', spelled _ member, rfl⟩
  · rintro ⟨c, spelled, rfl⟩
    obtain o | s | _ | _ | _ := o
    · cases spelled
    · cases s <;> cases spelled
      rfl
    all_goals
      cases spelled
      rfl

theorem longName?_eq_none {name : SystemText} (absent : ∀ o : OptionName, name ∉ o.spellings) :
    longName? name = none :=
  Option.eq_none_iff_forall_ne_some.2 fun o known => absent o (longName?_eq_some_iff.1 known)

theorem shortName?_eq_none {letter : Text.Symbol}
    (absent : ∀ (o : OptionName) c, o.letter? = some c → letter ≠ some c) :
    shortName? letter = none := by
  refine Option.eq_none_iff_forall_ne_some.2 fun o known => ?_
  obtain ⟨c, spelled, same⟩ := shortName?_eq_some_iff.1 known
  exact absent o c spelled same

/-! ### Forms -/

/-- An argument with a full name, and with a value behind an equals sign. -/
def long (name : SystemText) (value : Option SystemText) : SystemText :=
  ⟨dash :: dash :: (name.bytes ++ value.elim [] (equals :: ·.bytes))⟩

example : long "img_suffix" (some "-a.jpg") = "--img_suffix=-a.jpg" := by decide

theorem splitLong_append {bytes : List UInt8} {value : Option SystemText}
    (single : equals ∉ bytes) :
    splitLong (bytes ++ value.elim [] (equals :: ·.bytes)) = (⟨bytes⟩, value) := by
  have before : ∀ b ∈ bytes, decide (b ≠ equals) = true := fun b member =>
    decide_eq_true fun same => single (same ▸ member)
  rw [splitLong, List.dropWhile_append_of_pos before]
  cases value with
  | none => rw [Option.elim_none, List.dropWhile_nil, List.append_nil]
  | some value =>
    rw [List.takeWhile_append_of_pos before]
    simp

/-- Bytes are a name without an equals sign, perhaps with a value behind one. -/
theorem exists_eq_append (bytes : List UInt8) : ∃ (name : SystemText) (value : Option SystemText),
    equals ∉ name.bytes ∧ bytes = name.bytes ++ value.elim [] (equals :: ·.bytes) := by
  have single : equals ∉ bytes.takeWhile (· ≠ equals) := by
    intro member
    simpa using List.mem_takeWhile_imp member
  have split : bytes.takeWhile (· ≠ equals) ++ bytes.dropWhile (· ≠ equals) = bytes :=
    List.takeWhile_append_dropWhile
  cases rest : bytes.dropWhile (· ≠ equals) with
  | nil =>
    rw [rest, List.append_nil] at split
    exact ⟨⟨_⟩, none, single, by rw [Option.elim_none, List.append_nil, split]⟩
  | cons b value =>
    have sign := List.head?_dropWhile_not (· ≠ equals) bytes
    rw [rest, List.head?_cons] at sign
    obtain rfl : b = equals := by simpa using sign
    rw [rest] at split
    exact ⟨⟨_⟩, some ⟨value⟩, single, by rw [Option.elim_some, split]⟩

theorem isDashed_iff {argument : SystemText} :
    isDashed argument ↔ ∃ b bytes, argument.bytes = dash :: b :: bytes := by
  rw [isDashed]
  split
  · next b bytes dashes => exact iff_of_true rfl ⟨b, bytes, dashes⟩
  · next plain =>
    refine iff_of_false Bool.false_ne_true ?_
    rintro ⟨b, bytes, dashes⟩
    exact plain b bytes dashes

/-- A name without an equals sign is told from its value, if there is anything to tell. -/
theorem formOf_long {name : SystemText} {value : Option SystemText} (single : equals ∉ name.bytes)
    (some : name.bytes ≠ [] ∨ value ≠ none) : formOf (long name value) = .long name value := by
  rw [formOf, long]
  cases rest : name.bytes ++ value.elim [] (equals :: ·.bytes) with
  | nil =>
    obtain ⟨empty, absent⟩ := List.append_eq_nil_iff.1 rest
    cases value with
    | none => exact absurd empty (some.resolve_right (· rfl))
    | some value => cases absent
  | cons b bytes =>
    show Form.long (splitLong (b :: bytes)).1 (splitLong (b :: bytes)).2 = _
    rw [← rest, splitLong_append single]

theorem formOf_spelled {o : OptionName} {name : SystemText} (spelled : name ∈ o.spellings)
    (value : Option SystemText) : formOf (long name value) = .long name value := by
  have shape : ∀ name ∈ o.spellings, equals ∉ name.bytes ∧ name.bytes ≠ [] := by
    obtain o | s | _ | _ | _ := o
    · cases o <;> decide
    · cases s <;> decide
    all_goals decide
  exact formOf_long (shape name spelled).1 (.inl (shape name spelled).2)

theorem formOf_short {b : UInt8} {bytes : List UInt8} (other : b ≠ dash) :
    formOf ⟨dash :: b :: bytes⟩ = .short (Text.Utf8.symbols (b :: bytes)) := by
  rw [formOf]
  split
  · next same => exact absurd (List.cons.inj (List.cons.inj same).2).1 other
  · next same => exact absurd (List.cons.inj (List.cons.inj same).2).1 other
  · next same =>
    obtain ⟨rfl, rfl⟩ := List.cons.inj (List.cons.inj same).2
    rfl
  · next short => exact (short b bytes rfl).elim

/-- Every argument has one of four shapes. -/
theorem shape_cases (argument : SystemText) :
    argument = "--" ∨
    (∃ name value, equals ∉ name.bytes ∧ (name.bytes ≠ [] ∨ value ≠ none) ∧
      argument = long name value) ∨
    (∃ b bytes, b ≠ dash ∧ argument = ⟨dash :: b :: bytes⟩) ∨
    isDashed argument = false := by
  by_cases dashed : isDashed argument
  · obtain ⟨b, bytes, dashes⟩ := isDashed_iff.1 dashed
    obtain rfl : argument = ⟨dash :: b :: bytes⟩ := congrArg SystemText.mk dashes
    by_cases same : b = dash
    · subst same
      obtain ⟨name, value, single, rfl⟩ := exists_eq_append bytes
      by_cases empty : name.bytes = [] ∧ value = none
      · rw [empty.1, empty.2]
        exact .inl rfl
      · exact .inr (.inl ⟨name, value, single, not_and_or.1 empty, rfl⟩)
    · exact .inr (.inr (.inl ⟨b, bytes, same, rfl⟩))
  · exact .inr (.inr (.inr (Bool.eq_false_iff.2 dashed)))

/-! ### Words -/

/-- Something that a command line may give. -/
inductive Item
  | value (o : ValueOption) (text : SystemText)
  | switch (s : Switch)
  | verbose
  deriving DecidableEq

/-- What is said at one place of a command line. -/
inductive Word
  | item (i : Item)
  | help
  | version
  /-- An option that does not exist. -/
  | unknown
  /-- No option at all. -/
  | stray
  /-- A value that an option needs, but that looks like an option itself. -/
  | dashed (o : ValueOption)
  /-- No value where an option needs one. -/
  | missing (o : ValueOption)
  /-- A value where none is needed. -/
  | unwanted
  deriving DecidableEq

/-- What a name says if nothing follows. -/
def OptionName.word : OptionName → Word
  | .value o => .missing o
  | .switch s => .item (.switch s)
  | .verbose => .item .verbose
  | .help => .help
  | .version => .version

/-- What a letter says in an argument of short options. -/
inductive LetterMeans (letter : Text.Symbol) : Word → Prop
  | known {o : OptionName} {c : Char} (spelled : o.letter? = some c) (same : letter = some c) :
    LetterMeans letter o.word
  | unknown (absent : ∀ (o : OptionName) c, o.letter? = some c → letter ≠ some c) :
    LetterMeans letter .unknown

/-- What the arguments of a command line say. -/
inductive Expresses : List SystemText → List Word → Prop
  | nil : Expresses [] []
  /-- Behind two dashes there are no options. -/
  | terminator (rest : List SystemText) : Expresses ("--" :: rest) (rest.map fun _ => .stray)
  | stray {argument : SystemText} {rest : List SystemText} {words : List Word}
    (plain : isDashed argument = false) (more : Expresses rest words) :
    Expresses (argument :: rest) (.stray :: words)
  /-- Short options in one argument. -/
  | letters {b : UInt8} {bytes : List UInt8} {rest : List SystemText} {short words : List Word}
    (other : b ≠ dash)
    (letters : List.Forall₂ LetterMeans (Text.Utf8.symbols (b :: bytes)) short)
    (more : Expresses rest words) : Expresses (⟨dash :: b :: bytes⟩ :: rest) (short ++ words)
  /-- A name that needs no value. -/
  | named {o : OptionName} {name : SystemText} {rest : List SystemText} {words : List Word}
    (spelled : name ∈ o.spellings) (alone : ∀ v, o ≠ .value v) (more : Expresses rest words) :
    Expresses (long name none :: rest) (o.word :: words)
  /-- A name that needs no value, with one behind an equals sign. -/
  | unwanted {o : OptionName} {name value : SystemText} {rest : List SystemText} {words : List Word}
    (spelled : name ∈ o.spellings) (alone : ∀ v, o ≠ .value v) (more : Expresses rest words) :
    Expresses (long name (some value) :: rest) (.unwanted :: words)
  /-- A value behind an equals sign. -/
  | joined {o : ValueOption} {name value : SystemText} {rest : List SystemText} {words : List Word}
    (spelled : name ∈ (OptionName.value o).spellings) (more : Expresses rest words) :
    Expresses (long name (some value) :: rest) (.item (.value o value) :: words)
  /-- A value in an argument of its own. -/
  | apart {o : ValueOption} {name value : SystemText} {rest : List SystemText} {words : List Word}
    (spelled : name ∈ (OptionName.value o).spellings) (plain : isDashed value = false)
    (more : Expresses rest words) :
    Expresses (long name none :: value :: rest) (.item (.value o value) :: words)
  | dashed {o : ValueOption} {name value : SystemText} {rest : List SystemText} {words : List Word}
    (spelled : name ∈ (OptionName.value o).spellings) (dash : isDashed value)
    (more : Expresses rest words) : Expresses (long name none :: value :: rest) (.dashed o :: words)
  | missing {o : ValueOption} {name : SystemText}
    (spelled : name ∈ (OptionName.value o).spellings) : Expresses [long name none] [.missing o]
  | unknown {name : SystemText} {value : Option SystemText} {rest : List SystemText}
    {words : List Word}
    (single : equals ∉ name.bytes) (some : name.bytes ≠ [] ∨ value ≠ none)
    (absent : ∀ o : OptionName, name ∉ o.spellings) (more : Expresses rest words) :
    Expresses (long name value :: rest) (.unknown :: words)

theorem exists_letterMeans (letter : Text.Symbol) : ∃ word, LetterMeans letter word := by
  by_cases known : ∃ (o : OptionName) (c : Char), o.letter? = some c ∧ letter = some c
  · obtain ⟨o, c, spelled, same⟩ := known
    exact ⟨_, .known spelled same⟩
  · exact ⟨_, .unknown fun o c spelled same => known ⟨o, c, spelled, same⟩⟩

theorem exists_letters (letters : List Text.Symbol) :
    ∃ words, List.Forall₂ LetterMeans letters words := by
  choose word means using exists_letterMeans
  refine ⟨letters.map word, ?_⟩
  rw [List.forall₂_map_right_iff, List.forall₂_same]
  exact fun letter _ => means letter

theorem exists_expresses : ∀ arguments, ∃ words, Expresses arguments words
  | [] => ⟨[], .nil⟩
  | argument :: rest => by
    obtain ⟨words, more⟩ := exists_expresses rest
    obtain rfl | ⟨name, value, single, some, rfl⟩ | ⟨b, bytes, other, rfl⟩ | plain :=
      shape_cases argument
    · exact ⟨_, .terminator rest⟩
    · by_cases known : ∃ o : OptionName, name ∈ o.spellings
      · obtain ⟨o, spelled⟩ := known
        by_cases alone : ∀ v, o ≠ .value v
        · cases value with
          | none => exact ⟨_, .named spelled alone more⟩
          | some value => exact ⟨_, .unwanted spelled alone more⟩
        · push Not at alone
          obtain ⟨v, rfl⟩ := alone
          cases value with
          | some value => exact ⟨_, .joined spelled more⟩
          | none =>
            cases rest with
            | nil => exact ⟨_, .missing spelled⟩
            | cons value rest =>
              -- The next argument belongs to the option, so the rest begins behind it.
              obtain ⟨words, more⟩ := exists_expresses rest
              cases dash : isDashed value with
              | true => exact ⟨_, .dashed spelled dash more⟩
              | false => exact ⟨_, .apart spelled dash more⟩
      · exact ⟨_, .unknown single some (not_exists.1 known) more⟩
    · obtain ⟨short, letters⟩ := exists_letters (Text.Utf8.symbols (b :: bytes))
      exact ⟨_, .letters other letters more⟩
    · exact ⟨_, .stray plain more⟩

/-! ### Finding words -/

def wordOfLetter (letter : Text.Symbol) : Word :=
  (shortName? letter).elim .unknown OptionName.word

/-- What the arguments of a command line say, found from left to right. -/
def wordsOf : List SystemText → List Word
  | [] => []
  | argument :: rest =>
    match formOf argument with
    | .terminator => rest.map fun _ => .stray
    | .plain => .stray :: wordsOf rest
    | .short letters => letters.map wordOfLetter ++ wordsOf rest
    | .long name value =>
      match longName? name, value, rest with
      | some (.value o), some text, rest => .item (.value o text) :: wordsOf rest
      | some (.value o), none, text :: rest =>
        (if isDashed text then .dashed o else .item (.value o text)) :: wordsOf rest
      | some (.value o), none, [] => [.missing o]
      | some o, none, rest => o.word :: wordsOf rest
      | some _, some _, rest => .unwanted :: wordsOf rest
      | none, _, rest => .unknown :: wordsOf rest

theorem LetterMeans.wordOfLetter_eq {letter : Text.Symbol} {word : Word}
    (means : LetterMeans letter word) : wordOfLetter letter = word := by
  cases means with
  | known spelled same =>
    rw [wordOfLetter, shortName?_eq_some_iff.2 ⟨_, spelled, same⟩, Option.elim_some]
  | unknown absent => rw [wordOfLetter, shortName?_eq_none absent, Option.elim_none]

theorem map_wordOfLetter_eq {letters : List Text.Symbol} {words : List Word}
    (means : List.Forall₂ LetterMeans letters words) : letters.map wordOfLetter = words := by
  induction means with
  | nil => rfl
  | cons means _ ih => rw [List.map_cons, means.wordOfLetter_eq, ih]

theorem Expresses.wordsOf_eq {arguments : List SystemText} {words : List Word}
    (expresses : Expresses arguments words) : wordsOf arguments = words := by
  induction expresses with
  | nil => rfl
  | terminator rest =>
    have form : formOf "--" = .terminator := by decide
    simp only [wordsOf, form]
  | stray plain _ ih => simp only [wordsOf, formOf_plain plain, ih]
  | letters other letters _ ih =>
    simp only [wordsOf, formOf_short other, map_wordOfLetter_eq letters, ih]
  | @named o _ _ _ spelled alone _ ih =>
    cases o with
    | value v => exact absurd rfl (alone v)
    | switch | verbose | help | version =>
      simp only [wordsOf, formOf_spelled spelled, longName?_eq_some_iff.2 spelled, ih]
  | @unwanted o _ _ _ _ spelled alone _ ih =>
    cases o with
    | value v => exact absurd rfl (alone v)
    | switch | verbose | help | version =>
      simp only [wordsOf, formOf_spelled spelled, longName?_eq_some_iff.2 spelled, ih]
  | joined spelled _ ih =>
    simp only [wordsOf, formOf_spelled spelled, longName?_eq_some_iff.2 spelled, ih]
  | apart spelled plain _ ih =>
    simp only [wordsOf, formOf_spelled spelled, longName?_eq_some_iff.2 spelled, plain, ih,
      Bool.false_eq_true, if_false]
  | dashed spelled dash _ ih =>
    simp only [wordsOf, formOf_spelled spelled, longName?_eq_some_iff.2 spelled, dash, ih, if_true]
  | missing spelled =>
    simp only [wordsOf, formOf_spelled spelled, longName?_eq_some_iff.2 spelled]
  | unknown single some absent _ ih =>
    simp only [wordsOf, formOf_long single some, longName?_eq_none absent, ih]

theorem expresses_iff {arguments : List SystemText} {words : List Word} :
    Expresses arguments words ↔ wordsOf arguments = words := by
  refine ⟨Expresses.wordsOf_eq, ?_⟩
  rintro rfl
  obtain ⟨words, expresses⟩ := exists_expresses arguments
  rwa [expresses.wordsOf_eq]

theorem existsUnique_expresses (arguments : List SystemText) :
    ∃! words, Expresses arguments words :=
  ⟨wordsOf arguments, expresses_iff.2 rfl, fun _ expresses => expresses.wordsOf_eq.symm⟩

instance (arguments : List SystemText) (words : List Word) :
    Decidable (Expresses arguments words) :=
  decidable_of_iff _ expresses_iff.symm

example : Expresses ["-vx", "--gt-json", "a", "--img_suffix", "-b"]
    [.item .verbose, .unknown, .item (.value .annotations "a"), .dashed .suffix] := by
  decide +kernel

/-- All items can be given, whatever the values look like. -/
theorem exists_expresses_items (items : List Item) :
    ∃ arguments, Expresses arguments (items.map .item) := by
  induction items with
  | nil => exact ⟨[], .nil⟩
  | cons i items ih =>
    obtain ⟨arguments, more⟩ := ih
    cases i with
    | value o text =>
      obtain ⟨name, spelled⟩ := (OptionName.value o).exists_spelling
      exact ⟨long name (some text) :: arguments, .joined spelled more⟩
    | switch s =>
      obtain ⟨name, spelled⟩ := (OptionName.switch s).exists_spelling
      exact ⟨long name none :: arguments, .named spelled nofun more⟩
    | verbose =>
      obtain ⟨name, spelled⟩ := OptionName.verbose.exists_spelling
      exact ⟨long name none :: arguments, .named spelled nofun more⟩

/-! ### Reading words -/

def Given.take (g : Given) : Word → Except Stop Given
  | .item (.value o text) => g.setValue o text
  | .item (.switch s) => g.set (.switch s)
  | .item .verbose => g.set .verbose
  | .help => .error .help
  | .version => .error .version
  | _ => .error .invalid

/-- A name without a value is set as its word is taken in. -/
theorem take_word (g : Given) (o : OptionName) : g.take o.word = g.set o := by
  cases o <;> rfl

theorem elim_shortName? {letter : Text.Symbol} {word : Word} (means : LetterMeans letter word)
    (g : Given) : (shortName? letter).elim (.error .invalid) g.set = g.take word := by
  cases means with
  | known spelled same =>
    rw [shortName?_eq_some_iff.2 ⟨_, spelled, same⟩, Option.elim_some, take_word]
  | unknown absent =>
    rw [shortName?_eq_none absent]
    rfl

theorem setShort_eq {letters : List Text.Symbol} {words : List Word}
    (means : List.Forall₂ LetterMeans letters words) (g : Given) :
    g.setShort letters = words.foldlM Given.take g := by
  induction means generalizing g with
  | nil => rfl
  | cons first _ ih =>
    rw [Given.setShort, List.foldlM_cons, elim_shortName? first, List.foldlM_cons]
    exact congrArg _ (funext ih)

/-- Reading arguments is taking in their words. -/
theorem Expresses.read {arguments : List SystemText} {words : List Word}
    (expresses : Expresses arguments words) (g : Given) :
    read g arguments = words.foldlM Given.take g := by
  induction expresses generalizing g with
  | nil => rfl
  | terminator rest =>
    have form : formOf "--" = .terminator := by decide
    cases rest <;> simp only [CommandLine.read, form] <;> rfl
  | stray plain _ ih =>
    simp only [CommandLine.read, formOf_plain plain]
    rfl
  | letters other letters _ ih =>
    simp only [CommandLine.read, formOf_short other, setShort_eq letters, List.foldlM_append]
    exact congrArg _ (funext ih)
  | @named o _ _ _ spelled alone _ ih =>
    cases o with
    | value v => exact absurd rfl (alone v)
    | switch | verbose | help | version =>
      simp only [CommandLine.read, formOf_spelled spelled, longName?_eq_some_iff.2 spelled]
      rw [List.foldlM_cons, take_word]
      exact congrArg _ (funext ih)
  | @unwanted o _ _ _ _ spelled alone _ ih =>
    cases o with
    | value v => exact absurd rfl (alone v)
    | switch | verbose | help | version =>
      simp only [CommandLine.read, formOf_spelled spelled, longName?_eq_some_iff.2 spelled]
      rfl
  | joined spelled _ ih =>
    simp only [CommandLine.read, formOf_spelled spelled, longName?_eq_some_iff.2 spelled]
    exact congrArg _ (funext ih)
  | apart spelled plain _ ih =>
    simp only [CommandLine.read, formOf_spelled spelled, longName?_eq_some_iff.2 spelled, plain,
      Bool.false_eq_true, if_false]
    exact congrArg _ (funext ih)
  | dashed spelled dash _ ih =>
    simp only [CommandLine.read, formOf_spelled spelled, longName?_eq_some_iff.2 spelled, dash]
    rfl
  | missing spelled =>
    simp only [CommandLine.read, formOf_spelled spelled, longName?_eq_some_iff.2 spelled]
    rfl
  | unknown single some absent _ ih =>
    simp only [CommandLine.read, formOf_long single some, longName?_eq_none absent]
    rfl

end DetectionMerge.CommandLine
