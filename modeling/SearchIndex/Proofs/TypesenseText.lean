import SearchIndex.Proofs.CompileInversion
import SearchIndex.Proofs.LiteralText

/-! How far the text of a Typesense clause tells what stands in it. Nothing separates an operator
from its literals or the two ends of a range, and texts stand without quotes unless they hold one of
a few characters. The equals sign and the point are not among these, so some tests run together: to
be less than a text that begins with an equals sign reads as to be at most the rest of it, and a
range may be cut at any two points. Apart from these, clauses with one text are the same test. -/
namespace SearchIndex

/-- What a single test asks of its field: an operator and the texts of its literals. -/
inductive Asked where
  | compare (comparison : Comparison) (literal : List Char)
  | between (low high : List Char)
  | oneOf (literals : List (List Char))

/-- What a filter asks, if it is a single test with literals. -/
def Filter.asked? : Filter → Option Asked
  | .compare _ comparison value => value.literalText?.map (.compare comparison)
  | .between _ low high => do return .between (← low.literalText?) (← high.literalText?)
  | .oneOf _ values => (values.mapM Value.literalText?).map .oneOf
  | .group .. | .not _ => none

namespace Typesense

/-! ## Texts with and without quotes -/

/-- The backtick, which stands around texts and in none. -/
def tick : Char := '\x60'

/-- The characters that put a text between backticks. -/
def IsSpecial (c : Char) : Prop := isBlank c = true ∨ c ∈ [',', '&', '|', '(', ')', '[', ']', ':']

theorem text_quoted (quoted : needsQuotes text = true) :
    textChars text = tick :: (text ++ [tick]) := if_pos quoted

theorem text_bare (bare : needsQuotes text = false) : textChars text = text :=
  if_neg (Bool.eq_false_iff.mp bare)

theorem needs_quotes_false_iff : needsQuotes text = false ↔
    text ≠ [] ∧ ∀ c ∈ text, ¬ IsSpecial c := by
  simp [needsQuotes, IsSpecial, List.isEmpty_eq_false_iff]

theorem tick_starts_quoted (rest : List Char) (quoted : needsQuotes text = true) :
    textChars text ++ rest = tick :: (text ++ tick :: rest) := by
  rw [text_quoted quoted, List.cons_append, List.append_assoc, List.singleton_append]

/-- No text without quotes begins like one in quotes. -/
theorem bare_not_tick (writable : tick ∉ text) (bare : needsQuotes text = false) :
    text ++ rest ≠ tick :: rest' := by
  intro same
  cases text with
  | nil => exact (needs_quotes_false_iff.mp bare).1 rfl
  | cons c text => exact writable ((List.cons.inj same).1 ▸ List.mem_cons_self)

theorem mem_tick_iff (writable : tick ∉ text) :
    tick ∈ textChars text ↔ needsQuotes text = true := by
  cases quotes : needsQuotes text with
  | false => simp [text_bare quotes, writable]
  | true => simp [text_quoted quotes]

/-- Texts that begin alike are both in quotes or both not. -/
theorem quotes_of_same (writable : tick ∉ text) (writable' : tick ∉ text')
    (same : textChars text ++ rest = textChars text' ++ rest') :
    needsQuotes text = needsQuotes text' := by
  cases quotes : needsQuotes text <;> cases quotes' : needsQuotes text'
  · rfl
  · rw [text_bare quotes, tick_starts_quoted _ quotes'] at same
    exact absurd same (bare_not_tick writable quotes)
  · rw [text_bare quotes', tick_starts_quoted _ quotes] at same
    exact absurd same.symm (bare_not_tick writable' quotes')
  · rfl

/-- A text in quotes ends where they close, whatever stands behind it. -/
theorem quoted_unique (writable : tick ∉ text) (writable' : tick ∉ text')
    (quoted : needsQuotes text = true)
    (same : textChars text ++ rest = textChars text' ++ rest') : text = text' ∧ rest = rest' := by
  have quoted' := (quotes_of_same writable writable' same).symm.trans quoted
  rw [tick_starts_quoted _ quoted, tick_starts_quoted _ quoted'] at same
  have free {text : List Char} (writable : tick ∉ text) : ∀ c ∈ text, ¬ c = tick := by
    rintro c member rfl
    exact writable member
  obtain ⟨texts, -, rests⟩ := cut_unique (free writable) (free writable') rfl rfl
    (List.cons.inj same).2
  exact ⟨texts, rests⟩

theorem text_chars_injective (writable : tick ∉ text) (writable' : tick ∉ text')
    (same : textChars text = textChars text') : text = text' := by
  have ended : textChars text ++ [] = textChars text' ++ [] := by rw [same]
  cases quotes : needsQuotes text with
  | false =>
    have quotes' := (quotes_of_same writable writable' ended).symm.trans quotes
    rwa [text_bare quotes, text_bare quotes'] at same
  | true => exact (quoted_unique writable writable' quotes ended).1

/-! ## Tests -/

/-- The text of a test behind the name of its field. -/
def askedChars : Asked → List Char
  | .compare comparison literal => comparison.symbol.toList ++ textChars literal
  | .between low high => '[' :: (textChars low ++ '.' :: '.' :: (textChars high ++ [']']))
  | .oneOf literals => '=' :: '[' :: ([','].intercalate (literals.map textChars) ++ [']'])

/-- A test that the language can write: no text holds a backtick, and no list is empty. -/
def Writable : Asked → Prop
  | .compare _ literal => tick ∉ literal
  | .between low high => tick ∉ low ∧ tick ∉ high
  | .oneOf literals => literals ≠ [] ∧ ∀ literal ∈ literals, tick ∉ literal

/-- A strict comparison and the one that accepts equality as well. -/
inductive Loosens : Comparison → Comparison → Prop where
  | less : Loosens .lt .le
  | greater : Loosens .gt .ge

/-- Two tests that are written alike although they ask for different things, as no quotes tell where
an operator or a bound ends. -/
inductive RunsInto : Asked → Asked → Prop where
  | compare (loosens : Loosens strict loose) (bare : needsQuotes literal = false) :
      RunsInto (.compare strict ('=' :: literal)) (.compare loose literal)
  | between (bare : ∀ bound ∈ [low, high, low', high'], needsQuotes bound = false)
      (cut : low ++ '.' :: '.' :: high = low' ++ '.' :: '.' :: high') :
      RunsInto (.between low high) (.between low' high')

theorem symbol_chars (comparison : Comparison) : comparison.symbol.toList = match comparison with
    | .eq => ['='] | .ne => ['!', '='] | .lt => ['<'] | .le => ['<', '='] | .gt => ['>']
    | .ge => ['>', '='] := by
  cases comparison <;> rfl

/-- Texts behind operators are alike when the operators are; otherwise the text behind a strict one
begins with the equals sign of the other. -/
theorem symbol_texts {comparison other : Comparison}
    (same : comparison.symbol.toList ++ text = other.symbol.toList ++ text') :
    (comparison = other ∧ text = text') ∨ (Loosens comparison other ∧ text = '=' :: text') ∨
      (Loosens other comparison ∧ text' = '=' :: text) := by
  rw [symbol_chars, symbol_chars] at same
  cases comparison <;> cases other <;> simp at same
  case lt.le => exact .inr (.inl ⟨.less, same⟩)
  case gt.ge => exact .inr (.inl ⟨.greater, same⟩)
  case le.lt => exact .inr (.inr ⟨.less, same.symm⟩)
  case ge.gt => exact .inr (.inr ⟨.greater, same.symm⟩)
  all_goals exact .inl ⟨rfl, same⟩

/-- A text that is written with an equals sign before another stands without quotes, and so does the
other. -/
theorem equals_before (writable : tick ∉ text) (writable' : tick ∉ text')
    (same : textChars text = '=' :: textChars text') :
    text = '=' :: text' ∧ needsQuotes text' = false := by
  cases quotes : needsQuotes text with
  | true =>
    rw [text_quoted quotes] at same
    exact absurd (List.cons.inj same).1 (by simp [tick])
  | false =>
    rw [text_bare quotes] at same
    subst same
    have bare : needsQuotes text' = false := by
      refine Bool.eq_false_iff.mpr fun quoted => writable (List.mem_cons_of_mem _ ?_)
      exact (mem_tick_iff writable').mpr quoted
    rw [text_bare bare]
    exact ⟨rfl, bare⟩

/-- What stands behind a text in a list: the texts that follow, each behind a comma, and the bracket
that closes the list. -/
def listedBehind : List (List Char) → List Char
  | [] => [']']
  | text :: rest => ',' :: (textChars text ++ listedBehind rest)

theorem listed_cons (text : List Char) (rest : List (List Char)) :
    [','].intercalate ((text :: rest).map textChars) ++ [']'] =
      textChars text ++ listedBehind rest := by
  induction rest generalizing text with
  | nil => rw [List.map_singleton, List.intercalate_singleton, listedBehind]
  | cons next rest ih =>
    have step : (text :: next :: rest).map textChars =
        textChars text :: textChars next :: rest.map textChars := rfl
    rw [step, List.intercalate_cons_cons, ← List.map_cons, List.append_assoc, ih, listedBehind,
      List.append_assoc, List.singleton_append]

/-- A text in a list ends where the comma or the bracket behind it says. -/
theorem listed_text_unique (writable : tick ∉ text) (writable' : tick ∉ text')
    (same : textChars text ++ listedBehind rest = textChars text' ++ listedBehind rest') :
    text = text' ∧ listedBehind rest = listedBehind rest' := by
  have starts (rest : List (List Char)) :
      ∃ stop more, listedBehind rest = stop :: more ∧ stop ∈ [',', ']'] := by
    cases rest with
    | nil => exact ⟨']', [], rfl, by simp⟩
    | cons text rest => exact ⟨',', _, rfl, by simp⟩
  have plain {text : List Char} (bare : needsQuotes text = false) : ∀ c ∈ text, c ∉ [',', ']'] := by
    intro c member listed
    refine (needs_quotes_false_iff.mp bare).2 c member (.inr ?_)
    simp only [List.mem_cons, List.not_mem_nil, or_false] at listed
    rcases listed with rfl | rfl <;> simp
  cases quotes : needsQuotes text with
  | true => exact quoted_unique writable writable' quotes same
  | false =>
    have quotes' := (quotes_of_same writable writable' same).symm.trans quotes
    obtain ⟨stop, more, begins, stops⟩ := starts rest
    obtain ⟨stop', more', begins', stops'⟩ := starts rest'
    rw [text_bare quotes, text_bare quotes', begins, begins'] at same
    obtain ⟨texts, rfl, rfl⟩ := cut_unique (plain quotes) (plain quotes') stops stops' same
    exact ⟨texts, begins.trans begins'.symm⟩

theorem listed_behind_unique {first second : List (List Char)}
    (writable : ∀ text ∈ first, tick ∉ text) (writable' : ∀ text ∈ second, tick ∉ text)
    (same : listedBehind first = listedBehind second) : first = second := by
  induction first generalizing second with
  | nil =>
    cases second with
    | nil => rfl
    | cons text' rest' => exact absurd (List.cons.inj same).1 (by simp)
  | cons text rest ih =>
    obtain ⟨here, later⟩ := List.forall_mem_cons.mp writable
    cases second with
    | nil => exact absurd (List.cons.inj same).1 (by simp)
    | cons text' rest' =>
      obtain ⟨here', later'⟩ := List.forall_mem_cons.mp writable'
      obtain ⟨rfl, behind⟩ := listed_text_unique here here' (List.cons.inj same).2
      rw [ih later later' behind]

/-- The ends of a range are read in one way, or stand all four without quotes. -/
theorem bounds_unique (low_writable : tick ∉ low) (high_writable : tick ∉ high)
    (low_writable' : tick ∉ low') (high_writable' : tick ∉ high')
    (same : textChars low ++ '.' :: '.' :: textChars high =
      textChars low' ++ '.' :: '.' :: textChars high') :
    (low = low' ∧ high = high') ∨
      (∀ bound ∈ [low, high, low', high'], needsQuotes bound = false) ∧
        low ++ '.' :: '.' :: high = low' ++ '.' :: '.' :: high' := by
  cases quotes : needsQuotes low with
  | true =>
    obtain ⟨lows, points⟩ := quoted_unique low_writable low_writable' quotes same
    have highs := (List.cons.inj (List.cons.inj points).2).2
    exact .inl ⟨lows, text_chars_injective high_writable high_writable' highs⟩
  | false =>
    have point : tick ≠ '.' := by simp [tick]
    have quotes' := (quotes_of_same low_writable low_writable' same).symm.trans quotes
    rw [text_bare quotes, text_bare quotes'] at same
    -- Bare lower ends hold no backtick, so one in the text can only be of an upper end.
    have ends : needsQuotes high = needsQuotes high' := by
      have ticks : tick ∈ textChars high ↔ tick ∈ textChars high' := by
        have inside := congrArg (tick ∈ ·) same
        simpa [low_writable, low_writable', point] using inside
      rw [mem_tick_iff high_writable, mem_tick_iff high_writable'] at ticks
      exact Bool.eq_iff_iff.mpr ticks
    cases quotes_high : needsQuotes high with
    | true =>
      have quotes_high' := ends.symm.trans quotes_high
      have free {text : List Char} (writable : tick ∉ text) :
          ∀ c ∈ text ++ ['.', '.'], ¬ c = tick := by
        rintro c member rfl
        simp [writable, point] at member
      -- The first backtick opens the upper ends, so the points before it are those of the ranges.
      have cut : (low ++ ['.', '.']) ++ tick :: (high ++ [tick]) =
          (low' ++ ['.', '.']) ++ tick :: (high' ++ [tick]) := by
        rw [text_quoted quotes_high, text_quoted quotes_high'] at same
        simpa using same
      obtain ⟨lows, -, highs⟩ := cut_unique (free low_writable) (free low_writable') rfl rfl cut
      exact .inl ⟨List.append_cancel_right lows, List.append_cancel_right highs⟩
    | false =>
      have quotes_high' := ends.symm.trans quotes_high
      rw [text_bare quotes_high, text_bare quotes_high'] at same
      exact .inr ⟨by simp [quotes, quotes', quotes_high, quotes_high'], same⟩

theorem compare_not_between : askedChars (.compare comparison literal) ≠
    askedChars (.between low high) := by
  rw [askedChars, askedChars, symbol_chars]
  cases comparison <;> simp

theorem compare_not_one_of :
    askedChars (.compare comparison literal) ≠ askedChars (.oneOf literals) := by
  rw [askedChars, askedChars, symbol_chars]
  cases comparison with
  | ne | lt | le | gt | ge => simp
  | eq =>
    intro same
    have square :
        textChars literal = '[' :: ([','].intercalate (literals.map textChars) ++ [']']) :=
      (List.cons.inj same).2
    cases quotes : needsQuotes literal with
    | true =>
      rw [text_quoted quotes] at square
      exact absurd (List.cons.inj square).1 (by simp [tick])
    | false =>
      rw [text_bare quotes] at square
      refine (needs_quotes_false_iff.mp quotes).2 '[' ?_ (.inr (by simp))
      rw [square]
      exact List.mem_cons_self

theorem between_not_one_of : askedChars (.between low high) ≠ askedChars (.oneOf literals) := by
  intro same
  exact absurd (List.cons.inj same).1 (by simp)

theorem runs_into_chars (runs : RunsInto asked asked') : askedChars asked = askedChars asked' := by
  cases runs with
  | @compare strict loose literal loosens bare =>
    have bare' : needsQuotes ('=' :: literal) = false := by
      refine needs_quotes_false_iff.mpr ⟨by simp, List.forall_mem_cons.mpr ⟨?_, ?_⟩⟩
      · rintro (blank | listed)
        · cases blank
        · simp at listed
      · exact (needs_quotes_false_iff.mp bare).2
    rw [askedChars, askedChars, symbol_chars, symbol_chars, text_bare bare, text_bare bare']
    cases loosens <;> rfl
  | @between low high low' high' bare cut =>
    simp only [List.forall_mem_cons] at bare
    obtain ⟨low_bare, high_bare, low_bare', high_bare', -⟩ := bare
    rw [askedChars, askedChars, text_bare low_bare, text_bare high_bare, text_bare low_bare',
      text_bare high_bare']
    have closed := congrArg (· ++ [']']) cut
    simpa using closed

/-- Tests are written alike when they ask for the same, and otherwise only when one runs into the
other. -/
theorem asked_chars_iff {asked asked' : Asked} (writable : Writable asked)
    (writable' : Writable asked') : askedChars asked = askedChars asked' ↔
      asked = asked' ∨ RunsInto asked asked' ∨ RunsInto asked' asked := by
  constructor
  · intro same
    cases asked with
    | compare comparison literal =>
      cases asked' with
      | compare other literal' =>
        rcases symbol_texts same with ⟨rfl, texts⟩ | ⟨loosens, texts⟩ | ⟨loosens, texts⟩
        · rw [text_chars_injective writable writable' texts]
          exact .inl rfl
        · obtain ⟨rfl, bare⟩ := equals_before writable writable' texts
          exact .inr (.inl (.compare loosens bare))
        · obtain ⟨rfl, bare⟩ := equals_before writable' writable texts
          exact .inr (.inr (.compare loosens bare))
      | between low' high' => exact absurd same compare_not_between
      | oneOf literals' => exact absurd same compare_not_one_of
    | between low high =>
      cases asked' with
      | compare other literal' => exact absurd same.symm compare_not_between
      | between low' high' =>
        have ends : (textChars low ++ '.' :: '.' :: textChars high) ++ [']'] =
            (textChars low' ++ '.' :: '.' :: textChars high') ++ [']'] := by
          simpa [askedChars] using same
        rcases bounds_unique writable.1 writable.2 writable'.1 writable'.2
          (List.append_cancel_right ends) with ⟨rfl, rfl⟩ | ⟨bare, cut⟩
        · exact .inl rfl
        · exact .inr (.inl (.between bare cut))
      | oneOf literals' => exact absurd same between_not_one_of
    | oneOf literals =>
      cases asked' with
      | compare other literal' => exact absurd same.symm compare_not_one_of
      | between low' high' => exact absurd same.symm between_not_one_of
      | oneOf literals' =>
        obtain ⟨text, rest, rfl⟩ := List.exists_cons_of_ne_nil writable.1
        obtain ⟨text', rest', rfl⟩ := List.exists_cons_of_ne_nil writable'.1
        obtain ⟨here, later⟩ := List.forall_mem_cons.mp writable.2
        obtain ⟨here', later'⟩ := List.forall_mem_cons.mp writable'.2
        have listed := (List.cons.inj (List.cons.inj same).2).2
        rw [listed_cons, listed_cons] at listed
        obtain ⟨rfl, behind⟩ := listed_text_unique here here' listed
        rw [listed_behind_unique later later' behind]
        exact .inl rfl
  · rintro (rfl | runs | runs)
    · rfl
    · exact runs_into_chars runs
    · exact (runs_into_chars runs).symm

/-! ## Compiled tests -/

theorem number_plain (number : Number) : ∀ c ∈ number.chars, ¬ IsSpecial c := by
  unfold IsSpecial
  exact number_chars_all number (by decide)

/-- A literal that compiles is written as its text is, with no backtick in it. -/
theorem literal_text {value : Value} (made : Backend.typesense.literal field value = .ok literal) :
    ∃ text, value.literalText? = some text ∧ tick ∉ text ∧
      literal.chars .typesense = textChars text := by
  cases value with
  | null | array | object => cases made
  | string text =>
    simp only [Backend.literal] at made
    split at made
    · cases made
    · rename_i writable
      cases made
      exact ⟨text.toList, rfl, fun member => writable ⟨trivial, member⟩, rfl⟩
  | number n =>
    cases made
    have bare : needsQuotes n.chars = false :=
      needs_quotes_false_iff.mpr ⟨n.chars_ne_nil, number_plain n⟩
    have no_tick : ∀ c ∈ n.chars, c ≠ tick := number_chars_all n (by decide)
    exact ⟨n.chars, rfl, fun member => no_tick tick member rfl, (text_bare bare).symm⟩
  | bool value =>
    cases made
    cases value <;> exact ⟨_, rfl, by simp [tick], rfl⟩

theorem literal_texts {values : List Value}
    (made : Backend.typesense.literals field values = .ok literals) :
    ∃ texts, values.mapM Value.literalText? = some texts ∧ texts.length = values.length ∧
      (∀ text ∈ texts, tick ∉ text) ∧
      literals.map (Literal.chars .typesense) = texts.map textChars := by
  have each := literals_ok.mp made
  clear made
  induction each with
  | nil => exact ⟨[], rfl, rfl, nofun, rfl⟩
  | cons here _ ih =>
    obtain ⟨text, spelled, writable, written⟩ := literal_text here
    obtain ⟨texts, spelled_all, length, writable_all, written_all⟩ := ih
    refine ⟨text :: texts, by simp [spelled, spelled_all], by simp [length],
      List.forall_mem_cons.mpr ⟨writable, writable_all⟩, ?_⟩
    rw [List.map_cons, List.map_cons, written, written_all]

/-- A single test that compiles is written as its field and what it asks of it. -/
theorem test_text {filter : Filter} (tests : filter.field? = some field)
    (compiled : Backend.typesense.compile (some filter) = .ok (.expression formula)) :
    ∃ asked, filter.asked? = some asked ∧ Writable asked ∧
      formula.chars .typesense = field.toList ++ ':' :: askedChars asked := by
  have node := (compile_some_ok.mp compiled).1
  cases filter with
  | group | not => cases tests
  | compare name comparison value =>
    cases tests
    obtain ⟨-, literal, made, same⟩ := compile_compare_ok.mp node
    cases same
    obtain ⟨text, spelled, writable, written⟩ := literal_text made
    refine ⟨.compare comparison text, by simp [Filter.asked?, spelled], writable, ?_⟩
    simp [Backend.comparison, Formula.chars, Clause.chars, Clause.compareChars, written, askedChars]
  | between name low high =>
    cases tests
    obtain ⟨-, least, made, greatest, made', same⟩ := compile_between_ok.mp node
    cases same
    obtain ⟨text, spelled, writable, written⟩ := literal_text made
    obtain ⟨text', spelled', writable', written'⟩ := literal_text made'
    refine ⟨.between text text', by simp [Filter.asked?, spelled, spelled'],
      ⟨writable, writable'⟩, ?_⟩
    simp [Backend.range, Formula.chars, Clause.chars, Clause.betweenChars, written, written',
      askedChars]
  | oneOf name values =>
    cases tests
    obtain ⟨-, present, literals, made, same⟩ := compile_one_of_ok.mp node
    cases same
    obtain ⟨texts, spelled, length, writable, written⟩ := literal_texts made
    refine ⟨.oneOf texts, by simp [Filter.asked?, spelled], ⟨?_, writable⟩, ?_⟩
    · rintro rfl
      exact present (List.length_eq_zero_iff.mp length.symm)
    · simp [Backend.membership, Formula.chars, Clause.chars, Clause.oneOfChars, written, askedChars]

/-- Single tests of a field compile to one text exactly when they ask for the same, with the same
texts for literals, or when they run together: one is strict and its text has an equals sign before
that of the other, or both are ranges that differ in where their bounds are cut. -/
theorem same_clause_iff {first second : Filter} (tests : first.field? = some field)
    (tests' : second.field? = some field)
    (compiled : Backend.typesense.compile (some first) = .ok (.expression formula))
    (compiled' : Backend.typesense.compile (some second) = .ok (.expression formula')) :
    ∃ asked asked', first.asked? = some asked ∧ second.asked? = some asked' ∧
      (formula.text .typesense = formula'.text .typesense ↔
        asked = asked' ∨ RunsInto asked asked' ∨ RunsInto asked' asked) := by
  obtain ⟨asked, asks, writable, written⟩ := test_text tests compiled
  obtain ⟨asked', asks', writable', written'⟩ := test_text tests' compiled'
  refine ⟨asked, asked', asks, asks', ?_⟩
  rw [← asked_chars_iff writable writable', Formula.text, Formula.text, String.ofList_inj, written,
    written', List.append_cancel_left_eq, List.cons.injEq]
  exact and_iff_right rfl

theorem same_clause_tags : ∃ formula formula',
    Backend.typesense.compile (some (.oneOf "tag" [.string "a,b"])) = .ok (.expression formula) ∧
      Backend.typesense.compile (some (.oneOf "tag" [.string "a", .string "b"])) =
        .ok (.expression formula') ∧
      formula.text .typesense ≠ formula'.text .typesense := by
  have compiled : Backend.typesense.compile (some (.oneOf "tag" [.string "a,b"])) =
      .ok (.expression (.clause (.oneOf "tag" [.text "a,b"]))) := rfl
  have compiled' : Backend.typesense.compile (some (.oneOf "tag" [.string "a", .string "b"])) =
      .ok (.expression (.clause (.oneOf "tag" [.text "a", .text "b"]))) := rfl
  refine ⟨_, _, compiled, compiled', fun same => ?_⟩
  obtain ⟨asked, asked', asks, asks', exactly⟩ := same_clause_iff rfl rfl compiled compiled'
  simp only [Filter.asked?, List.mapM_cons, List.mapM_nil, Value.literalText?, Option.bind_eq_bind,
    Option.bind_some, Option.pure_def, Option.map_some, Option.some.injEq] at asks asks'
  subst asks asks'
  rcases exactly.mp same with alike | runs | runs
  · simp at alike
  · cases runs
  · cases runs

/-- To be less than `=5` is written as to be at most `5`, and a range from `a..b` to `c` as one from
`a` to `b..c`, although these are different tests. -/
theorem clauses_run_together :
    (∃ formula formula',
      Backend.typesense.compile (some (.compare "price" .lt (.string "=5"))) =
        .ok (.expression formula) ∧
      Backend.typesense.compile (some (.compare "price" .le (.string "5"))) =
        .ok (.expression formula') ∧
      formula.text .typesense = formula'.text .typesense ∧
      (Filter.compare "price" .lt (.string "=5")).asked? ≠
        (Filter.compare "price" .le (.string "5")).asked?) ∧
    ∃ formula formula',
      Backend.typesense.compile (some (.between "code" (.string "a..b") (.string "c"))) =
        .ok (.expression formula) ∧
      Backend.typesense.compile (some (.between "code" (.string "a") (.string "b..c"))) =
        .ok (.expression formula') ∧
      formula.text .typesense = formula'.text .typesense ∧
      (Filter.between "code" (.string "a..b") (.string "c")).asked? ≠
        (Filter.between "code" (.string "a") (.string "b..c")).asked? := by
  refine ⟨⟨_, _, rfl, rfl, rfl, ?_⟩, _, _, rfl, rfl, rfl, ?_⟩
  · simp [Filter.asked?, Value.literalText?]
  · simp [Filter.asked?, Value.literalText?]

end Typesense

end SearchIndex
