import SearchIndex.Dialect.Compile
import SearchIndex.Proofs.FilterStructure
import SearchIndex.Proofs.NumberText

/-! Where the text of an Algolia or MeiliSearch literal ends. A text in quotes ends at the first quote
that has no backslash before it, and a literal without quotes holds none of the characters that stand
behind literals, so it tells from the beginning of a text where its literal ends, and no literal runs
into what follows. -/
namespace SearchIndex

/-- The text of a literal: a string's own, or what is printed of a number or a boolean. -/
def Value.literalText? : Value → Option (List Char)
  | .string text => some text.toList
  | .number n => some n.chars
  | .bool true => some ['t', 'r', 'u', 'e']
  | .bool false => some ['f', 'a', 'l', 's', 'e']
  | .null | .array _ | .object _ => none

/-- How a value is written as a literal in a clause on a field. -/
def Backend.literalChars (backend : Backend) (field : String) (value : Value) :
    Except Error (List Char) :=
  (backend.literal field value).map (Literal.chars backend)

/-- A text is empty or begins with one of some characters. -/
def BeginsWith (marks : List Char) (rest : List Char) : Prop := ∀ c ∈ rest.head?, c ∈ marks

/-! ## Cutting texts -/

/-- A text is cut in one way where the first of some characters stands or the text ends. -/
theorem front_unique {stops : Char → Prop} {front other rest rest' : List Char}
    (free : ∀ c ∈ front, ¬ stops c)
    (free' : ∀ c ∈ other, ¬ stops c) (stopped : ∀ c ∈ rest.head?, stops c)
    (stopped' : ∀ c ∈ rest'.head?, stops c) (same : front ++ rest = other ++ rest') :
    front = other ∧ rest = rest' := by
  induction front generalizing other with
  | nil =>
    cases other with
    | nil => exact ⟨rfl, same⟩
    | cons d other =>
      rw [List.nil_append] at same
      rw [same] at stopped
      exact absurd (stopped d rfl) (free' d List.mem_cons_self)
  | cons c front ih =>
    obtain ⟨here, later⟩ := List.forall_mem_cons.mp free
    cases other with
    | nil =>
      rw [List.nil_append] at same
      rw [← same] at stopped'
      exact absurd (stopped' c rfl) here
    | cons d other =>
      obtain ⟨rfl, behind⟩ := List.cons.inj same
      obtain ⟨rfl, rests⟩ :=
        ih later (fun e member => free' e (List.mem_cons_of_mem _ member)) behind
      exact ⟨rfl, rests⟩

/-- A text is cut in one way at the first of some characters. -/
theorem cut_unique {stops : Char → Prop} (free : ∀ c ∈ front, ¬ stops c)
    (free' : ∀ c ∈ other, ¬ stops c) (stop : stops x) (stop' : stops y)
    (same : front ++ x :: rest = other ++ y :: rest') : front = other ∧ x = y ∧ rest = rest' := by
  have stopped {x : Char} {rest : List Char} (stop : stops x) : ∀ c ∈ (x :: rest).head?, stops c := by
    rintro _ ⟨⟩
    exact stop
  obtain ⟨rfl, behind⟩ := front_unique free free' (stopped stop) (stopped stop') same
  exact ⟨rfl, List.cons.inj behind⟩

/-! ## Texts in quotes -/

/-- What stands in front of the quote that closes a text, without backslashes, and what stands behind
it. -/
def readQuoted (quote : Char) : List Char → Option (List Char × List Char)
  | [] => none
  | c :: rest =>
    if c = quote then some ([], rest)
    else if c = '\\' then
      match rest with
      | [] => none
      | d :: rest => (readQuoted quote rest).map fun read => (d :: read.1, read.2)
    else (readQuoted quote rest).map fun read => (c :: read.1, read.2)

theorem escape_cons (quote c : Char) (text : List Char) :
    escapeQuote quote (c :: text) =
      (if c = '\\' || c = quote then ['\\', c] else [c]) ++ escapeQuote quote text := rfl

theorem read_quoted_close (quote : Char) (rest : List Char) :
    readQuoted quote (quote :: rest) = some ([], rest) := by
  rw [readQuoted.eq_def]
  exact if_pos rfl

theorem read_quoted_backslash {quote : Char} (other : quote ≠ '\\') (c : Char)
    (rest : List Char) : readQuoted quote ('\\' :: c :: rest) =
      (readQuoted quote rest).map fun read => (c :: read.1, read.2) := by
  rw [readQuoted, if_neg other.symm, if_pos rfl]

theorem read_quoted_plain {quote : Char} (inside : c ≠ quote) (plain : c ≠ '\\')
    (rest : List Char) : readQuoted quote (c :: rest) =
      (readQuoted quote rest).map fun read => (c :: read.1, read.2) := by
  rw [readQuoted.eq_def]
  exact (if_neg inside).trans (if_neg plain)

/-- An escaped text is read up to the quote behind it. -/
theorem read_quoted_escape {quote : Char} (other : quote ≠ '\\') (text rest : List Char) :
    readQuoted quote (escapeQuote quote text ++ quote :: rest) = some (text, rest) := by
  induction text with
  | nil => exact read_quoted_close quote rest
  | cons c text ih =>
    rw [escape_cons]
    split
    · rw [List.append_assoc, List.cons_append, List.singleton_append,
        read_quoted_backslash other, ih, Option.map_some]
    · rename_i plain
      simp only [Bool.or_eq_true, decide_eq_true_eq, not_or] at plain
      rw [List.append_assoc, List.singleton_append, read_quoted_plain plain.2 plain.1, ih,
        Option.map_some]

/-- A text in quotes ends where they close, whatever stands behind it. -/
theorem quoted_unique {quote : Char} (other : quote ≠ '\\') {text text' rest rest' : List Char}
    (same : escapeQuote quote text ++ quote :: rest = escapeQuote quote text' ++ quote :: rest') :
    text = text' ∧ rest = rest' := by
  have read := read_quoted_escape other text rest
  rw [same, read_quoted_escape other text' rest'] at read
  cases read
  exact ⟨rfl, rfl⟩

/-! ## Texts with and without quotes -/

/-- A text as it is, or in quotes with a backslash before each backslash and each quote in it. -/
def quotedText (quote : Char) (quoted : Bool) (text : List Char) : List Char :=
  if quoted then quote :: (escapeQuote quote text ++ [quote]) else text

/-- A text that stands without quotes holds no quote and none of the characters that end it. -/
def IsBareText (quote : Char) (marks : List Char) (quoted : Bool) (text : List Char) : Prop :=
  quoted = false → ∀ c ∈ text, c ∉ quote :: marks

/-- A text without quotes does not begin like one in quotes. -/
theorem bare_not_quote {quote : Char} {marks text rest : List Char} (mark : quote ∉ marks)
    (bare : ∀ c ∈ text, c ∉ quote :: marks) (behind : BeginsWith marks rest) :
    text ++ rest ≠ quote :: rest' := by
  intro same
  cases text with
  | nil =>
    rw [List.nil_append] at same
    exact mark (behind quote (by simp [same]))
  | cons c text =>
    rw [(List.cons.inj same).1] at bare
    exact bare quote List.mem_cons_self List.mem_cons_self

/-- A text with or without quotes tells where it ends, in front of the characters that end it. -/
theorem quoted_text_unique {quote : Char} {marks text text' rest rest' : List Char}
    (other : quote ≠ '\\') (mark : quote ∉ marks) (bare : IsBareText quote marks quoted text)
    (bare' : IsBareText quote marks quoted' text') (behind : BeginsWith marks rest)
    (behind' : BeginsWith marks rest')
    (same : quotedText quote quoted text ++ rest = quotedText quote quoted' text' ++ rest') :
    quoted = quoted' ∧ text = text' ∧ rest = rest' := by
  cases quoted <;> cases quoted'
  · have free {text : List Char} (bare : IsBareText quote marks false text) :
        ∀ c ∈ text, c ∉ marks :=
      fun c member mark => bare rfl c member (List.mem_cons_of_mem _ mark)
    exact ⟨rfl, front_unique (free bare) (free bare') behind behind' same⟩
  · exact absurd same (bare_not_quote mark (bare rfl) behind)
  · exact absurd same.symm (bare_not_quote mark (bare' rfl) behind')
  · have inside : escapeQuote quote text ++ quote :: rest =
        escapeQuote quote text' ++ quote :: rest' := by
      simpa [quotedText] using same
    exact ⟨rfl, quoted_unique other inside⟩

/-! ## Literals -/

namespace Algolia

theorem needs_quotes_false_iff : needsQuotes text = false ↔
    text ≠ [] ∧ text ∉ [['A', 'N', 'D'], ['O', 'R'], ['N', 'O', 'T'], ['T', 'O']] ∧
      ∀ c ∈ text, isBlank c = false ∧ c ∉ [':', '"', '\'', '(', ')', '%'] := by
  simp [needsQuotes, List.isEmpty_eq_false_iff, and_assoc]

/-- The characters that stand behind an Algolia literal. -/
def literalEnds : List Char := [' ', ')']

theorem text_bare (text : List Char) : IsBareText '"' literalEnds (needsQuotes text) text := by
  intro quotes c member
  obtain ⟨blank, plain⟩ := (needs_quotes_false_iff.mp quotes).2.2 c member
  intro mark
  simp only [literalEnds, List.mem_cons, List.not_mem_nil, or_false] at mark
  rcases mark with rfl | rfl | rfl
  · simp at plain
  · cases blank
  · simp at plain

theorem number_without_quotes (number : Number) : needsQuotes number.chars = false := by
  refine needs_quotes_false_iff.mpr ⟨number.chars_ne_nil, ?_, number_chars_all number (by decide)⟩
  intro word
  have no_letter : ∀ c ∈ number.chars, c ∉ ['A', 'O', 'N', 'T'] :=
    number_chars_all number (by decide)
  simp only [List.mem_cons, List.not_mem_nil, or_false] at word
  rcases word with same | same | same | same <;> simp [same] at no_letter

/-- A string stands in quotes when its text asks for them, all other literals stand without. -/
theorem literal_written {value : Value} (field : String)
    (spelled : value.literalText? = some text) :
    Backend.algolia.literalChars field value = .ok (quotedText '"' (needsQuotes text) text) := by
  cases value with
  | string s =>
    cases spelled
    rfl
  | number n =>
    cases spelled
    rw [number_without_quotes]
    rfl
  | bool b => cases b <;> cases spelled <;> rfl
  | null | array | object => cases spelled

end Algolia

namespace Meilisearch

/-- The characters that stand behind a MeiliSearch literal. -/
def literalEnds : List Char := [' ', ')', ',', ']']

theorem text_bare {value : Value} (spelled : value.literalText? = some text) :
    IsBareText '\'' literalEnds value.string?.isSome text := by
  cases value with
  | string s => exact nofun
  | number n =>
    cases spelled
    exact fun _ => number_chars_all n (by decide)
  | bool b => cases b <;> cases spelled <;> simp [IsBareText, literalEnds]
  | null | array | object => cases spelled

/-- Strings stand in quotes, and all other literals without. -/
theorem literal_written {value : Value} (field : String)
    (spelled : value.literalText? = some text) :
    Backend.meilisearch.literalChars field value =
      .ok (quotedText '\'' value.string?.isSome text) := by
  cases value with
  | string s =>
    cases spelled
    rfl
  | number n =>
    cases spelled
    rfl
  | bool b => cases b <;> cases spelled <;> rfl
  | null | array | object => cases spelled

end Meilisearch

/-- Literals delimit themselves: in front of what stands behind literals, a literal and the text
behind it are read in one way, so that neither takes a part of the other. A MeiliSearch literal tells
besides whether it is a string. -/
theorem literals_delimited {value value' : Value} {text text' : List Char} (field field' : String)
    (spelled : value.literalText? = some text) (spelled' : value'.literalText? = some text') :
    (∃ chars chars', Backend.algolia.literalChars field value = .ok chars ∧
      Backend.algolia.literalChars field' value' = .ok chars' ∧
      ∀ rest rest', BeginsWith Algolia.literalEnds rest → BeginsWith Algolia.literalEnds rest' →
        (chars ++ rest = chars' ++ rest' ↔ text = text' ∧ rest = rest')) ∧
    ∃ chars chars', Backend.meilisearch.literalChars field value = .ok chars ∧
      Backend.meilisearch.literalChars field' value' = .ok chars' ∧
      ∀ rest rest', BeginsWith Meilisearch.literalEnds rest →
        BeginsWith Meilisearch.literalEnds rest' →
        (chars ++ rest = chars' ++ rest' ↔
          value.string?.isSome = value'.string?.isSome ∧ text = text' ∧ rest = rest') := by
  refine ⟨⟨_, _, Algolia.literal_written field spelled, Algolia.literal_written field' spelled', ?_⟩,
    _, _, Meilisearch.literal_written field spelled, Meilisearch.literal_written field' spelled', ?_⟩
  · intro rest rest' behind behind'
    constructor
    · intro same
      exact (quoted_text_unique (by decide) (by decide) (Algolia.text_bare text)
        (Algolia.text_bare text') behind behind' same).2
    · rintro ⟨rfl, rfl⟩
      rfl
  · intro rest rest' behind behind'
    constructor
    · exact quoted_text_unique (by decide) (by decide) (Meilisearch.text_bare spelled)
        (Meilisearch.text_bare spelled') behind behind'
    · rintro ⟨kinds, rfl, rfl⟩
      rw [kinds]
theorem literals_delimited_alternative :
    Backend.algolia.literalChars "tag" (.string "a' OR b") = .ok "\"a' OR b\"".toList ∧
    Backend.algolia.literalChars "tag" (.string "a") = .ok ['a'] ∧
    (∀ rest rest', BeginsWith Algolia.literalEnds rest → BeginsWith Algolia.literalEnds rest' →
      "\"a' OR b\"".toList ++ rest ≠ ['a'] ++ rest') ∧
    Backend.meilisearch.literalChars "tag" (.string "a' OR b") = .ok "'a\\' OR b'".toList ∧
    Backend.meilisearch.literalChars "tag" (.string "a") = .ok "'a'".toList ∧
    ∀ rest rest', BeginsWith Meilisearch.literalEnds rest →
      BeginsWith Meilisearch.literalEnds rest' →
        "'a\\' OR b'".toList ++ rest ≠ "'a'".toList ++ rest' := by
  have spelled : (Value.string "a' OR b").literalText? = some "a' OR b".toList := rfl
  have spelled' : (Value.string "a").literalText? = some "a".toList := rfl
  obtain ⟨⟨_, _, made, made', alike⟩, _, _, quoted, quoted', same⟩ :=
    literals_delimited "tag" "tag" spelled spelled'
  cases made
  cases made'
  cases quoted
  cases quoted'
  refine ⟨rfl, rfl, ?_, rfl, rfl, ?_⟩
  · intro rest rest' behind behind' joined
    cases ((alike rest rest' behind behind').mp joined).1
  · intro rest rest' behind behind' joined
    cases ((same rest rest' behind behind').mp joined).2.1

end SearchIndex
