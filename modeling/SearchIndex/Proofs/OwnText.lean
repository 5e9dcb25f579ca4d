import SearchIndex.Proofs.MatchScores
import SearchIndex.Proofs.NumberText
import SearchIndex.Proofs.SearchPages

/-! Documents found by their own texts. The words of a query are cut out of its text at characters
that stand in no word, while a number is searched as one word; as each piece of a text occurs in the
text, a document matches every string and every number in its searched fields without errors, and
documents that match without errors stand before all others. -/
namespace SearchIndex

/-! ## Matches without errors -/

namespace Matcher

theorem word_errors_zero_iff {matcher : Matcher} :
    matcher.wordErrors query word = some 0 ↔ query <:+: word := by
  constructor
  · intro matched
    by_contra apart
    rw [word_errors_eq, bestErrors, if_neg apart] at matched
    split at matched
    · cases matched
    · split at matched
      · exact apart (infix_of_fewest_errors (Option.some.inj matched))
      · cases matched
  · intro occurs
    rw [wordErrors, if_pos (occurs_in_iff.mpr occurs)]

theorem best_match_zero_iff (matcher : Matcher) {found : List (List Char)} :
    matcher.bestMatch found query = some 0 ↔ ∃ word ∈ found, query <:+: word := by
  constructor
  · intro best
    obtain ⟨word, member, matched⟩ := best_match_mem best
    exact ⟨word, member, word_errors_zero_iff.mp matched⟩
  · rintro ⟨word, member, occurs⟩
    apply or_infinite_injective
    rw [best_match_eq, or_infinite_some]
    refine List.minimum_eq_coe_iff.mpr ⟨?_, fun _ _ => Nat.zero_le _⟩
    exact List.mem_filterMap.mpr ⟨word, member, word_errors_zero_iff.mpr occurs⟩

theorem total_errors_zero_iff (matcher : Matcher) {found queries : List (List Char)} :
    matcher.totalErrors found queries = some 0 ↔
      ∀ query ∈ queries, ∃ word ∈ found, query <:+: word := by
  induction queries with
  | nil => simp [totalErrors]
  | cons query queries ih =>
    rw [List.forall_mem_cons, ← ih, ← matcher.best_match_zero_iff, total_errors_some]
    constructor
    · rintro ⟨best, others, first, second, none⟩
      obtain ⟨rfl, rfl⟩ := Nat.add_eq_zero_iff.mp none
      exact ⟨first, second⟩
    · rintro ⟨first, second⟩
      exact ⟨0, 0, first, second, rfl⟩

/-- A document matches without errors when each query word occurs in one of its words. -/
theorem score_zero_iff {matcher : Matcher} {document : Document} {queries : List (List Char)} :
    matcher.score document queries = some 0 ↔ matcher.documentWords document ≠ [] ∧
      ∀ query ∈ queries, ∃ word ∈ matcher.documentWords document, query <:+: word := by
  rw [score, ← matcher.total_errors_zero_iff]
  by_cases wordless : matcher.documentWords document = [] <;> simp [wordless]

end Matcher

/-! ## Words of texts -/

/-- The pieces into which a text is cut occur in it, the first at its beginning. -/
theorem pieces_infix (stops : α → Bool) (text : List α) : ∃ first rest,
    text.splitOnP stops = first :: rest ∧ first <+: text ∧ ∀ piece ∈ rest, piece <:+: text := by
  induction text with
  | nil => exact ⟨[], [], List.splitOnP_nil .., List.nil_prefix, nofun⟩
  | cons c text ih =>
    obtain ⟨first, rest, cut, starts, inside⟩ := ih
    have later : ∀ piece ∈ rest, piece <:+: c :: text :=
      fun piece member => (inside piece member).trans (List.suffix_cons c text).isInfix
    rw [List.splitOnP_cons_eq_if_modifyHead, cut]
    split
    · refine ⟨[], first :: rest, rfl, List.nil_prefix, List.forall_mem_cons.mpr ⟨?_, later⟩⟩
      exact starts.isInfix.trans (List.suffix_cons c text).isInfix
    · exact ⟨c :: first, rest, rfl, List.cons_prefix_cons.mpr ⟨rfl, starts⟩, later⟩

theorem infix_of_mem_words (member : word ∈ words text) : word <:+: text := by
  obtain ⟨first, rest, cut, starts, inside⟩ := pieces_infix (fun c => !isWordChar c) text
  have piece := (List.mem_filter.mp member).1
  rw [cut] at piece
  rcases List.mem_cons.mp piece with rfl | later
  · exact starts.isInfix
  · exact inside word later

/-- A text whose characters have no other lower case is its own lower case. -/
theorem lower_from_eq (before : List Char) {text : List Char}
    (lower : ∀ c ∈ text, c ≠ '\u03A3' ∧ lowerChar c = [c]) : lowerFrom before text = text := by
  induction text generalizing before with
  | nil => rfl
  | cons c text ih =>
    obtain ⟨⟨no_sigma, same⟩, later⟩ := List.forall_mem_cons.mp lower
    rw [lowerFrom, if_neg no_sigma, same, ih _ later, List.singleton_append]

theorem lower_number_chars (number : Number) : lowerChars number.chars = number.chars :=
  lower_from_eq [] (number_chars_all number (by decide))

namespace Value

/-- The text by which a value is searched: that of a string, or what is printed of a number. -/
def searchedText? : Value → Option String
  | .string text => some text
  | .number n => some (String.ofList n.chars)
  | .null | .bool _ | .array _ | .object _ => none

/-- A value is another one or stands in a list that is, at any depth. -/
inductive Occurs (leaf : Value) : Value → Prop where
  | here : Occurs leaf leaf
  | item (member : item ∈ items) (inside : Occurs leaf item) : Occurs leaf (.array items)

theorem items_words_eq (items : List Value) : itemsWords items = items.flatMap words := by
  induction items with
  | nil => rfl
  | cons item rest ih => rw [itemsWords, ih, List.flatMap_cons]

/-- A value offers the words of all values that occur in it. -/
theorem words_of_occurs {leaf value : Value} (occurs : leaf.Occurs value) :
    leaf.words ⊆ value.words := by
  induction occurs with
  | here => exact List.Subset.refl _
  | item member inside ih =>
    rw [words, items_words_eq]
    exact fun word offered => List.mem_flatMap.mpr ⟨_, member, ih offered⟩

/-- Each word of the text of a value occurs in a word that the value offers. -/
theorem own_words {leaf : Value} (text : leaf.searchedText? = some query) :
    ∀ word ∈ lowerWords query, ∃ offered ∈ leaf.words, word <:+: offered := by
  intro word member
  cases leaf with
  | string own =>
    cases text
    exact ⟨word, member, List.infix_rfl⟩
  | number n =>
    cases text
    rw [lowerWords, String.toList_ofList, lower_number_chars] at member
    exact ⟨n.chars, List.mem_singleton.mpr rfl, infix_of_mem_words member⟩
  | null | bool | array | object => cases text

end Value

namespace Matcher

/-- A value is searched when it stands under a key, or under any field where no keys are given. -/
def Searches (matcher : Matcher) (document : Document) (value : Value) : Prop :=
  ∃ field, document.get? field = some value ∧ (matcher.keys = [] ∨ field ∈ matcher.keys)

theorem words_of_searches {matcher : Matcher} {document : Document} {value : Value}
    (searches : matcher.Searches document value) :
    value.words ⊆ matcher.documentWords document := by
  obtain ⟨field, held, configured⟩ := searches
  intro word offered
  rw [documentWords]
  split
  · have entry : (field, value) ∈ document.fields := by
      refine Fields.get_some_mem ?_
      rw [Document.get?] at held
      split at held
      · cases held
      · exact held
    exact List.mem_flatMap.mpr ⟨(field, value), entry, offered⟩
  · rename_i keyed
    have key := configured.resolve_left fun none => keyed (List.isEmpty_iff.mpr none)
    refine List.mem_flatMap.mpr ⟨field, key, ?_⟩
    rw [held]
    exact offered

/-- A document matches each text in its searched fields without errors. -/
theorem score_own_text {matcher : Matcher} {document : Document} {value leaf : Value}
    (searches : matcher.Searches document value) (occurs : leaf.Occurs value)
    (text : leaf.searchedText? = some query) (some_words : lowerWords query ≠ []) :
    matcher.score document (lowerWords query) = some 0 := by
  have inside : ∀ word ∈ lowerWords query, ∃ other ∈ matcher.documentWords document,
      word <:+: other := by
    intro word member
    obtain ⟨offered, own, part⟩ := Value.own_words text word member
    exact ⟨offered, words_of_searches searches (Value.words_of_occurs occurs own), part⟩
  refine score_zero_iff.mpr ⟨?_, inside⟩
  obtain ⟨word, rest, begins⟩ := List.exists_cons_of_ne_nil some_words
  obtain ⟨other, member, -⟩ := inside word (begins ▸ List.mem_cons_self)
  exact List.ne_nil_of_mem member

end Matcher

/-! ## Hits without errors -/

namespace Engine

/-- The hits of a search without a filter and without sort keys. -/
theorem plain_hits (engine : Engine) (documents : List Document) (query : String) :
    ∃ hits : List Document, (∀ (sorter : Sorter) (options : Options), options.filters = none →
      options.sort = [] → engine.execute sorter documents query options =
        .ok (some (engine.answer query options hits))) ∧
      (∀ document ∈ documents, (engine.matcher.errors? query document).isSome → document ∈ hits) ∧
      hits.Pairwise fun first second => ∃ few many, engine.matcher.errors? query first = some few ∧
        engine.matcher.errors? query second = some many ∧ few ≤ many := by
  obtain ⟨places, members, in_rank, accepted_eq⟩ :=
    engine.accepted_places documents query fun _ => true
  refine ⟨places.map documents.get, fun sorter options unfiltered unsorted => ?_,
    fun document member matched => ?_, ?_⟩
  · have test : filterTest options.filters = .ok fun _ => true := by rw [unfiltered]; rfl
    rw [execute_of_test engine sorter documents query test, Engine.hits, accepted_eq, unsorted]
    rfl
  · obtain ⟨place, rfl⟩ := List.get_of_mem member
    exact List.mem_map.mpr ⟨place, (members place).mpr ⟨rfl, matched⟩, rfl⟩
  · rw [List.pairwise_map]
    refine in_rank.imp ?_
    rintro first second ⟨few, many, matched, matched', ahead⟩
    exact ⟨few, many, matched, matched', by omega⟩

end Engine

/-- Every document is found by its own texts. For each string and each number in its searched fields,
in lists of any depth as well, it matches the words of that text without errors; so a search for the
text, without a filter and without sort keys, never stops and has it among its hits, and only
documents that match without errors as well stand before it. -/
theorem found_by_own_text {matcher : Matcher} {document : Document} {value leaf : Value}
    (searches : matcher.Searches document value) (occurs : leaf.Occurs value)
    (text : leaf.searchedText? = some query) (some_words : lowerWords query ≠ []) :
    matcher.score document (lowerWords query) = some 0 ∧
    ∀ engine : Engine, engine.matcher = matcher → ∀ documents, document ∈ documents →
      ∃ hits : List Document, (∀ (sorter : Sorter) (options : Options), options.filters = none →
        options.sort = [] → engine.execute sorter documents query options =
          .ok (some (engine.answer query options hits))) ∧
        document ∈ hits ∧ ∀ before behind, hits = before ++ document :: behind →
          ∀ hit ∈ before, matcher.score hit (lowerWords query) = some 0 := by
  have own := Matcher.score_own_text searches occurs text some_words
  refine ⟨own, ?_⟩
  rintro engine rfl documents member
  have errors (other : Document) : engine.matcher.errors? query other =
      engine.matcher.score other (lowerWords query) := if_neg some_words
  obtain ⟨hits, answers, matching, in_order⟩ := engine.plain_hits documents query
  refine ⟨hits, answers, ?_, ?_⟩
  · exact matching document member (by rw [errors, own]; rfl)
  · rintro before behind rfl hit ahead
    obtain ⟨few, many, matched, matched', le⟩ :=
      (List.pairwise_append.mp in_order).2.2 hit ahead document List.mem_cons_self
    rw [errors] at matched
    rw [errors, own] at matched'
    cases matched'
    rw [matched, Nat.le_zero.mp le]

private def code : Value := .ofInt (-15)

/-- The code in a list in a list. -/
private def codes : Value := .array [.null, .array [code]]

/-- Two parcels, of which the first has another code. -/
private def parcels : List Document :=
  [.ofId "a" [("codes", .string "25")], .ofId "b" [("codes", codes)]]

/-- A matcher that forgives one error in a word of two characters. -/
private def byCodes : Matcher := ⟨["codes"], 2, 8⟩

theorem found_by_own_text_parcels :
    byCodes.Searches parcels[1] codes ∧ code.Occurs codes ∧ code.searchedText? = some "-15" ∧
      lowerWords "-15" = [['1', '5']] ∧ byCodes.score parcels[1] (lowerWords "-15") = some 0 ∧
      ∃ hits, (∀ sorter, (Engine.ofPageSize byCodes 10).execute sorter parcels "-15"
          ⟨0, [], [], none⟩ =
            .ok (some ((Engine.ofPageSize byCodes 10).answer "-15" ⟨0, [], [], none⟩ hits))) ∧
        parcels[1] ∈ hits ∧
        ∀ before behind, hits = before ++ parcels[1] :: behind → parcels[0] ∉ before := by
  have searches : byCodes.Searches parcels[1] codes := ⟨"codes", rfl, .inr List.mem_cons_self⟩
  have inner : code.Occurs (.array [code]) := .item List.mem_cons_self .here
  have occurs : code.Occurs codes := .item (List.mem_cons_of_mem _ List.mem_cons_self) inner
  have text : code.searchedText? = some "-15" := rfl
  have split : lowerWords "-15" = [['1', '5']] := rfl
  obtain ⟨own, ranks⟩ := found_by_own_text searches occurs text (by simp [split])
  obtain ⟨hits, answers, present, first⟩ :=
    ranks (.ofPageSize byCodes 10) rfl parcels (List.mem_cons_of_mem _ List.mem_cons_self)
  refine ⟨searches, occurs, text, split, own, hits, fun sorter => answers sorter _ rfl rfl,
    present, ?_⟩
  intro before behind found ahead
  have misspelt : byCodes.score parcels[0] (lowerWords "-15") = some 1 := rfl
  rw [first before behind found _ ahead] at misspelt
  cases misspelt

end SearchIndex
