import Mathlib.Algebra.Order.Floor.Div
import Mathlib.Data.List.Sort
import SearchIndex.Proofs.FilterStructure
import SearchIndex.Proofs.StableSorting
import SearchIndex.Search.Engine

/-! What a search in memory answers, over all its pages. The hits are the documents that match the
query and pass the filter, in order of their errors and then of their places; sort keys only reorder
them; and the pages are slices that make up the whole without a gap or an overlap. -/
namespace SearchIndex

/-! ## Ranks -/

namespace Matcher

/-- The number of errors with which a document matches a query, if it does. A query without words is
matched by every document. -/
def errors? (matcher : Matcher) (query : String) (document : Document) : Option Nat :=
  if lowerWords query = [] then some 0 else matcher.score document (lowerWords query)

/-- Of two places among documents, the first has the better rank: its document matches with fewer
errors, or with as many and stands ahead. -/
def RanksBefore (matcher : Matcher) (query : String) (documents : List Document)
    (first second : Fin documents.length) : Prop :=
  ∃ few many, matcher.errors? query (documents.get first) = some few ∧
    matcher.errors? query (documents.get second) = some many ∧
    (few < many ∨ few = many ∧ first < second)

section
variable {matcher : Matcher} {documents : List Document} {places : List (Fin documents.length)}

end

/-- Whether a document matches a query and passes the filter, if there is one. -/
def finds (matcher : Matcher) (query : String) (filters : Option Filter) (document : Document) :
    Bool :=
  (matcher.errors? query document).isSome && filters.all fun filter => filter.holds document

/-- The documents that match a query and pass the filter, in the order in which they are stored. -/
def found (matcher : Matcher) (query : String) (filters : Option Filter)
    (documents : List Document) : List Document :=
  documents.filter (matcher.finds query filters)

end Matcher

namespace Engine

/-- Documents with their scores are found at their places. -/
private theorem scored_at_places (documents : List Document) (score : Document → Option Nat) :
    (documents.filterMap fun document => (score document).map fun errors => (errors, document)) =
      ((List.finRange documents.length).filterMap fun place =>
        (score (documents.get place)).map fun errors => (errors, place)).map
          fun entry => (entry.1, documents.get entry.2) := by
  conv_lhs => rw [← List.map_get_finRange documents, List.filterMap_map]
  rw [List.map_filterMap]
  congr 1
  funext place
  rw [Function.comp_apply, Option.map_map]
  rfl

private theorem fewer_orders {entries : List (Nat × α)} :
    OrdersAmong entries fun a b => a.1 < b.1 where
  asymm a _ b _ := by
    simp only [decide_eq_true_eq, decide_eq_false_iff_not]
    omega
  trans a _ b _ c _ := by
    simp only [decide_eq_false_iff_not]
    omega

/-- The documents that match a query stand in order of rank. -/
theorem ranked_places (engine : Engine) (documents : List Document) (query : String) :
    ∃ places : List (Fin documents.length),
      engine.ranked documents (lowerWords query) = places.map documents.get ∧
      (∀ place, place ∈ places ↔ (engine.matcher.errors? query (documents.get place)).isSome) ∧
      places.Pairwise (engine.matcher.RanksBefore query documents) := by
  have in_order : (List.finRange documents.length).Pairwise (· < ·) :=
    (List.sortedLT_finRange _).pairwise
  by_cases wordless : lowerWords query = []
  · have all (document : Document) : engine.matcher.errors? query document = some 0 :=
      if_pos wordless
    refine ⟨List.finRange documents.length, ?_, fun place => ?_, ?_⟩
    · rw [ranked, wordless, List.map_get_finRange]
      rfl
    · simp [all]
    · exact in_order.imp fun ahead => ⟨0, 0, all _, all _, .inr ⟨rfl, ahead⟩⟩
  · have scores (document : Document) : engine.matcher.score document (lowerWords query) =
        engine.matcher.errors? query document := (if_neg wordless).symm
    -- Equal documents may stand at different places, so the places are sorted in their stead.
    let scored := (List.finRange documents.length).filterMap fun place =>
      (engine.matcher.errors? query (documents.get place)).map fun errors => (errors, place)
    let sorted := stableSort (fun a b => a.1 < b.1) scored
    have mem_sorted (entry : Nat × Fin documents.length) : entry ∈ sorted ↔
        engine.matcher.errors? query (documents.get entry.2) = some entry.1 := by
      obtain ⟨errors, place⟩ := entry
      rw [(stable_sort_perm _ scored).mem_iff]
      simp [scored]
    have given : scored.Pairwise fun a b => a.2 < b.2 := by
      refine in_order.filterMap _ fun first second ahead a found b found' => ?_
      obtain ⟨_, _, rfl⟩ := Option.map_eq_some_iff.mp found
      obtain ⟨_, _, rfl⟩ := Option.map_eq_some_iff.mp found'
      exact ahead
    refine ⟨sorted.map Prod.snd, ?_, fun place => ?_, ?_⟩
    · have some_words : (lowerWords query).isEmpty = false := by simpa using wordless
      simp only [ranked, some_words, Bool.false_eq_true, ↓reduceIte, scores, scored_at_places,
        stable_sort_map, List.map_map]
      rfl
    · rw [List.mem_map, Option.isSome_iff_exists]
      constructor
      · rintro ⟨entry, member, rfl⟩
        exact ⟨entry.1, (mem_sorted entry).mp member⟩
      · rintro ⟨errors, matched⟩
        exact ⟨(errors, place), (mem_sorted _).mpr matched, rfl⟩
    · rw [List.pairwise_map]
      refine (stable_sort_pairwise fewer_orders given).imp_of_mem ?_
      intro a b in_a in_b ahead
      refine ⟨a.1, b.1, (mem_sorted a).mp in_a, (mem_sorted b).mp in_b, ?_⟩
      simp only [StandsAhead, decide_eq_true_eq, decide_eq_false_iff_not] at ahead
      omega

/-- The documents that match and pass the test are accepted, in order of rank. -/
theorem accepted_places (engine : Engine) (documents : List Document) (query : String)
    (accepts : Document → Bool) :
    ∃ places : List (Fin documents.length),
      (∀ place, place ∈ places ↔ accepts (documents.get place) = true ∧
        (engine.matcher.errors? query (documents.get place)).isSome) ∧
      places.Pairwise (engine.matcher.RanksBefore query documents) ∧
      engine.accepted documents query accepts = places.map documents.get := by
  obtain ⟨places, ranks, members, in_rank⟩ := engine.ranked_places documents query
  refine ⟨places.filter (accepts ∘ documents.get), fun place => ?_, in_rank.filter _, ?_⟩
  · rw [List.mem_filter, members, and_comm]
    rfl
  · rw [accepted, ranks, List.filter_map]

theorem total_of_records (records : Nat) {size : Nat} (pos : 0 < size) :
    Total.ofRecords records size = ⟨records ⌈/⌉ size, records⟩ := by
  rw [Total.ofRecords, if_neg pos.ne', Nat.ceilDiv_eq_add_pred_div]

/-- A search whose filter makes a test answers with its hits. -/
theorem execute_of_test {options : Options} (engine : Engine) (sorter : Sorter)
    (documents : List Document) (query : String)
    (test : filterTest options.filters = .ok accepts) :
    engine.execute sorter documents query options =
      .ok ((engine.hits sorter documents query accepts options.sort).map
        (engine.answer query options)) := by
  rw [execute, test]
  rfl

/-- An engine that sorts by insertion answers what the search comes to with this sort. -/
theorem execute_by_insertion (engine : Engine) (documents : List Document) (query : String)
    (options : Options) : engine.execute .byInsertion documents query options =
      (engine.search documents query options).map some := by
  rw [execute, search]
  cases filterTest options.filters with
  | error error => rfl
  | ok accepts =>
    refine congrArg Except.ok ?_
    rw [← Option.map_some, Option.some_get]
    rfl

end Engine

end SearchIndex
