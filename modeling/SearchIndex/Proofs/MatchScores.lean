import Mathlib.Algebra.Order.BigOperators.Group.List
import Mathlib.Algebra.Order.Group.Nat
import Mathlib.Algebra.Order.Monoid.WithTop
import Mathlib.Data.List.Infix
import Mathlib.Data.List.MinMax
import Mathlib.Order.Lattice.Nat
import SearchIndex.Proofs.DistanceTable
import SearchIndex.Search.Matcher

/-! The score of a document for a query. Counted with infinity for a query word that matches nothing,
it is the sum of the least errors with which each query word matches a word of the document, so it
depends on which words there are and not on their order, falls with more text, and grows with more
query words. -/
namespace SearchIndex

/-- A number of errors, infinite where nothing matches. -/
def orInfinite : Option Nat → WithTop Nat
  | some errors => WithTop.some errors
  | none => ⊤

@[simp] theorem or_infinite_some (errors : Nat) : orInfinite (some errors) = WithTop.some errors := rfl

@[simp] theorem or_infinite_none : orInfinite none = ⊤ := rfl

theorem or_infinite_injective : Function.Injective orInfinite := by
  rintro (_ | a) (_ | b) same
  · rfl
  · exact absurd same.symm (WithTop.coe_ne_top)
  · exact absurd same WithTop.coe_ne_top
  · rw [WithTop.coe_inj.mp same]

theorem or_infinite_lesser (a b : Option Nat) :
    orInfinite (lesser a b) = min (orInfinite a) (orInfinite b) := by
  cases a with
  | none => exact (min_eq_right le_top).symm
  | some a =>
    cases b with
    | none => exact (min_eq_left le_top).symm
    | some b =>
      rw [or_infinite_some, or_infinite_some, ← WithTop.coe_min, min_comm, min_def_lt]
      rfl

/-- A word occurs in another as a part without gaps. -/
theorem occurs_in_iff {part word : List Char} : occursIn part word = true ↔ part <:+: word := by
  induction word with
  | nil => rw [occursIn, List.isEmpty_iff, List.infix_nil]
  | cons c word ih =>
    rw [occursIn, Bool.or_eq_true, List.isPrefixOf_iff_prefix, ih, List.infix_cons_iff]

/-- The fewest typing errors with which a query word stands for a word or, where that is longer, for
a beginning of it. -/
def fewestErrors (query word : List Char) : Nat :=
  if query.length < word.length then
    min (Distance.between query word) (Distance.between query (word.take query.length))
  else Distance.between query word

/-- Words without typing errors between them are the same. -/
theorem between_eq_zero {first second : List Char} (none : Distance.between first second = 0) :
    first = second := by
  have slips := (Distance.between_least first second).1
  rw [none] at slips
  cases slips
  rfl

/-- Without errors a query word stands for words in which it occurs. -/
theorem infix_of_fewest_errors {query word : List Char} (none : fewestErrors query word = 0) :
    query <:+: word := by
  have beginning (none : Distance.between query (word.take query.length) = 0) : query <:+: word := by
    have occurs := List.take_prefix query.length word
    rw [← between_eq_zero none] at occurs
    exact occurs.isInfix
  have whole (none : Distance.between query word = 0) : query <:+: word :=
    between_eq_zero none ▸ List.infix_rfl
  unfold fewestErrors at none
  split at none
  · rcases min_choice (Distance.between query word)
      (Distance.between query (word.take query.length)) with least | least
    · exact whole (least.symm.trans none)
    · exact beginning (least.symm.trans none)
  · exact whole none

namespace Matcher

/-! ## Words -/

/-- The number of errors of the best match of a query word with a word, if there is one: none where
it occurs, else the fewest that the budget covers. -/
def bestErrors (matcher : Matcher) (query word : List Char) : Option Nat :=
  if query <:+: word then some 0
  else if fewestErrors query word ≤ matcher.budget query.length then some (fewestErrors query word)
  else none

/-- A beginning of the word matches with one error, but two errors in the whole word are forgiven as
well and are told in its stead. -/
def Overlooks (matcher : Matcher) (query word : List Char) : Prop :=
  ¬ query <:+: word ∧ matcher.budget query.length = 2 ∧ Distance.between query word = 2 ∧
    query.length < word.length ∧ Distance.between query (word.take query.length) = 1

instance (matcher : Matcher) (query word : List Char) : Decidable (matcher.Overlooks query word) :=
  inferInstanceAs (Decidable (_ ∧ _))

theorem budget_le_two (matcher : Matcher) (length : Nat) : matcher.budget length ≤ 2 := by
  unfold budget
  split
  · exact le_rfl
  · split <;> omega

theorem best_errors_overlooked {matcher : Matcher} (overlooks : matcher.Overlooks query word) :
    matcher.bestErrors query word = some 1 := by
  obtain ⟨apart, budget, whole, longer, beginning⟩ := overlooks
  have fewest : fewestErrors query word = 1 := by rw [fewestErrors, if_pos longer, whole, beginning]; rfl
  rw [bestErrors, if_neg apart, fewest, budget]
  rfl

/-- A query word matches a word with the errors of the best match, unless a better beginning is
overlooked. -/
theorem word_errors_eq (matcher : Matcher) (query word : List Char) :
    matcher.wordErrors query word =
      if matcher.Overlooks query word then some 2 else matcher.bestErrors query word := by
  by_cases occurs : query <:+: word
  · have inside : occursIn query word = true := occurs_in_iff.mpr occurs
    have settled : ¬ matcher.Overlooks query word := fun overlooks => overlooks.1 occurs
    rw [if_neg settled, bestErrors, if_pos occurs, wordErrors, if_pos inside]
  · have apart : ¬ occursIn query word = true := fun inside => occurs (occurs_in_iff.mp inside)
    have some_errors : fewestErrors query word ≠ 0 := fun none =>
      occurs (infix_of_fewest_errors none)
    have limit := matcher.budget_le_two query.length
    rw [wordErrors, if_neg apart]
    simp only [bestErrors, Overlooks, occurs, ↓reduceIte, not_false_eq_true, true_and]
    by_cases longer : query.length < word.length
    · rw [fewestErrors, if_pos longer] at some_errors ⊢
      simp only [longer, true_and]
      split_ifs <;> first | rfl | omega | exact congrArg some (by omega)
    · rw [fewestErrors, if_neg longer] at some_errors ⊢
      simp only [longer, false_and, and_false, ↓reduceIte]
      split_ifs <;> first | rfl | omega

/-- A query word matches a word when it occurs there or the budget covers the fewest errors. -/
theorem word_errors_isSome_iff {matcher : Matcher} : (matcher.wordErrors query word).isSome ↔
    query <:+: word ∨ fewestErrors query word ≤ matcher.budget query.length := by
  have best : (matcher.bestErrors query word).isSome ↔
      query <:+: word ∨ fewestErrors query word ≤ matcher.budget query.length := by
    unfold bestErrors
    split_ifs <;> simp_all
  rw [word_errors_eq]
  split
  · rename_i overlooks
    rw [← best, best_errors_overlooked overlooks]
    rfl
  · exact best

/-- A match has no more errors than the budget of its query word. -/
theorem word_errors_le {matcher : Matcher} (matched : matcher.wordErrors query word = some errors) :
    errors ≤ matcher.budget query.length := by
  rw [word_errors_eq] at matched
  split at matched
  · rename_i overlooks
    cases matched
    exact overlooks.2.1.ge
  · unfold bestErrors at matched
    split at matched
    · cases matched
      exact Nat.zero_le _
    · split at matched
      · cases matched
        assumption
      · cases matched

/-! ## Sums -/

/-- The best match is the least of the numbers of errors in all matches. -/
theorem best_match_eq (matcher : Matcher) (found : List (List Char)) (query : List Char) :
    orInfinite (matcher.bestMatch found query) =
      (found.filterMap (matcher.wordErrors query)).minimum := by
  induction found using List.reverseRecOn with
  | nil => rfl
  | append_singleton found word ih =>
    have last : orInfinite (matcher.wordErrors query word) =
        ([word].filterMap (matcher.wordErrors query)).minimum := by
      cases matched : matcher.wordErrors query word <;> simp [matched]
    rw [bestMatch, List.foldl_append, List.filterMap_append, List.minimum_append, ← ih, ← last]
    exact or_infinite_lesser _ _

/-- The errors of query words are added up. -/
theorem total_errors_eq (matcher : Matcher) (found queries : List (List Char)) :
    orInfinite (matcher.totalErrors found queries) =
      (queries.map fun query => orInfinite (matcher.bestMatch found query)).sum := by
  induction queries with
  | nil => rfl
  | cons query queries ih =>
    rw [List.map_cons, List.sum_cons, ← ih, totalErrors]
    cases matcher.bestMatch found query with
    | none => exact (WithTop.top_add _).symm
    | some best =>
      cases matcher.totalErrors found queries with
      | none => exact (WithTop.add_top _).symm
      | some others => rfl

/-- The score of a document is the sum of the best matches of the query words with its words. -/
theorem score_eq (matcher : Matcher) (document : Document) (queries : List (List Char)) :
    orInfinite (matcher.score document queries) =
      if matcher.documentWords document = [] then ⊤
      else (queries.map fun query =>
        ((matcher.documentWords document).filterMap (matcher.wordErrors query)).minimum).sum := by
  rw [score]
  by_cases wordless : matcher.documentWords document = []
  · simp [wordless]
  · simp [wordless, total_errors_eq, best_match_eq]

theorem total_errors_some {matcher : Matcher} {found rest : List (List Char)} :
    matcher.totalErrors found (query :: rest) = some total ↔ ∃ best others,
      matcher.bestMatch found query = some best ∧ matcher.totalErrors found rest = some others ∧
        best + others = total := by
  simp [totalErrors, Option.bind_eq_some_iff]

/-- The best match of a query word is a match with one of the words. -/
theorem best_match_mem {matcher : Matcher} {found : List (List Char)}
    (best : matcher.bestMatch found query = some errors) :
    ∃ word ∈ found, matcher.wordErrors query word = some errors := by
  have least := matcher.best_match_eq found query
  rw [best] at least
  exact List.mem_filterMap.mp (List.minimum_mem least.symm)

/-- A query word has a best match when it matches some word. -/
theorem best_match_isSome_iff {matcher : Matcher} {found : List (List Char)} :
    (matcher.bestMatch found query).isSome ↔
      ∃ word ∈ found, (matcher.wordErrors query word).isSome := by
  constructor
  · intro matched
    obtain ⟨errors, best⟩ := Option.isSome_iff_exists.mp matched
    obtain ⟨word, member, match_word⟩ := best_match_mem best
    exact ⟨word, member, Option.isSome_of_eq_some match_word⟩
  · rintro ⟨word, member, matched⟩
    obtain ⟨errors, match_word⟩ := Option.isSome_iff_exists.mp matched
    have counted := List.mem_filterMap.mpr ⟨word, member, match_word⟩
    have least := matcher.best_match_eq found query
    cases best : matcher.bestMatch found query with
    | some _ => rfl
    | none =>
      rw [best] at least
      rw [List.minimum_eq_top.mp least.symm] at counted
      cases counted

/-- A document matches when it has words and each query word matches one of them. -/
theorem score_isSome_iff {matcher : Matcher} {document : Document} {queries : List (List Char)} :
    (matcher.score document queries).isSome ↔ matcher.documentWords document ≠ [] ∧
      ∀ query ∈ queries, ∃ word ∈ matcher.documentWords document,
        (matcher.wordErrors query word).isSome := by
  have total : (matcher.totalErrors (matcher.documentWords document) queries).isSome ↔
      ∀ query ∈ queries, ∃ word ∈ matcher.documentWords document,
        (matcher.wordErrors query word).isSome := by
    induction queries with
    | nil => simp [totalErrors]
    | cons query queries ih =>
      rw [List.forall_mem_cons, ← ih, ← best_match_isSome_iff]
      simp only [Option.isSome_iff_exists, total_errors_some]
      constructor
      · rintro ⟨_, best, others, first, second, -⟩
        exact ⟨⟨best, first⟩, others, second⟩
      · rintro ⟨⟨best, first⟩, others, second⟩
        exact ⟨_, best, others, first, second, rfl⟩
  by_cases wordless : matcher.documentWords document = []
  · simp [score, wordless]
  · simp only [score, List.isEmpty_iff, wordless, ↓reduceIte, total, ne_eq, not_false_eq_true,
      true_and]

/-! ## More text and more query words -/

/-- A document with more words matches with no more errors. -/
theorem score_anti {matcher : Matcher} {document other : Document}
    (more : matcher.documentWords document ⊆ matcher.documentWords other)
    (queries : List (List Char)) :
    orInfinite (matcher.score other queries) ≤ orInfinite (matcher.score document queries) := by
  rw [score_eq, score_eq]
  by_cases wordless : matcher.documentWords document = []
  · rw [if_pos wordless]
    exact le_top
  · have inhabited : matcher.documentWords other ≠ [] := by
      intro none
      rw [none] at more
      exact wordless (List.subset_nil.mp more)
    rw [if_neg wordless, if_neg inhabited]
    refine List.sum_le_sum fun query _ => List.minimum_anti (List.filterMap_subset _ more)

theorem score_perm {matcher : Matcher} {document : Document} {queries others : List (List Char)}
    (rearranged : queries.Perm others) :
    matcher.score document queries = matcher.score document others := by
  apply or_infinite_injective
  rw [score_eq, score_eq, (rearranged.map _).sum_eq]

/-- More query words match with no fewer errors. -/
theorem score_mono {matcher : Matcher} {document : Document} {queries others : List (List Char)}
    (more : queries.Sublist others) :
    orInfinite (matcher.score document queries) ≤ orInfinite (matcher.score document others) := by
  rw [score_eq, score_eq]
  split
  · exact le_rfl
  · exact (more.map _).sum_le_sum fun _ _ => zero_le

/-! ## Budgets -/

theorem budget_mono {matcher lower : Matcher} (one : lower.oneTypoLength ≤ matcher.oneTypoLength)
    (two : lower.twoTyposLength ≤ matcher.twoTyposLength) (length : Nat) :
    matcher.budget length ≤ lower.budget length := by
  unfold budget
  split_ifs <;> omega

/-- A document that matches has no more errors than the budgets of the query words together. -/
theorem score_le_budgets {matcher : Matcher} {document : Document} {queries : List (List Char)}
    (matched : matcher.score document queries = some total) :
    total ≤ (queries.map fun query => matcher.budget query.length).sum := by
  rw [score] at matched
  split at matched
  · cases matched
  · induction queries generalizing total with
    | nil =>
      cases matched
      exact le_rfl
    | cons query queries ih =>
      obtain ⟨best, others, first, second, rfl⟩ := total_errors_some.mp matched
      obtain ⟨word, -, match_word⟩ := best_match_mem first
      exact Nat.add_le_add (word_errors_le match_word) (ih second)

/-- A matcher that forgives errors in shorter words matches all that it matched. -/
theorem score_isSome_of_lower {matcher lower : Matcher} {document : Document}
    {queries : List (List Char)} (keys : lower.keys = matcher.keys)
    (one : lower.oneTypoLength ≤ matcher.oneTypoLength)
    (two : lower.twoTyposLength ≤ matcher.twoTyposLength)
    (matched : (matcher.score document queries).isSome) :
    (lower.score document queries).isSome := by
  have words : lower.documentWords document = matcher.documentWords document := by
    simp only [documentWords, keys]
  rw [score_isSome_iff] at matched ⊢
  rw [words]
  refine ⟨matched.1, fun query member => ?_⟩
  obtain ⟨word, found, match_word⟩ := matched.2 query member
  refine ⟨word, found, word_errors_isSome_iff.mpr ?_⟩
  exact (word_errors_isSome_iff.mp match_word).imp_right
    fun few => few.trans (budget_mono one two query.length)

/-! ## Main statements -/

/-- The errors of the best matches of query words with the words of a document, infinite where a
query word matches none. -/
def bestScore (matcher : Matcher) (document : Document) (queries : List (List Char)) : WithTop Nat :=
  if matcher.documentWords document = [] then ⊤
  else (queries.map fun query =>
    ((matcher.documentWords document).filterMap (matcher.bestErrors query)).minimum).sum

/-- With the least number of slips as distance, a query word matches a word with the errors of the
best match, and a document with those of the best matches of all query words, unless a beginning with
one error is overlooked for two errors in the whole word. Which documents match does not depend on
it. -/
theorem errors_of_best_match (matcher : Matcher) :
    (∀ first second, IsLeast {count | Distance.Slips count first second}
      (Distance.between first second)) ∧
    (∀ query word, ¬ matcher.Overlooks query word →
      matcher.wordErrors query word = matcher.bestErrors query word) ∧
    (∀ query word, matcher.Overlooks query word →
      matcher.wordErrors query word = some 2 ∧ matcher.bestErrors query word = some 1) ∧
    (∀ document queries, (∀ query ∈ queries, ∀ word ∈ matcher.documentWords document,
        ¬ matcher.Overlooks query word) →
      orInfinite (matcher.score document queries) = matcher.bestScore document queries) ∧
    ∀ document queries, (matcher.score document queries).isSome ↔
      matcher.documentWords document ≠ [] ∧ ∀ query ∈ queries,
        ∃ word ∈ matcher.documentWords document, (matcher.bestErrors query word).isSome := by
  have settled (query word : List Char) (sees : ¬ matcher.Overlooks query word) :
      matcher.wordErrors query word = matcher.bestErrors query word := by
    rw [word_errors_eq, if_neg sees]
  have overlooked (query word : List Char) (overlooks : matcher.Overlooks query word) :
      matcher.wordErrors query word = some 2 ∧ matcher.bestErrors query word = some 1 :=
    ⟨by rw [word_errors_eq, if_pos overlooks], best_errors_overlooked overlooks⟩
  refine ⟨Distance.between_least, settled, overlooked, fun document queries sees => ?_,
    fun document queries => ?_⟩
  · have alike : ∀ query ∈ queries,
        (matcher.documentWords document).filterMap (matcher.wordErrors query) =
          (matcher.documentWords document).filterMap (matcher.bestErrors query) :=
      fun query member => List.filterMap_congr fun word found =>
        settled query word (sees query member word found)
    rw [score_eq, bestScore]
    congr 2
    exact List.map_congr_left fun query member => by rw [alike query member]
  · have alike (query word : List Char) : (matcher.wordErrors query word).isSome ↔
        (matcher.bestErrors query word).isSome := by
      by_cases overlooks : matcher.Overlooks query word
      · obtain ⟨two, one⟩ := overlooked query word overlooks
        rw [two, one]
        exact Iff.rfl
      · rw [settled query word overlooks]
    simp only [score_isSome_iff, alike]

/-- A keyboard with a letter left out. -/
private def misspelt : Document := .ofId "a" [("title", .string "Keybord")]

/-- A keyboard with a letter left out, and a mouse. -/
private def misspeltSet : Document := .ofId "b" [("title", .string "Mouse, keybord")]

/-- Titles are searched, with one error forgiven from four characters and two from eight. -/
private def titles : Matcher := ⟨["title"], 4, 8⟩

theorem errors_of_best_match_keyboard :
    (¬ titles.Overlooks "keyboard".toList "keybaord".toList ∧
      titles.wordErrors "keyboard".toList "keybaord".toList =
        titles.bestErrors "keyboard".toList "keybaord".toList) ∧
    (titles.Overlooks "keyboard".toList "keybaords".toList ∧
      titles.wordErrors "keyboard".toList "keybaords".toList = some 2 ∧
        titles.bestErrors "keyboard".toList "keybaords".toList = some 1) ∧
    (∀ query ∈ ["keyboard".toList], ∀ word ∈ titles.documentWords misspelt,
        ¬ titles.Overlooks query word) ∧
      orInfinite (titles.score misspelt ["keyboard".toList]) =
        titles.bestScore misspelt ["keyboard".toList] := by
  obtain ⟨-, settled, overlooked, scores, -⟩ := errors_of_best_match titles
  have sees : ¬ titles.Overlooks "keyboard".toList "keybaord".toList := by decide
  have overlooks : titles.Overlooks "keyboard".toList "keybaords".toList := by decide
  have sees_all : ∀ query ∈ ["keyboard".toList], ∀ word ∈ titles.documentWords misspelt,
      ¬ titles.Overlooks query word := by decide
  exact ⟨⟨sees, settled _ _ sees⟩, ⟨overlooks, overlooked _ _ overlooks⟩, sees_all,
    scores _ _ sees_all⟩

/-- Two letters changed places in the beginning and one was added behind it: the two errors in the
whole word are told, although one error matches its beginning. -/
theorem beginning_overlooked :
    (⟨[], 4, 8⟩ : Matcher).wordErrors "keyboard".toList "keybaords".toList = some 2 ∧
      (⟨[], 4, 8⟩ : Matcher).bestErrors "keyboard".toList "keybaords".toList = some 1 := by
  decide

/-- The errors of a document fall with more words in it and grow with more query words, whose order
does not matter; forgiving errors in shorter words loses no match; and no document has more errors
than are forgiven. -/
theorem score_monotone (matcher : Matcher) (queries : List (List Char)) :
    (∀ document other, matcher.documentWords document ⊆ matcher.documentWords other →
      orInfinite (matcher.score other queries) ≤ orInfinite (matcher.score document queries)) ∧
    (∀ document more, queries.Subperm more →
      orInfinite (matcher.score document queries) ≤ orInfinite (matcher.score document more) ∧
        (matcher.score document queries = none → matcher.score document more = none)) ∧
    (∀ document others, queries.Perm others →
      matcher.score document queries = matcher.score document others) ∧
    (∀ document (lower : Matcher), lower.keys = matcher.keys →
      lower.oneTypoLength ≤ matcher.oneTypoLength →
      lower.twoTyposLength ≤ matcher.twoTyposLength →
      (matcher.score document queries).isSome → (lower.score document queries).isSome) ∧
    ∀ document total, matcher.score document queries = some total →
      total ≤ (queries.map fun query => matcher.budget query.length).sum := by
  refine ⟨fun _ _ more => score_anti more queries, fun document more added => ?_,
    fun _ _ => score_perm, fun _ _ => score_isSome_of_lower, fun _ _ => score_le_budgets⟩
  obtain ⟨some_words, rearranged, among⟩ := added
  have grows : orInfinite (matcher.score document some_words) ≤
      orInfinite (matcher.score document more) := score_mono among
  rw [score_perm rearranged] at grows
  refine ⟨grows, fun none => ?_⟩
  rw [none] at grows
  exact or_infinite_injective (top_le_iff.mp grows)

theorem score_monotone_keyboards :
    (titles.documentWords misspelt ⊆ titles.documentWords misspeltSet ∧
      orInfinite (titles.score misspeltSet ["keyboard".toList]) ≤
        orInfinite (titles.score misspelt ["keyboard".toList])) ∧
    (["keyboard".toList].Subperm ["mouse".toList, "keyboard".toList] ∧
      orInfinite (titles.score misspeltSet ["keyboard".toList]) ≤
        orInfinite (titles.score misspeltSet ["mouse".toList, "keyboard".toList])) ∧
    (titles.score misspelt ["keyboard".toList, "mouse".toList] = none ∧
      ["keyboard".toList, "mouse".toList].Perm ["mouse".toList, "keyboard".toList] ∧
        titles.score misspelt ["mouse".toList, "keyboard".toList] = none) ∧
    ((titles.score misspelt ["keyboard".toList]).isSome ∧
      ((⟨["title"], 2, 3⟩ : Matcher).score misspelt ["keyboard".toList]).isSome) ∧
    titles.score misspelt ["keyboard".toList] = some 1 ∧
      1 ≤ (["keyboard".toList].map fun query => titles.budget query.length).sum := by
  obtain ⟨more_text, more_query, -, lower, bounded⟩ := titles.score_monotone ["keyboard".toList]
  obtain ⟨-, -, reordered, -, -⟩ := titles.score_monotone ["keyboard".toList, "mouse".toList]
  have inside : titles.documentWords misspelt ⊆ titles.documentWords misspeltSet := by decide
  have added : ["keyboard".toList].Subperm ["mouse".toList, "keyboard".toList] := by decide
  have swapped : ["keyboard".toList, "mouse".toList].Perm ["mouse".toList, "keyboard".toList] := by
    decide
  have unmatched : titles.score misspelt ["keyboard".toList, "mouse".toList] = none := by decide
  have matched : titles.score misspelt ["keyboard".toList] = some 1 := by decide
  have found : (titles.score misspelt ["keyboard".toList]).isSome := by rw [matched]; rfl
  exact ⟨⟨inside, more_text _ _ inside⟩, ⟨added, (more_query _ _ added).1⟩,
    ⟨unmatched, swapped, reordered _ _ swapped ▸ unmatched⟩,
    ⟨found, lower _ ⟨["title"], 2, 3⟩ rfl (by decide) (by decide) found⟩, matched,
    bounded _ _ matched⟩

end Matcher

end SearchIndex
