import SearchIndex.Index
import SearchIndex.Proofs.SearchPages
import SearchIndex.Proofs.TestTree

/-! Filters that amount to a constant whatever their tests say. All services find the same
constants, which are those that boolean identities find. A search in memory with such a filter
answers nothing or goes on as if there were no filter, and so a service need not be asked about
nothing. -/
namespace SearchIndex

/-! ## Boolean identities -/

/-- A filter folds to a constant by boolean identities: negation turns a constant around, a
condition that is not the constant of an empty combination decides, and conditions that are this
constant drop out. Nothing is known of a test. -/
inductive Filter.FoldsTo : Filter → Bool → Prop where
  | not (inside : FoldsTo condition value) : FoldsTo (.not condition) (!value)
  | decided (member : condition ∈ conditions)
      (inside : FoldsTo condition (!Combinator.join combinator [])) :
      FoldsTo (.group combinator conditions) (!Combinator.join combinator [])
  | dropped (each : ∀ condition ∈ conditions, FoldsTo condition (Combinator.join combinator [])) :
      FoldsTo (.group combinator conditions) (Combinator.join combinator [])

namespace Filter

theorem not_folds_iff : (Filter.not condition).FoldsTo value ↔ condition.FoldsTo (!value) := by
  constructor
  · intro folds
    cases folds with
    | not inside => rwa [Bool.not_not]
  · intro inside
    simpa using FoldsTo.not inside

theorem group_folds_iff :
    (Filter.group combinator conditions).FoldsTo value ↔
      (value = !combinator.join [] ∧ ∃ condition ∈ conditions, condition.FoldsTo value) ∨
        (value = combinator.join [] ∧ ∀ condition ∈ conditions, condition.FoldsTo value) := by
  constructor
  · intro folds
    cases folds with
    | decided member inside => exact .inl ⟨rfl, _, member, inside⟩
    | dropped each => exact .inr ⟨rfl, each⟩
  · rintro (⟨rfl, _, member, inside⟩ | ⟨rfl, each⟩)
    · exact .decided member inside
    · exact .dropped each

/-- A filter that folds to a constant has this truth value for every document. -/
theorem holds_of_folds {filter : Filter} (folds : filter.FoldsTo value) (document : Document) :
    filter.holds document = value := by
  induction folds with
  | not _ ih => rw [holds, ih]
  | @decided condition conditions combinator member _ ih =>
    have inside := List.mem_map_of_mem (f := fun condition => condition.holds document) member
    rw [ih] at inside
    rw [group_holds]
    cases combinator with
    | and => exact List.all_eq_false.mpr ⟨false, inside, by simp⟩
    | or => exact List.any_eq_true.mpr ⟨true, inside, rfl⟩
  | @dropped conditions combinator _ ih =>
    rw [group_holds]
    cases combinator with
    | and => simpa [Combinator.join] using ih
    | or => simpa [Combinator.join] using ih

end Filter

/-! ## Constants of compiled filters -/

theorem Combinator.constant_some_iff {combinator : Combinator} {parts : List (Option Bool)} :
    combinator.constant? parts = some value ↔
      (value = !combinator.join [] ∧ some value ∈ parts) ∨
        (value = combinator.join [] ∧ ∀ part ∈ parts, part = some value) := by
  unfold constant?
  generalize combinator.join [] = empty
  split
  · rename_i decided
    constructor
    · rintro ⟨⟩
      exact .inl ⟨rfl, decided⟩
    · rintro (⟨rfl, _⟩ | ⟨rfl, each⟩)
      · rfl
      · exact absurd (each _ decided) (by simp)
  · rename_i undecided
    split
    · rename_i unknown
      refine ⟨nofun, ?_⟩
      rintro (⟨rfl, decided⟩ | ⟨rfl, each⟩)
      · exact absurd decided undecided
      · exact absurd (each _ unknown) nofun
    · rename_i known
      constructor
      · rintro ⟨⟩
        refine .inr ⟨rfl, fun part member => ?_⟩
        cases part with
        | none => exact absurd member known
        | some found =>
          have same : found = value := by
            by_contra other
            exact undecided (Bool.eq_not.mpr other ▸ member)
          rw [same]
      · rintro (⟨rfl, decided⟩ | ⟨rfl, _⟩)
        · exact absurd decided undecided
        · rfl

/-- The normal form of a filter is a constant exactly where boolean identities find this constant.
-/
theorem spread_constant_iff {filter : Filter} :
    (filter.spread negated).folded.constant? = some value ↔ filter.FoldsTo (negated ^^ value) := by
  induction filter generalizing negated value with
  | compare | between => exact ⟨nofun, nofun⟩
  | oneOf field values =>
    rw [Filter.spread_one_of_folded]
    exact ⟨nofun, nofun⟩
  | group combinator conditions ih =>
    -- Under negation the combination is the dual one of negated parts, so that which constant decides
    -- it turns around together with the constants of the parts.
    have empty : (if negated then combinator.dual else combinator).join [] =
        (negated ^^ combinator.join []) := by
      cases negated <;> cases combinator <;> rfl
    have decides : value = !(negated ^^ combinator.join []) ↔
        (negated ^^ value) = !combinator.join [] := by
      cases negated <;> simp
    have drops : value = (negated ^^ combinator.join []) ↔
        (negated ^^ value) = combinator.join [] := by
      cases negated
      · simp
      · simp [Bool.not_eq_eq_eq_not]
    rw [spread_group_constant, Combinator.constant_some_iff, Filter.group_folds_iff, empty, decides,
      drops, List.mem_map, List.forall_mem_map]
    exact or_congr (and_congr_right' (exists_congr fun condition =>
        and_congr_right fun member => ih condition member))
      (and_congr_right' (forall₂_congr fun condition member => ih condition member))
  | not condition ih =>
    rw [Filter.spread, ih, Filter.not_folds_iff, Bool.not_xor]

instance (filter : Filter) (value : Bool) : Decidable (filter.FoldsTo value) :=
  decidable_of_iff ((filter.spread false).folded.constant? = some value)
    (by rw [spread_constant_iff, Bool.false_xor])

-- What a negation hides still decides, and a test alone leaves everything open.
example : (Filter.group .or [.compare "tag" .eq .null, .not (.group .or [])]).FoldsTo true ∧
    ¬(Filter.group .and [.compare "tag" .eq .null, .not (.group .or [])]).FoldsTo true := by
  decide

/-- What a service compiles a filter to is a constant exactly where boolean identities find this
constant. -/
theorem compiled_constant_iff {backend : Backend} {filter : Filter}
    (done : backend.compile (some filter) = .ok compiled) :
    compiled.constant? = some value ↔ filter.FoldsTo value := by
  rw [compile_node_constant (compile_some_ok.mp done).1, spread_constant_iff, Bool.false_xor]

namespace Compiled

theorem everything_iff {compiled : Compiled} :
    compiled = .everything ↔ compiled.constant? = some true := by
  cases compiled <;> simp [constant?]

theorem nothing_iff {compiled : Compiled} :
    compiled = .nothing ↔ compiled.constant? = some false := by
  cases compiled <;> simp [constant?]

end Compiled

/-- Two services that both take a filter compile it to the same constant or both to a formula. It is
everything where the filter folds to true by boolean identities, and nothing where it folds to
false. -/
theorem services_find_same_constants {first second : Backend} {filter : Filter}
    (done : first.compile (some filter) = .ok compiled)
    (done' : second.compile (some filter) = .ok compiled') :
    compiled'.constant? = compiled.constant? ∧
      (compiled = .everything ↔ filter.FoldsTo true) ∧
      (compiled = .nothing ↔ filter.FoldsTo false) := by
  refine ⟨Option.ext fun value => ?_, ?_, ?_⟩
  · rw [compiled_constant_iff done', compiled_constant_iff done]
  · rw [Compiled.everything_iff, compiled_constant_iff done]
  · rw [Compiled.nothing_iff, compiled_constant_iff done]

/-- Not (everything or a test). -/
private def noneOfAll : Filter :=
  .not (.group .or [.group .and [], .compare "tag" .eq (.string "a")])

theorem services_find_nothing :
    Backend.algolia.compile (some noneOfAll) = .ok .nothing ∧
      Backend.meilisearch.compile (some noneOfAll) = .ok .nothing ∧ noneOfAll.FoldsTo false := by
  have done : Backend.algolia.compile (some noneOfAll) = .ok .nothing := rfl
  have done' : Backend.meilisearch.compile (some noneOfAll) = .ok .nothing := rfl
  exact ⟨done, done', (services_find_same_constants done done').2.2.mp rfl⟩

/-! ## Searches -/

/-- Without documents no facet has an entry. -/
theorem count_facets_nil (fields : List String) : countFacets fields [] = [] := by
  induction fields with
  | nil => rfl
  | cons field rest ih => exact ih

namespace Engine

theorem answer_nil (engine : Engine) (query : String) (options : Options) :
    engine.answer query options [] = .empty query options := by
  rw [answer, Result.empty, total_of_records _ engine.pageSize_pos, List.length_nil, zero_ceilDiv,
    onPage, List.drop_nil, List.take_nil, count_facets_nil]

theorem hits_of_none (engine : Engine) (sorter : Sorter) (documents : List Document)
    (query : String) (sort : List SortKey) :
    engine.hits sorter documents query (fun _ => false) sort = some [] := by
  rw [hits, accepted, List.filter_false, SortKey.sort_documents_nil]

/-- A filter that folds to a constant makes the test that gives its truth value. -/
theorem filter_test_of_folds {filter : Filter} (valid : filter.check = .ok ())
    (folds : filter.FoldsTo value) : filterTest (some filter) = .ok fun _ => value := by
  rw [filterTest, Filter.predicate_of_check valid]
  congr
  funext document
  exact Filter.holds_of_folds folds document

end Engine

namespace Service

/-- The language in which a service takes filters. -/
def language : Service → Backend
  | .algolia _ => .algolia
  | .meilisearch _ => .meilisearch
  | .typesense _ => .typesense

/-- The options that a service answers. Algolia does not sort at the time of a query. -/
def answered (options : Options) : Service → Options
  | .algolia _ => { options with sort := [] }
  | .meilisearch _ | .typesense _ => options

/-- A service is not asked with a filter that compiles to nothing. -/
theorem search_of_nothing {service : Service} (query : String)
    (nothing : service.language.compile options.filters = .ok .nothing) :
    service.search query options = .done (.ok (.empty query (service.answered options))) := by
  cases service with
  | algolia service =>
    have compiles : Backend.algolia.compile options.filters = .ok .nothing := nothing
    rw [search, Algolia.Service.search, compiles]
    rfl
  | meilisearch service =>
    have compiles : Backend.meilisearch.compile options.filters = .ok .nothing := nothing
    rw [search, Meilisearch.Service.search, compiles]
    rfl
  | typesense service =>
    have compiles : Backend.typesense.compile options.filters = .ok .nothing := nothing
    rw [search, Typesense.Service.search, compiles]
    rfl

end Service

/-- Where a filter compiles to nothing, a search in memory answers nothing, whatever library sorts,
and that is what a service answers without being asked, for the options that it looks at. Where a
filter compiles to everything, a search in memory comes to what it does without a filter, and its
answer repeats the filter. -/
theorem search_with_constant_filter {backend : Backend} {filter : Filter}
    (done : backend.compile (some filter) = .ok compiled) (engine : Engine)
    (documents : List Document) (query : String) (options : Options) :
    (compiled = .nothing →
      (∀ sorter : Sorter, engine.execute sorter documents query
        { options with filters := some filter } =
          .ok (some (.empty query { options with filters := some filter }))) ∧
      ∀ service : Service, service.language = backend → ∃ answer,
        service.search query { options with filters := some filter } = .done (.ok answer) ∧
        ∀ sorter : Sorter, engine.execute sorter documents query
          (service.answered { options with filters := some filter }) = .ok (some answer)) ∧
    (compiled = .everything → ∀ sorter : Sorter, ∃ outcome,
      engine.execute sorter documents query { options with filters := none } = .ok outcome ∧
      engine.execute sorter documents query { options with filters := some filter } =
        .ok (outcome.map fun result => { result with filters := some (.tree filter) })) := by
  have valid : filter.check = .ok () := compile_node_checked (compile_some_ok.mp done).1
  constructor
  · rintro rfl
    have test : Engine.filterTest (some filter) = .ok fun _ => false :=
      Engine.filter_test_of_folds valid ((compiled_constant_iff done).mp rfl)
    have answers {options : Options} (asked : options.filters = some filter) (sorter : Sorter) :
        engine.execute sorter documents query options = .ok (some (.empty query options)) := by
      rw [Engine.execute_of_test _ _ _ _ (asked ▸ test), Engine.hits_of_none, Option.map_some,
        Engine.answer_nil]
    refine ⟨answers rfl, ?_⟩
    rintro service rfl
    have asked : (service.answered { options with filters := some filter }).filters =
        some filter := by
      cases service <;> rfl
    exact ⟨_, Service.search_of_nothing query done, answers asked⟩
  · rintro rfl sorter
    have test : Engine.filterTest (some filter) = .ok fun _ => true :=
      Engine.filter_test_of_folds valid ((compiled_constant_iff done).mp rfl)
    refine ⟨_, Engine.execute_of_test engine sorter documents query rfl, ?_⟩
    rw [Engine.execute_of_test engine sorter documents query test, Option.map_map]
    rfl

/-- The cheapest first. -/
private def cheapestFirst : Options := ⟨0, [⟨"price", .ascending⟩], ["tag"], none⟩

theorem searches_with_constant_filters :
    Backend.typesense.compile (some noneOfAll) = .ok .nothing ∧
      Backend.meilisearch.compile (some (.not noneOfAll)) = .ok .everything ∧
      (∀ sorter, Engine.standard.execute sorter [.ofId "a" []] ""
        { cheapestFirst with filters := some noneOfAll } =
          .ok (some (.empty "" { cheapestFirst with filters := some noneOfAll }))) ∧
      ∀ sorter, ∃ outcome,
        Engine.standard.execute sorter [.ofId "a" []] "" cheapestFirst = .ok outcome ∧
        Engine.standard.execute sorter [.ofId "a" []] ""
          { cheapestFirst with filters := some (.not noneOfAll) } =
            .ok (outcome.map fun result =>
              { result with filters := some (.tree (.not noneOfAll)) }) := by
  have nothing : Backend.typesense.compile (some noneOfAll) = .ok .nothing := rfl
  have everything : Backend.meilisearch.compile (some (.not noneOfAll)) = .ok .everything := rfl
  exact ⟨nothing, everything,
    ((search_with_constant_filter nothing .standard [.ofId "a" []] "" cheapestFirst).1 rfl).1,
    (search_with_constant_filter everything .standard [.ofId "a" []] "" cheapestFirst).2 rfl⟩

/-- What Algolia answers without being asked is not what a search in memory answers if there are
sort keys, which the search in memory repeats. -/
theorem algolia_forgets_sort_keys :
    ¬ ∀ (service : Service) (filter : Filter) (engine : Engine) (documents : List Document)
        (query : String) (options : Options),
      service.language.compile (some filter) = .ok .nothing → ∃ answer,
        service.search query { options with filters := some filter } = .done (.ok answer) ∧
        ∀ sorter : Sorter, engine.execute sorter documents query
          { options with filters := some filter } = .ok (some answer) := by
  intro same
  obtain ⟨answer, sent, executed⟩ := same (.algolia ⟨⟨.algolia, [], []⟩, "products", 5⟩)
    (.group .or []) .standard [] "shirt" cheapestFirst rfl
  have unsorted : [] = answer.sort := congrArg Result.sort (Except.ok.inj (Call.done.inj sent))
  have sorts : cheapestFirst.sort = answer.sort :=
    congrArg Result.sort (Option.some.inj (Except.ok.inj (executed .byInsertion)))
  cases unsorted.trans sorts.symm

end SearchIndex
