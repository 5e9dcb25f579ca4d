import SearchIndex.Proofs.CompileMeaning
import SearchIndex.Proofs.CompileSentence

/-! The formulas sent to the services against the engine in memory. Where a word negates, the
sentence sent accepts exactly the documents that the filter accepts. At Typesense negation asks for
the other side of a test instead: that is never too much for fields that are absent or scalars, and
exact where each such test is settled. -/
namespace SearchIndex

/-- Where the language has a word for negation, the outcome means what the filter means. -/
theorem compile_holds_of_word {backend : Backend} (word : backend.negation ≠ .complement)
    (done : backend.compileNode negated depth filter = .ok outcome) (document : Document) :
    outcome.holds document = (negated ^^ filter.holds document) :=
  compile_node_related combinable_eq (fun _ _ _ same => congrArg not same)
    (fun sign => absurd sign word) done

/-- Where the tests under negation are settled, the Typesense formula means what the filter
means. -/
theorem typesense_holds_of_settled
    (done : Backend.typesense.compileNode negated depth filter = .ok outcome)
    (settled : ∀ test ∈ filter.reversedTests negated, test.IsSettled document) :
    outcome.holds document = (negated ^^ filter.holds document) :=
  compile_node_related combinable_eq (fun group => absurd group (by decide))
    (fun _ test inside => (test.opposite_eq_not_iff document).mpr (settled test inside)) done

/-- Where fields tested under negation are absent or scalars, the Typesense formula accepts no
document that the filter does not. -/
theorem typesense_holds_only_if
    (done : Backend.typesense.compileNode negated depth filter = .ok outcome)
    (single : ∀ test ∈ filter.reversedTests negated, ∀ found,
      document.get? test.field = some found → found.IsScalar) :
    outcome.holds document = true → (negated ^^ filter.holds document) = true :=
  compile_node_related combinable_implies (fun group => absurd group (by decide))
    (fun _ test inside other => by
      rw [OrderTest.not_holds_of_opposite (single test inside) other]
      rfl) done

/-- A negated test for order compiles to its other side at Typesense. -/
theorem typesense_negated_test {test : OrderTest}
    (reversed : test ∈ (Filter.not test.toFilter).reversedTests false)
    (done : Backend.typesense.compileNode false depth (.not test.toFilter) = .ok outcome) :
    outcome.holds document = test.opposite document := by
  obtain ⟨_, done⟩ := compile_not_ok.mp done
  cases test with
  | compare field comparison value =>
    obtain ⟨_, literal, made, rfl⟩ := compile_compare_ok.mp done
    have ordering : comparison.isOrdering = true := by
      simpa [OrderTest.toFilter, Filter.reversedTests] using reversed
    have spelled := literal_spells made
    subst spelled
    cases comparison with
    | eq | ne => cases ordering
    | lt | le | gt | ge => rfl
  | between field low high =>
    obtain ⟨_, least, madeLow, greatest, madeHigh, rfl⟩ := compile_between_ok.mp done
    have spelledLow := literal_spells madeLow
    have spelledHigh := literal_spells madeHigh
    subst spelledLow spelledHigh
    simp only [Backend.range, Backend.negation, Bool.not_false, Bool.not_true, Bool.false_eq_true,
      ↓reduceIte, Compiled.holds, Formula.holds, Formula.holdsEach, Clause.holds, Combinator.join,
      List.any_cons, List.any_nil, id_eq, Bool.or_false, OrderTest.split_range_opposite]
    rfl

/-! ## Main statements -/

/-- What is sent to a service says of each document what a predicate says: constants speak of all
documents, and a formula is written as a sentence of the language with that reading. -/
def Compiled.Renders (backend : Backend) (accepts : Document → Bool) : Compiled → Prop
  | .everything => ∀ document, accepts document = true
  | .nothing => ∀ document, accepts document = false
  | .expression formula => ∃ reading, Sentence backend (formula.text backend).toList reading ∧
      ∀ document, reading document = accepts document

/-- Ten as a value. -/
private def ten : Value := .number (.integer 10 (by decide))

/-- A document with a price and a tag. -/
private def shirt : Document := .ofId "shirt" [("price", ten), ("tag", .string "c")]

/-- Neither in a list nor below a bound. -/
private def outside : Filter :=
  .not (.group .or [.oneOf "tag" [.string "a", .string "b"], .compare "price" .lt ten])

/-- Not below a bound. -/
private def notBelow : Filter := .not (.compare "price" .lt ten)

/-- A filter compiled for Algolia or MeiliSearch has a predicate, and what is sent to the service
says of each document what the predicate says. -/
theorem compiled_means_predicate {backend : Backend} (word : backend ≠ .typesense) {filter : Filter}
    {compiled : Compiled} (done : backend.compile (some filter) = .ok compiled) :
    ∃ accepts, filter.predicate = .ok accepts ∧ compiled.Renders backend accepts := by
  obtain ⟨node, _⟩ := compile_some_ok.mp done
  have negates : backend.negation ≠ .complement := by
    cases backend with
    | algolia | meilisearch => exact nofun
    | typesense => exact absurd rfl word
  have means (document : Document) : compiled.holds document = filter.holds document := by
    simpa using compile_holds_of_word negates node document
  refine ⟨_, Filter.predicate_of_check (compile_node_checked node), ?_⟩
  cases compiled with
  | everything => exact fun document => (means document).symm
  | nothing => exact fun document => (means document).symm
  | expression formula =>
    refine ⟨fun document => formula.holds document, ?_, means⟩
    rw [Formula.text, String.toList_ofList]
    exact compile_node_is_sentence node

theorem compiled_means_predicate_under_negation :
    ∃ formula, Backend.algolia.compile (some outside) = .ok (.expression formula) ∧
      ∃ accepts, outside.predicate = .ok accepts ∧
        ∃ reading, Sentence .algolia (formula.text .algolia).toList reading ∧
          ∀ document, reading document = accepts document := by
  have compiles : ∃ formula, Backend.algolia.compile (some outside) = .ok (.expression formula) :=
    ⟨_, rfl⟩
  obtain ⟨formula, done⟩ := compiles
  exact ⟨formula, done, compiled_means_predicate (by decide) done⟩

/-- A formula compiled for Typesense is sent as a sentence of its language. It accepts only what the
predicate accepts when fields tested for order under an odd number of negations are absent or
scalars, and exactly that when they are scalars of the kind of the literals. -/
theorem typesense_formula_bounds_predicate {filter : Filter} {formula : Formula}
    (done : Backend.typesense.compile (some filter) = .ok (.expression formula)) :
    Sentence .typesense (formula.text .typesense).toList (fun document => formula.holds document) ∧
      ∃ accepts, filter.predicate = .ok accepts ∧ ∀ document,
        ((∀ test ∈ filter.reversedTests false, ∀ found,
            document.get? test.field = some found → found.IsScalar) →
          formula.holds document = true → accepts document = true) ∧
        ((∀ test ∈ filter.reversedTests false, ∃ found,
            document.get? test.field = some found ∧
              ∀ literal ∈ test.literals, found.SameKind literal) →
          formula.holds document = accepts document) := by
  obtain ⟨node, _⟩ := compile_some_ok.mp done
  refine ⟨?_, _, Filter.predicate_of_check (compile_node_checked node), fun document => ⟨?_, ?_⟩⟩
  · rw [Formula.text, String.toList_ofList]
    exact compile_node_is_sentence node
  · intro single passed
    simpa using typesense_holds_only_if node single passed
  · intro present
    have settled : ∀ test ∈ filter.reversedTests false, test.IsSettled document := by
      intro test inside
      obtain ⟨found, lookup, kind⟩ := present test inside
      exact OrderTest.settled_of_same_kind lookup kind
    have means := typesense_holds_of_settled node settled
    rwa [Bool.false_xor] at means

theorem typesense_formula_bounds_outside :
    ∃ formula, Backend.typesense.compile (some outside) = .ok (.expression formula) ∧
      Sentence .typesense (formula.text .typesense).toList (fun document => formula.holds document) ∧
      ∃ accepts, outside.predicate = .ok accepts ∧
        (∀ test ∈ outside.reversedTests false, ∃ found, shirt.get? test.field = some found ∧
          found.IsScalar ∧ ∀ literal ∈ test.literals, found.SameKind literal) ∧
        formula.holds shirt = true ∧ accepts shirt = true ∧
        formula.holds shirt = accepts shirt := by
  have compiles : ∃ formula, Backend.typesense.compile (some outside) = .ok (.expression formula) ∧
      formula.holds shirt = true := ⟨_, rfl, rfl⟩
  obtain ⟨formula, done, passed⟩ := compiles
  obtain ⟨sentence, accepts, meant, bounds⟩ := typesense_formula_bounds_predicate done
  have priced : ∀ test ∈ outside.reversedTests false, ∃ found, shirt.get? test.field = some found ∧
      found.IsScalar ∧ ∀ literal ∈ test.literals, found.SameKind literal :=
    List.forall_mem_singleton.mpr ⟨ten, rfl, trivial, List.forall_mem_singleton.mpr trivial⟩
  refine ⟨formula, done, sentence, accepts, meant, priced, passed, ?_, ?_⟩
  · refine (bounds shirt).1 (fun test inside found lookup => ?_) passed
    obtain ⟨_, same, scalar, _⟩ := priced test inside
    cases lookup.symm.trans same
    exact scalar
  · refine (bounds shirt).2 fun test inside => ?_
    obtain ⟨found, lookup, _, kind⟩ := priced test inside
    exact ⟨found, lookup, kind⟩

/-- The outcomes at Algolia and MeiliSearch accept the same documents, and so does the one at
Typesense where each test for order under an odd number of negations is settled. For a single
negated test nothing less is enough. -/
theorem dialects_agree_where_settled {filter : Filter} {algolia meilisearch typesense : Compiled}
    (doneAlgolia : Backend.algolia.compile (some filter) = .ok algolia)
    (doneMeilisearch : Backend.meilisearch.compile (some filter) = .ok meilisearch)
    (doneTypesense : Backend.typesense.compile (some filter) = .ok typesense)
    (document : Document) :
    algolia.holds document = meilisearch.holds document ∧
      ((∀ test ∈ filter.reversedTests false, test.IsSettled document) →
        typesense.holds document = meilisearch.holds document) ∧
      ∀ test : OrderTest, filter = .not test.toFilter → test ∈ filter.reversedTests false →
        (typesense.holds document = meilisearch.holds document ↔ test.IsSettled document) := by
  have nodeAlgolia := (compile_some_ok.mp doneAlgolia).1
  have nodeMeilisearch := (compile_some_ok.mp doneMeilisearch).1
  have nodeTypesense := (compile_some_ok.mp doneTypesense).1
  have first := compile_holds_of_word (by nofun) nodeAlgolia document
  have second := compile_holds_of_word (by nofun) nodeMeilisearch document
  refine ⟨first.trans second.symm, ?_, ?_⟩
  · intro settled
    exact (typesense_holds_of_settled nodeTypesense settled).trans second.symm
  · rintro test rfl reversed
    have meant : (Filter.not test.toFilter).holds document = !test.holds document := by
      cases test with
      | compare field comparison value =>
        have ordering : comparison.isOrdering = true := by
          simpa [OrderTest.toFilter, Filter.reversedTests] using reversed
        simp only [OrderTest.toFilter, Filter.holds, OrderTest.compare_holds ordering]
        rfl
      | between field low high => rfl
    rw [typesense_negated_test reversed nodeTypesense, second, Bool.false_xor, meant]
    exact test.opposite_eq_not_iff document

/-- The services do not agree on every document. A document without the field is not below the
bound for the services that negate, and has nothing at or above it at Typesense. -/
theorem dialects_part_on_unsettled_tests :
    ¬ ∀ (filter : Filter) (algolia meilisearch typesense : Compiled) (document : Document),
      Backend.algolia.compile (some filter) = .ok algolia →
      Backend.meilisearch.compile (some filter) = .ok meilisearch →
      Backend.typesense.compile (some filter) = .ok typesense →
      algolia.holds document = meilisearch.holds document ∧
        meilisearch.holds document = typesense.holds document := by
  intro agree
  have parted := (agree notBelow _ _ _ (.ofId "hat" []) rfl rfl rfl).2
  exact absurd parted (by decide)

theorem dialects_agree_on_a_priced_document :
    ∃ algolia meilisearch typesense : Compiled,
      Backend.algolia.compile (some notBelow) = .ok algolia ∧
      Backend.meilisearch.compile (some notBelow) = .ok meilisearch ∧
      Backend.typesense.compile (some notBelow) = .ok typesense ∧
      (∀ test ∈ notBelow.reversedTests false, test.IsSettled shirt) ∧
      algolia.holds shirt = meilisearch.holds shirt ∧
      typesense.holds shirt = meilisearch.holds shirt ∧
      (typesense.holds shirt = meilisearch.holds shirt ↔
        (OrderTest.compare "price" .lt ten).IsSettled shirt) := by
  have settled : ∀ test ∈ notBelow.reversedTests false, test.IsSettled shirt :=
    List.forall_mem_singleton.mpr (OrderTest.settled_of_same_kind
      (show shirt.get? "price" = some ten from rfl) (List.forall_mem_singleton.mpr trivial))
  have compiles : ∃ algolia meilisearch typesense : Compiled,
      Backend.algolia.compile (some notBelow) = .ok algolia ∧
      Backend.meilisearch.compile (some notBelow) = .ok meilisearch ∧
      Backend.typesense.compile (some notBelow) = .ok typesense := ⟨_, _, _, rfl, rfl, rfl⟩
  obtain ⟨algolia, meilisearch, typesense, one, two, three⟩ := compiles
  obtain ⟨others, where_settled, only⟩ := dialects_agree_where_settled one two three shirt
  exact ⟨algolia, meilisearch, typesense, one, two, three, settled, others, where_settled settled,
    only (.compare "price" .lt ten) rfl (.head _)⟩

end SearchIndex
