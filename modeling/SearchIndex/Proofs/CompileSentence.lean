import SearchIndex.Proofs.CompileInversion

/-! The outcome of compiling a filter is a sentence of the service's language. Each test that the
compiler renders is one, negation stands only where the language has it, and folding constants
leaves the brackets and the words between them in order. -/
namespace SearchIndex

/-- A combination of sentences, folded, is a sentence. -/
theorem combine_is_sentence (combinator : Combinator) (parts : List Compiled)
    (each : ∀ part ∈ parts, part.IsSentence backend) :
    (Compiled.combine combinator parts).IsSentence backend := by
  unfold Compiled.combine
  split
  · cases combinator <;> trivial
  · split
    · cases combinator <;> trivial
    · rename_i some_formula
      simp only [Compiled.IsSentence, Formula.chars, Formula.bracket_all_map, Formula.holds,
        Formula.holds_each_map]
      have sentence : Sentence backend _ _ := .chain combinator
        ((parts.filterMap Compiled.formula?).map fun formula =>
          (formula.chars backend, fun document => formula.holds document))
        (by simpa using some_formula) (by
          intro part member
          obtain ⟨formula, inside, rfl⟩ := List.mem_map.mp member
          obtain ⟨compiled, compiledMember, found⟩ := List.mem_filterMap.mp inside
          have whole := each compiled compiledMember
          cases compiled with
          | everything | nothing => cases found
          | expression other =>
            cases found
            exact whole)
      simpa only [List.map_map, Function.comp_def] using sentence

theorem negate_is_sentence (word : backend.negation = .group)
    (sentence : Compiled.IsSentence backend compiled) : compiled.negate.IsSentence backend := by
  cases compiled with
  | everything | nothing => trivial
  | expression formula => exact .notGroup word sentence

/-! ## Single tests -/

/-- Every comparison is a sentence. At Algolia inequality is the negation of equality. -/
theorem compare_sentence (backend : Backend) (field : String) (comparison : Comparison)
    (literal : Literal) :
    Sentence backend ((Clause.compare field comparison literal).chars backend)
      fun document => (Clause.compare field comparison literal).holds document := by
  cases backend with
  | meilisearch | typesense => exact .test _ trivial
  | algolia =>
    by_cases unequal : comparison = .ne
    · subst unequal
      exact Sentence.notTest (.compare field .eq literal) rfl nofun
    · exact .test _ unequal

theorem comparison_is_sentence (backend : Backend) (negated : Bool) (field : String)
    (comparison : Comparison) (literal : Literal) :
    (Compiled.expression (backend.comparison negated field comparison literal)).IsSentence backend := by
  cases negated with
  | false => exact compare_sentence backend field comparison literal
  | true =>
    by_cases unequal : comparison = .ne
    · subst unequal
      exact compare_sentence backend field .eq literal
    · simp only [Backend.comparison, unequal, Bool.not_true, Bool.false_eq_true, ↓reduceIte]
      cases backend with
      | algolia => exact .notTest _ rfl unequal
      | meilisearch => exact .notGroup rfl (compare_sentence .meilisearch field comparison literal)
      | typesense => exact compare_sentence .typesense field comparison.complement literal

theorem range_is_sentence (backend : Backend) (negated : Bool) (field : String)
    (low high : Literal) :
    (Compiled.expression (backend.range negated field low high)).IsSentence backend := by
  have plain : Sentence backend ((Clause.between field low high).chars backend)
      fun document => (Clause.between field low high).holds document := by
    cases backend <;> exact .test _ trivial
  cases negated with
  | false => exact plain
  | true =>
    cases backend with
    | algolia => exact .notTest _ rfl trivial
    | meilisearch => exact .notGroup rfl plain
    | typesense =>
      -- The range splits into what lies below it and what lies above.
      exact combine_is_sentence .or
        [.expression (.clause (.compare field .lt low)), .expression (.clause (.compare field .gt high))]
        (by
          intro part member
          rcases List.mem_pair.mp member with rfl | rfl
          · exact compare_sentence .typesense field .lt low
          · exact compare_sentence .typesense field .gt high)

/-- Algolia's chain of values is read as membership, and a single value needs no chain. -/
private theorem algolia_one_of_sentence (field : String) {literals : List Literal}
    (inhabited : literals ≠ []) :
    Sentence .algolia ((Clause.oneOf field literals).chars .algolia)
      fun document => (Clause.oneOf field literals).holds document := by
  simp only [Clause.holds, holds_one_of_any]
  match literals with
  | [] => exact absurd rfl inhabited
  | [literal] =>
    simp only [List.any_cons, List.any_nil, Bool.or_false]
    exact compare_sentence .algolia field .eq literal
  | first :: second :: rest =>
    have chained : Sentence .algolia _ _ :=
      .values field (first :: second :: rest) rfl (by simp)
    simpa only [Clause.chars, Clause.oneOfChars, Clause.compareChars, Clause.holds,
      Algolia.comparisonChain, List.map_cons, List.map_map, Function.comp_def] using chained

private theorem algolia_none_of_sentence (field : String) {literals : List Literal}
    (inhabited : literals ≠ []) :
    Sentence .algolia ((Clause.noneOf field literals).chars .algolia)
      fun document => (Clause.noneOf field literals).holds document := by
  simp only [Clause.holds, holds_one_of_any, List.not_any_eq_all_not]
  match literals with
  | [] => exact absurd rfl inhabited
  | [literal] =>
    simp only [List.all_cons, List.all_nil, Bool.and_true]
    exact compare_sentence .algolia field .ne literal
  | first :: second :: rest =>
    have chained : Sentence .algolia _ _ :=
      .noValues field (first :: second :: rest) rfl (by simp)
    simpa only [Clause.chars, Clause.noneOfChars, Clause.compareChars, Clause.holds,
      Algolia.comparisonChain, Algolia.compareChars, List.map_cons, List.map_map,
      Function.comp_def] using chained

theorem membership_is_sentence (backend : Backend) (negated : Bool) (field : String)
    {literals : List Literal} (inhabited : literals ≠ []) :
    (Compiled.expression (backend.membership negated field literals)).IsSentence backend := by
  cases backend with
  | algolia =>
    cases negated with
    | false => exact algolia_one_of_sentence field inhabited
    | true => exact algolia_none_of_sentence field inhabited
  | meilisearch =>
    cases negated with
    | false => exact .test _ trivial
    | true => exact .notGroup rfl (.test _ trivial)
  | typesense => cases negated <;> exact .test _ trivial

/-! ## Filters -/

/-- What a filter compiles to is a constant or a sentence of the service's language. -/
theorem compile_node_is_sentence {backend : Backend}
    (compiled : backend.compileNode negated depth filter = .ok outcome) :
    outcome.IsSentence backend := by
  refine compile_node_induct (motive := fun _ _ outcome => outcome.IsSentence backend)
    ?compare ?oneOf ?between ?not ?group ?negatedGroup compiled
  case compare =>
    intro negated field comparison value literal _
    exact comparison_is_sentence backend negated field comparison literal
  case oneOf =>
    intro negated field values literals inhabited made
    have spelled := literals_spell made
    refine membership_is_sentence backend negated field ?_
    rintro rfl
    exact inhabited spelled.symm
  case between =>
    intro negated field low high least greatest _ _
    exact range_is_sentence backend negated field least greatest
  case not =>
    intro negated condition outcome sentence
    exact sentence
  case group =>
    intro negated combinator conditions parts _ each
    refine combine_is_sentence _ parts fun part member => ?_
    exact forall₂_right each part member
  case negatedGroup =>
    intro combinator conditions outcome word sentence
    exact negate_is_sentence word sentence

end SearchIndex
