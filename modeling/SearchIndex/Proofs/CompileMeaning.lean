import SearchIndex.Proofs.CompileInversion
import SearchIndex.Proofs.OrderTests

/-! What the outcome of compiling a filter means. Its reading is related to the meaning of the
filter by every relation of truth values that conjunction and disjunction respect, as long as that
relation holds at the tests whose negation the language replaces by their other side. Equality and
implication are the relations of use. -/
namespace SearchIndex

/-! ## Combinations -/

theorem group_holds (document : Document) (combinator : Combinator) (conditions : List Filter) :
    (Filter.group combinator conditions).holds document =
      combinator.join (conditions.map fun condition => condition.holds document) := by
  rw [Bool.eq_iff_iff]
  cases combinator with
  | and => simp [Filter.holds, Filter.holds_all_iff, Combinator.join]
  | or => simp [Filter.holds, Filter.holds_some_iff, Combinator.join]

/-- De Morgan's laws: a signed combination is the combination of the signed parts, by the dual
combinator if the sign is negative. -/
theorem signed_join (negated : Bool) (combinator : Combinator) (values : List Bool) :
    (negated ^^ combinator.join values) =
      (if negated then combinator.dual else combinator).join (values.map (negated ^^ ·)) := by
  cases negated with
  | false => simp
  | true =>
    cases combinator with
    | and =>
      simp [Combinator.join, Combinator.dual, List.not_all_eq_any_not, List.any_map]
    | or =>
      simp [Combinator.join, Combinator.dual, List.not_any_eq_all_not, List.all_map]

/-- Parts that do not decide a combination count only with their formulas. -/
private theorem join_formulas (document : Document) (combinator : Combinator) (parts : List Compiled)
    (undecided : ∀ part ∈ parts, Compiled.decides combinator part = false) :
    combinator.join (parts.map (Compiled.holds document)) =
      combinator.join ((parts.filterMap Compiled.formula?).map (Formula.holds document)) := by
  induction parts with
  | nil => rfl
  | cons part rest ih =>
    obtain ⟨here, later⟩ := List.forall_mem_cons.mp undecided
    have tail := ih later
    cases combinator <;> cases part <;>
      simp_all [Combinator.join, Compiled.decides, Compiled.formula?, Compiled.holds]

/-- Folding constants keeps the truth value of a combination. -/
theorem combine_holds (document : Document) (combinator : Combinator) (parts : List Compiled) :
    (Compiled.combine combinator parts).holds document =
      combinator.join (parts.map (Compiled.holds document)) := by
  unfold Compiled.combine
  split
  · rename_i decided
    obtain ⟨part, member, decides⟩ := List.any_eq_true.mp decided
    have inside := List.mem_map_of_mem (f := Compiled.holds document) member
    cases combinator with
    | and =>
      cases part with
      | nothing =>
        exact (List.all_eq_false.mpr ⟨false, inside, by simp⟩).symm
      | everything | expression => cases decides
    | or =>
      cases part with
      | everything =>
        exact (List.any_eq_true.mpr ⟨true, inside, rfl⟩).symm
      | nothing | expression => cases decides
  · rename_i undecided
    have none_decides : ∀ part ∈ parts, Compiled.decides combinator part = false := by
      simpa using undecided
    rw [join_formulas document combinator parts none_decides]
    split
    · rename_i constant
      rw [constant]
      cases combinator <;> rfl
    · simp only [Compiled.holds, Formula.holds, Formula.holds_each_map]

theorem negate_holds (document : Document) (compiled : Compiled) :
    compiled.negate.holds document = !compiled.holds document := by
  cases compiled <;> rfl

/-! ## Related truth values -/

/-- A relation of truth values that a value has to itself and combinations respect. -/
structure Combinable (relation : Bool → Bool → Prop) : Prop where
  same : ∀ value, relation value value
  and : ∀ {a b c d}, relation a b → relation c d → relation (a && c) (b && d)
  or : ∀ {a b c d}, relation a b → relation c d → relation (a || c) (b || d)

theorem combinable_eq : Combinable Eq where
  same _ := rfl
  and := by rintro _ _ _ _ rfl rfl; rfl
  or := by rintro _ _ _ _ rfl rfl; rfl

theorem combinable_implies : Combinable fun a b => a = true → b = true where
  same _ := id
  and := by
    intro a b c d first second both
    rw [Bool.and_eq_true] at both ⊢
    exact ⟨first both.1, second both.2⟩
  or := by
    intro a b c d first second either
    rw [Bool.or_eq_true] at either ⊢
    exact either.imp first second

theorem Combinable.join (combinable : Combinable relation) (combinator : Combinator)
    (each : List.Forall₂ relation firsts seconds) :
    relation (combinator.join firsts) (combinator.join seconds) := by
  induction each with
  | nil => exact combinable.same _
  | cons head _ ih =>
    cases combinator with
    | and => exact combinable.and head ih
    | or => exact combinable.or head ih

/-! ## Filters -/

section
variable {backend : Backend} {relation : Bool → Bool → Prop} {document : Document}

theorem comparison_related (combinable : Combinable relation)
    (made : backend.literal field value = .ok literal)
    (reversed : backend.negation = .complement →
      ∀ test ∈ (Filter.compare field comparison value).reversedTests negated,
        relation (test.opposite document) (!test.holds document)) :
    relation ((backend.comparison negated field comparison literal).holds document)
      (negated ^^ (Filter.compare field comparison value).holds document) := by
  have spelled := literal_spells made
  subst spelled
  cases negated with
  | false =>
    rw [Bool.false_xor]
    exact combinable.same _
  | true =>
    rw [Bool.true_xor]
    by_cases unequal : comparison = .ne
    · subst unequal
      simp only [Filter.holds, Comparison.holds, Bool.not_not]
      exact combinable.same _
    · simp only [Backend.comparison, unequal, Bool.not_true, Bool.false_eq_true, ↓reduceIte]
      cases sign : backend.negation with
      | group | clause => exact combinable.same _
      | complement =>
        cases ordering : comparison.isOrdering with
        | false =>
          cases comparison with
          | eq => exact combinable.same _
          | ne => exact absurd rfl unequal
          | lt | le | gt | ge => cases ordering
        | true =>
          have one := reversed sign (.compare field comparison literal.toValue)
            (by simp [Filter.reversedTests, ordering])
          have turned : comparison.complement.isOrdering = true := by
            cases comparison <;> first | rfl | cases ordering
          simp only [Formula.holds, Clause.holds, Filter.holds, OrderTest.compare_holds ordering,
            OrderTest.compare_holds turned]
          exact one

theorem membership_related (combinable : Combinable relation)
    (made : backend.literals field values = .ok literals) :
    relation ((backend.membership negated field literals).holds document)
      (negated ^^ (Filter.oneOf field values).holds document) := by
  have spelled := literals_spell made
  subst spelled
  cases negated with
  | false =>
    rw [Bool.false_xor]
    exact combinable.same _
  | true =>
    rw [Bool.true_xor]
    cases backend <;> exact combinable.same _

theorem range_related (combinable : Combinable relation)
    (madeLow : backend.literal field low = .ok least)
    (madeHigh : backend.literal field high = .ok greatest)
    (reversed : backend.negation = .complement →
      ∀ test ∈ (Filter.between field low high).reversedTests negated,
        relation (test.opposite document) (!test.holds document)) :
    relation ((backend.range negated field least greatest).holds document)
      (negated ^^ (Filter.between field low high).holds document) := by
  have spelledLow := literal_spells madeLow
  have spelledHigh := literal_spells madeHigh
  subst spelledLow spelledHigh
  cases negated with
  | false =>
    rw [Bool.false_xor]
    exact combinable.same _
  | true =>
    rw [Bool.true_xor]
    cases sign : backend.negation with
    | group | clause =>
      simp only [Backend.range, sign, Bool.not_true, Bool.false_eq_true, ↓reduceIte]
      exact combinable.same _
    | complement =>
      have one := reversed sign (.between field least.toValue greatest.toValue)
        (by simp [Filter.reversedTests])
      simp only [Backend.range, sign, Bool.not_true, Bool.false_eq_true, ↓reduceIte, Formula.holds,
        Formula.holdsEach, Clause.holds, Combinator.join, List.any_cons, List.any_nil, id_eq,
        Bool.or_false, OrderTest.split_range_opposite]
      exact one

/-- The reading of what a filter compiles to is related to the signed meaning of the filter. Where
negation replaces tests by their other side, the relation has to hold there; where a word negates
brackets, it has to survive negation. -/
theorem compile_node_related {filter : Filter} (combinable : Combinable relation)
    (turns : backend.negation = .group → ∀ {a b}, relation a b → relation (!a) (!b))
    (reversed : backend.negation = .complement → ∀ test ∈ filter.reversedTests negated,
      relation (test.opposite document) (!test.holds document))
    (done : backend.compileNode negated depth filter = .ok outcome) :
    relation (outcome.holds document) (negated ^^ filter.holds document) := by
  revert reversed
  refine compile_node_induct (motive := fun negated filter outcome =>
    (backend.negation = .complement → ∀ test ∈ filter.reversedTests negated,
      relation (test.opposite document) (!test.holds document)) →
    relation (outcome.holds document) (negated ^^ filter.holds document))
    ?compare ?oneOf ?between ?not ?group ?negatedGroup done
  case compare =>
    intro negated field comparison value literal made reversed
    exact comparison_related combinable made reversed
  case oneOf =>
    intro negated field values literals _ made _
    exact membership_related combinable made
  case between =>
    intro negated field low high least greatest madeLow madeHigh reversed
    exact range_related combinable madeLow madeHigh reversed
  case not =>
    intro negated condition outcome ih reversed
    have related := ih reversed
    rwa [Filter.holds, Bool.xor_not, ← Bool.not_xor]
  case group =>
    intro negated combinator conditions parts _ each reversed
    have members := (List.forall₂_and_left conditions parts).mpr ⟨fun _ member => member, each⟩
    have related : List.Forall₂ (fun condition (part : Compiled) =>
        relation (part.holds document) (negated ^^ condition.holds document)) conditions parts := by
      refine members.imp ?_
      rintro condition part ⟨member, ih⟩
      exact ih fun sign test inside =>
        reversed sign test (Filter.mem_reversed_of_condition member inside)
    rw [combine_holds, group_holds, signed_join, List.map_map]
    refine combinable.join _ ?_
    rw [List.forall₂_map_left_iff, List.forall₂_map_right_iff]
    exact related.flip
  case negatedGroup =>
    intro combinator conditions outcome word ih _
    have plain := ih fun sign => absurd (word.symm.trans sign) nofun
    rw [Bool.false_xor] at plain
    rw [negate_holds, Bool.true_xor]
    exact turns word plain

end

end SearchIndex
