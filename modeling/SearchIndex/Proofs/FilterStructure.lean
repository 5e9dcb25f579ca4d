import Mathlib.Data.List.Forall2
import SearchIndex.Filter.Meaning

/-! Filters seen through their parts. A combination is a list of filters, so facts about filters go
by an induction that hands a combination the fact for each of its conditions, and the functions on
lists of conditions amount to quantifiers over them. -/
namespace SearchIndex

/-- A sequence of two steps succeeds when the first does and the second does on its outcome. -/
theorem except_bind_ok {first : Except ε α} {second : α → Except ε β} {outcome : β} :
    (first >>= second) = .ok outcome ↔
      ∃ middle, first = .ok middle ∧ second middle = .ok outcome := by
  cases first with
  | error error => simp [bind, Except.bind]
  | ok middle => simp [bind, Except.bind]

/-- A check in front of a step succeeds when both do. -/
theorem except_then_ok {check : Except ε Unit} {step : Except ε β} {outcome : β} :
    (check >>= fun _ => step) = .ok outcome ↔ check = .ok () ∧ step = .ok outcome := by
  rw [except_bind_ok]
  constructor
  · rintro ⟨_, passed, done⟩
    exact ⟨passed, done⟩
  · rintro ⟨passed, done⟩
    exact ⟨(), passed, done⟩

/-- A sequence of two steps fails when the first does, or the second on its outcome. -/
theorem except_bind_error {first : Except ε α} {second : α → Except ε β} {error : ε} :
    (first >>= second) = .error error ↔
      first = .error error ∨ ∃ middle, first = .ok middle ∧ second middle = .error error := by
  cases first with
  | error error => simp [bind, Except.bind]
  | ok middle => simp [bind, Except.bind]

theorem except_map_ok {result : Except ε α} {f : α → β} :
    result.map f = .ok outcome ↔ ∃ middle, result = .ok middle ∧ f middle = outcome := by
  cases result <;> simp [Except.map]

theorem except_map_error {result : Except ε α} {f : α → β} :
    result.map f = .error error ↔ result = .error error := by
  cases result <;> simp [Except.map]

/-- Every element of a list can be paired with some partner. -/
theorem exists_forall₂_iff {relation : α → β → Prop} {firsts : List α} :
    (∃ seconds, List.Forall₂ relation firsts seconds) ↔
      ∀ first ∈ firsts, ∃ second, relation first second := by
  induction firsts with
  | nil => simp
  | cons first rest ih =>
    rw [List.forall_mem_cons, ← ih]
    constructor
    · rintro ⟨_, _ | ⟨head, tail⟩⟩
      exact ⟨⟨_, head⟩, _, tail⟩
    · rintro ⟨⟨second, head⟩, seconds, tail⟩
      exact ⟨second :: seconds, .cons head tail⟩

/-- A step taken on one element after another succeeds when it does on each, with the list of what
they give. -/
theorem each_ok (step : α → Except ε β) (run : List α → Except ε (List β)) (stop : run [] = .ok [])
    (next : ∀ first rest, run (first :: rest) = do
      let one ← step first
      let others ← run rest
      return one :: others) {items : List α} {outcomes : List β} :
    run items = .ok outcomes ↔
      List.Forall₂ (fun item outcome => step item = .ok outcome) items outcomes := by
  induction items generalizing outcomes with
  | nil => simp [stop, eq_comm]
  | cons item rest ih =>
    simp only [next, except_bind_ok, pure, Except.pure, Except.ok.injEq,
      List.forall₂_cons_left_iff, ih]
    constructor
    · rintro ⟨one, here, others, later, rfl⟩
      exact ⟨one, others, here, later, rfl⟩
    · rintro ⟨one, others, here, later, rfl⟩
      exact ⟨one, here, others, later, rfl⟩

/-- A step taken on one element after another fails as it does on the first element where it fails.
-/
theorem each_error (step : α → Except ε β) (run : List α → Except ε (List β))
    (stop : run [] = .ok [])
    (next : ∀ first rest, run (first :: rest) = do
      let one ← step first
      let others ← run rest
      return one :: others) {items : List α} {error : ε} :
    run items = .error error ↔ ∃ before item behind, items = before ++ item :: behind ∧
      (∀ other ∈ before, ∃ outcome, step other = .ok outcome) ∧ step item = .error error := by
  induction items with
  | nil => simp [stop]
  | cons item rest ih =>
    have failing : run (item :: rest) = .error error ↔ step item = .error error ∨
        (∃ one, step item = .ok one) ∧ run rest = .error error := by
      simp only [next, except_bind_error, pure, Except.pure, reduceCtorEq, and_false, exists_false,
        or_false, exists_and_right]
    rw [failing, ih]
    constructor
    · rintro (here | ⟨passes, before, later, behind, rfl, pass, fails⟩)
      · exact ⟨[], item, rest, rfl, nofun, here⟩
      · exact ⟨item :: before, later, behind, rfl, List.forall_mem_cons.mpr ⟨passes, pass⟩, fails⟩
    · rintro ⟨before, later, behind, parted, pass, fails⟩
      cases before with
      | nil =>
        cases parted
        exact .inl fails
      | cons first before =>
        cases parted
        obtain ⟨here, others⟩ := List.forall_mem_cons.mp pass
        exact .inr ⟨here, before, later, behind, rfl, others, fails⟩

namespace Filter

/-- Induction over filters. A combination may use the fact for each of its conditions. -/
@[elab_as_elim, induction_eliminator]
theorem by_parts {motive : Filter → Prop}
    (compare : ∀ field comparison value, motive (.compare field comparison value))
    (oneOf : ∀ field values, motive (.oneOf field values))
    (between : ∀ field low high, motive (.between field low high))
    (group : ∀ combinator conditions, (∀ condition ∈ conditions, motive condition) →
      motive (.group combinator conditions))
    (not : ∀ condition, motive condition → motive (.not condition)) (filter : Filter) :
    motive filter :=
  Filter.rec (motive_1 := motive)
    (motive_2 := fun conditions => ∀ condition ∈ conditions, motive condition)
    compare oneOf between group not (fun _ member => nomatch member)
    (fun _ _ head tail => List.forall_mem_cons.mpr ⟨head, tail⟩) filter

theorem holds_all_iff (document : Document) (conditions : List Filter) :
    holdsAll document conditions = true ↔
      ∀ condition ∈ conditions, condition.holds document = true := by
  induction conditions with
  | nil => simp [holdsAll]
  | cons condition rest ih => simp [holdsAll, ih]

theorem holds_some_iff (document : Document) (conditions : List Filter) :
    holdsSome document conditions = true ↔
      ∃ condition ∈ conditions, condition.holds document = true := by
  induction conditions with
  | nil => simp [holdsSome]
  | cons condition rest ih => simp [holdsSome, ih]

/-- A list of conditions passes the check when each of them does. -/
theorem check_all_ok (conditions : List Filter) :
    checkAll conditions = .ok () ↔ ∀ condition ∈ conditions, condition.check = .ok () := by
  induction conditions with
  | nil => simp [checkAll]
  | cons condition rest ih => simp [checkAll, except_then_ok, ih]

theorem require_literals_ok (operator field : String) (values : List Value) :
    requireLiterals operator field values = .ok () ↔
      ∀ value ∈ values, requireLiteral operator field value = .ok () := by
  induction values with
  | nil => simp [requireLiterals]
  | cons value rest ih => simp [requireLiterals, except_then_ok, ih]

/-- A filter that passes its check has a predicate, and it is the filter's meaning. -/
theorem predicate_of_check {filter : Filter} (valid : filter.check = .ok ()) :
    filter.predicate = .ok fun document => filter.holds document := by
  simp [predicate, valid, bind, Except.bind, pure, Except.pure]

/-! ## Parts -/

/-- A filter that stands in another, below some number of combinations and negations. It is
reversed if an odd number of these are negations. -/
inductive Stands (part : Filter) : Nat → Bool → Filter → Prop where
  | here : Stands part 0 false part
  | condition (member : condition ∈ conditions) (inside : Stands part above reversed condition) :
      Stands part (above + 1) reversed (.group combinator conditions)
  | negation (inside : Stands part above reversed condition) :
      Stands part (above + 1) (!reversed) (.not condition)

/-- Whether a filter tests a field and is no combination or negation of others. -/
def isTest : Filter → Bool
  | .compare .. | .oneOf .. | .between .. => true
  | .group .. | .not _ => false

/-- The values that a filter compares its field with; combinations and negations have none of
their own. -/
def operands : Filter → List Value
  | .compare _ _ value => [value]
  | .oneOf _ values => values
  | .between _ low high => [low, high]
  | .group .. | .not _ => []

/-- The field that a filter tests; combinations and negations test none of their own. -/
def field? : Filter → Option String
  | .compare field .. | .oneOf field _ | .between field .. => some field
  | .group .. | .not _ => none

section
variable {property : Filter → Nat → Bool → Prop}

/-- A test is its only part. -/
theorem forall_stands_test {test : Filter} (single : test.isTest = true) :
    (∀ part above reversed, Stands part above reversed test → property part above reversed) ↔
      property test 0 false := by
  constructor
  · intro each
    exact each _ _ _ .here
  · intro self part above reversed stands
    cases stands with
    | here => exact self
    | condition member inside => cases single
    | negation inside => cases single

/-- What holds of all parts of a combination holds of itself and of all parts of its
conditions. -/
theorem forall_stands_group :
    (∀ part above reversed, Stands part above reversed (.group combinator conditions) →
      property part above reversed) ↔
      property (.group combinator conditions) 0 false ∧ ∀ condition ∈ conditions,
        ∀ part above reversed, Stands part above reversed condition →
          property part (above + 1) reversed := by
  constructor
  · intro each
    exact ⟨each _ _ _ .here, fun condition member part above reversed inside =>
      each _ _ _ (.condition member inside)⟩
  · rintro ⟨self, each⟩ part above reversed stands
    cases stands with
    | here => exact self
    | condition member inside => exact each _ member _ _ _ inside

/-- What holds of all parts of a negation holds of itself and of all parts of its condition, of
these with the opposite sign. -/
theorem forall_stands_not :
    (∀ part above reversed, Stands part above reversed (.not condition) →
      property part above reversed) ↔
      property (.not condition) 0 false ∧
        ∀ part above reversed, Stands part above reversed condition →
          property part (above + 1) (!reversed) := by
  constructor
  · intro each
    exact ⟨each _ _ _ .here, fun part above reversed inside => each _ _ _ (.negation inside)⟩
  · rintro ⟨self, each⟩ part above reversed stands
    cases stands with
    | here => exact self
    | negation inside => exact each _ _ _ inside

end

/-- The parts of a filter that passes its check pass theirs. -/
theorem check_of_stands {part filter : Filter} (stands : part.Stands above reversed filter)
    (valid : filter.check = .ok ()) : part.check = .ok () := by
  induction stands with
  | here => exact valid
  | condition member _ ih =>
    rw [check, check_all_ok] at valid
    exact ih (valid _ member)
  | negation _ ih => exact ih valid

end Filter

end SearchIndex
