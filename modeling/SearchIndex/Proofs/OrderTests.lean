import SearchIndex.Proofs.FormulaReading

/-! Tests that ask for order, and what becomes of them where a language cannot negate. Such a test
has another side: the comparison that accepts what it rejects, or the two ends that a range leaves
out. Both sides are asked of the values that a field offers, so the other side is the negation only
where these lie on exactly one of the two. -/
namespace SearchIndex

/-- Whether a value is ordered with a literal and compares so with it. -/
def Comparison.relates (comparison : Comparison) (value literal : Value) : Bool :=
  match value.order? literal with
  | some order => comparison.accepts order
  | none => false

/-- Whether a comparison asks for order and not only for equality. -/
def Comparison.isOrdering : Comparison → Bool
  | .eq | .ne => false
  | .lt | .le | .gt | .ge => true

/-- A test of one field that asks for order. -/
inductive OrderTest where
  | compare (field : String) (comparison : Comparison) (value : Value)
  | between (field : String) (low high : Value)

namespace OrderTest

/-- The field that is tested. -/
def field : OrderTest → String
  | .compare field _ _ => field
  | .between field _ _ => field

/-- What the field is compared with. -/
def literals : OrderTest → List Value
  | .compare _ _ value => [value]
  | .between _ low high => [low, high]

/-- Whether a value lies on the side that the test asks for. -/
def accepts : OrderTest → Value → Bool
  | .compare _ comparison literal, value => comparison.relates value literal
  | .between _ low high, value =>
    Comparison.ge.relates value low && Comparison.le.relates value high

/-- Whether a value lies on the other side. -/
def rejects : OrderTest → Value → Bool
  | .compare _ comparison literal, value => comparison.complement.relates value literal
  | .between _ low high, value =>
    Comparison.lt.relates value low || Comparison.gt.relates value high

/-- Whether a document passes the test. -/
def holds (document : Document) (test : OrderTest) : Bool :=
  offers test.accepts (document.get? test.field)

/-- Whether a document passes the test for the other side. -/
def opposite (document : Document) (test : OrderTest) : Bool :=
  offers test.rejects (document.get? test.field)

/-- The values that a document offers to the test lie on exactly one of its sides. -/
def IsSettled (document : Document) (test : OrderTest) : Prop :=
  (∃ value ∈ offered (document.get? test.field), test.accepts value = true) ↔
    ¬ ∃ value ∈ offered (document.get? test.field), test.rejects value = true

/-- The test as a filter. -/
def toFilter : OrderTest → Filter
  | .compare field comparison value => .compare field comparison value
  | .between field low high => .between field low high

end OrderTest

namespace Filter

mutual

/-- The tests for order in a filter that stand under an odd number of negations, counting one more
around the filter if it is negated. -/
def reversedTests (negated : Bool) : Filter → List OrderTest
  | .compare field comparison value =>
    if negated && comparison.isOrdering then [.compare field comparison value] else []
  | .oneOf .. => []
  | .between field low high => if negated then [.between field low high] else []
  | .group _ conditions => reversedTestsOfAll negated conditions
  | .not condition => reversedTests (!negated) condition

/-- The tests for order in some filters that stand under an odd number of negations. -/
def reversedTestsOfAll (negated : Bool) : List Filter → List OrderTest
  | [] => []
  | condition :: rest => reversedTests negated condition ++ reversedTestsOfAll negated rest

end

theorem mem_reversed_of_condition {conditions : List Filter} (member : condition ∈ conditions)
    (inside : test ∈ condition.reversedTests negated) :
    test ∈ (Filter.group combinator conditions).reversedTests negated := by
  rw [reversedTests]
  induction conditions with
  | nil => cases member
  | cons first rest ih =>
    rw [reversedTestsOfAll, List.mem_append]
    rcases List.mem_cons.mp member with rfl | later
    · exact .inl inside
    · exact .inr (ih later)

end Filter

namespace OrderTest

/-! ## The two sides -/

theorem compare_holds {comparison : Comparison} (ordering : comparison.isOrdering = true)
    (literal : Value) (found : Option Value) :
    comparison.holds literal found =
      offers (fun value => comparison.relates value literal) found := by
  cases comparison with
  | eq | ne => cases ordering
  | lt | le | gt | ge => rfl

/-- Asking for something below a range or something above it is one test for its other side. -/
theorem split_range_opposite (low high : Value) (found : Option Value) :
    (Comparison.lt.holds low found || Comparison.gt.holds high found) = offers
      (fun value => Comparison.lt.relates value low || Comparison.gt.relates value high) found := by
  rw [compare_holds rfl, compare_holds rfl, Bool.eq_iff_iff]
  simp only [Bool.or_eq_true, offers_iff]
  constructor
  · rintro (⟨value, inside, below⟩ | ⟨value, inside, above⟩)
    · exact ⟨value, inside, .inl below⟩
    · exact ⟨value, inside, .inr above⟩
  · rintro ⟨value, inside, below | above⟩
    · exact .inl ⟨value, inside, below⟩
    · exact .inr ⟨value, inside, above⟩

theorem complement_accepts (comparison : Comparison) (order : Ordering) :
    comparison.complement.accepts order = !comparison.accepts order := by
  cases comparison <;> cases order <;> rfl

theorem not_relates_of_complement (comparison : Comparison)
    (related : comparison.complement.relates value literal = true) :
    comparison.relates value literal = false := by
  unfold Comparison.relates at related ⊢
  cases known : value.order? literal with
  | none => rfl
  | some order =>
    rw [known] at related
    simpa [complement_accepts] using related

theorem complement_relates_of_ordered (comparison : Comparison) {value literal : Value}
    (ordered : (value.order? literal).isSome) :
    comparison.complement.relates value literal = !comparison.relates value literal := by
  obtain ⟨order, known⟩ := Option.isSome_iff_exists.mp ordered
  simp only [Comparison.relates, known, complement_accepts]

/-- No value lies on both sides of a test. -/
theorem not_accepts_of_rejects {test : OrderTest} (rejected : test.rejects value = true) :
    test.accepts value = false := by
  cases test with
  | compare field comparison literal => exact not_relates_of_complement comparison rejected
  | between field low high =>
    rw [rejects, Bool.or_eq_true] at rejected
    rw [accepts, Bool.and_eq_false_iff]
    rcases rejected with below | above
    · exact .inl (not_relates_of_complement .ge below)
    · exact .inr (not_relates_of_complement .le above)

/-- A value that is ordered with the literals lies on one of the sides. -/
theorem rejects_of_ordered {test : OrderTest}
    (ordered : ∀ literal ∈ test.literals, (value.order? literal).isSome) :
    test.rejects value = !test.accepts value := by
  cases test with
  | compare field comparison literal =>
    exact complement_relates_of_ordered comparison (ordered literal (by simp [literals]))
  | between field low high =>
    have lower := complement_relates_of_ordered .ge (ordered low (by simp [literals]))
    have upper := complement_relates_of_ordered .le (ordered high (by simp [literals]))
    simp only [Comparison.complement] at lower upper
    simp only [rejects, accepts, lower, upper, Bool.not_and]

/-- The other side is the negation exactly where the test is settled. -/
theorem opposite_eq_not_iff (document : Document) (test : OrderTest) :
    test.opposite document = !test.holds document ↔ test.IsSettled document := by
  rw [IsSettled, ← offers_iff, ← offers_iff]
  change _ ↔ (test.holds document = true ↔ ¬ test.opposite document = true)
  cases test.holds document <;> cases test.opposite document <;> simp

end OrderTest

/-! ## Documents on which negation and the other side are related -/

/-- Two scalars of one kind: numbers, strings or booleans. -/
def Value.SameKind : Value → Value → Prop
  | .number _, .number _ | .string _, .string _ | .bool _, .bool _ => True
  | _, _ => False

/-- A string, a number or a boolean. -/
def Value.IsScalar (value : Value) : Prop := value.SameKind value

theorem ordered_of_same_kind {value literal : Value} (kind : value.SameKind literal) :
    (value.order? literal).isSome := by
  cases value <;> cases literal <;> first | rfl | exact kind.elim

theorem offered_scalar {value : Value} (scalar : value.IsScalar) :
    offered (some value) = [value] := by
  cases value <;> first | rfl | exact scalar.elim

theorem scalar_of_same_kind {value literal : Value} (kind : value.SameKind literal) :
    value.IsScalar := by
  cases value <;> cases literal <;> trivial

namespace OrderTest

theorem literals_ne_nil (test : OrderTest) : ∃ literal, literal ∈ test.literals := by
  cases test with
  | compare field comparison value => exact ⟨value, by simp [literals]⟩
  | between field low high => exact ⟨low, by simp [literals]⟩

/-- A test of a scalar of the kind of its literals is settled. -/
theorem settled_of_same_kind {test : OrderTest} (present : document.get? test.field = some found)
    (kind : ∀ literal ∈ test.literals, found.SameKind literal) : test.IsSettled document := by
  obtain ⟨literal, member⟩ := test.literals_ne_nil
  have alone := offered_scalar (scalar_of_same_kind (kind literal member))
  have sides := rejects_of_ordered fun literal member => ordered_of_same_kind (kind literal member)
  rw [IsSettled, present, alone]
  simp [sides]

/-- A field that is absent or a scalar passes the test for the other side only if it fails the
test. -/
theorem not_holds_of_opposite {test : OrderTest}
    (single : ∀ found, document.get? test.field = some found → found.IsScalar)
    (other : test.opposite document = true) : test.holds document = false := by
  unfold opposite at other
  unfold holds
  cases lookup : document.get? test.field with
  | none => rfl
  | some found =>
    rw [lookup, offers_any, offered_scalar (single found lookup)] at other
    rw [offers_any, offered_scalar (single found lookup)]
    simp only [List.any_cons, List.any_nil, Bool.or_false] at other ⊢
    exact not_accepts_of_rejects other

end OrderTest

end SearchIndex
