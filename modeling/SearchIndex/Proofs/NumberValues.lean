import Mathlib.Algebra.Order.Field.Rat
import Mathlib.Order.Compare
import Mathlib.Tactic.Linarith
import Mathlib.Tactic.Positivity
import SearchIndex.Proofs.NumberOrder
import SearchIndex.Proofs.OrderTests

/-! Numbers compared by their exact values. A whole number is rounded to a double before it is
compared with a double, and one past the signed range before it is compared with anything. Rounding
keeps the order, so it can only make numbers equal that are not, and it does so exactly where they
round to one double. -/
namespace SearchIndex

namespace Double

/-- The exact value. -/
def value (d : Double) : ℚ :=
  (if d.negative then -1 else 1) * (d.mantissa * 2 ^ d.exponent) / 2 ^ 1074

theorem value_eq (d : Double) : d.value = d.steps / 2 ^ 1074 := by
  have size : (d.magnitude : ℚ) = d.mantissa * 2 ^ d.exponent := by
    rw [magnitude, Nat.shiftLeft_eq]
    push_cast
    rfl
  rw [value, steps, ← size]
  cases d.negative <;> simp

/-! ## Rounding against a double -/

theorem shift_le_iff (bits : Nat) : m <<< bits ≤ n <<< bits ↔ m ≤ n := by
  rw [Nat.shiftLeft_eq, Nat.shiftLeft_eq]
  exact Nat.mul_le_mul_right_iff (Nat.two_pow_pos bits)

/-- A double is a multiple of a power of two or too small for a mantissa of 53 bits above it. -/
theorem multiple_or_small (d : Double) (bits : Nat) :
    (∃ units, d.magnitude = units <<< bits) ∨ d.magnitude < 4503599627370496 <<< bits := by
  by_cases long : bits ≤ d.exponent
  · obtain ⟨more, shift⟩ := Nat.exists_eq_add_of_le' long
    exact .inl ⟨d.mantissa <<< more, by rw [magnitude, shift, Nat.shiftLeft_add]⟩
  · right
    rw [magnitude, Nat.shiftLeft_eq, Nat.shiftLeft_eq]
    calc d.mantissa * 2 ^ d.exponent
      _ < 9007199254740992 * 2 ^ d.exponent :=
        Nat.mul_lt_mul_of_pos_right d.mantissa_lt (Nat.two_pow_pos _)
      _ = 4503599627370496 * 2 ^ (d.exponent + 1) := by rw [Nat.pow_succ]; omega
      _ ≤ 4503599627370496 * 2 ^ bits :=
        Nat.mul_le_mul_left _ (Nat.pow_le_pow_right (by decide) (by omega))

theorem round_magnitude_exact (kept : excessBits n = 0) : roundMagnitude n = n := by
  have whole := round_div_shifted n 0
  simpa [roundMagnitude, kept] using whole

/-- Where rounding cuts off bits, 53 bits are left. -/
theorem long_of_excess (cut : excessBits n ≠ 0) : 4503599627370496 <<< excessBits n ≤ n := by
  obtain ⟨bits, more⟩ := Nat.exists_eq_succ_of_ne_zero cut
  have long : 9007199254740992 <<< bits ≤ n := le_of_excess (by omega)
  have same : 4503599627370496 <<< excessBits n = 9007199254740992 <<< bits := by
    rw [more, Nat.shiftLeft_eq, Nat.shiftLeft_eq, Nat.pow_succ]
    omega
  rwa [same]

theorem long_of_rounded (cut : excessBits n ≠ 0) :
    4503599627370496 <<< excessBits n ≤ roundMagnitude n := by
  have rounded := round_div_mono (1 <<< excessBits n) (long_of_excess cut)
  rw [round_div_shifted] at rounded
  exact shift_mono _ rounded

/-- Rounding a whole number does not bring it past a double above it. -/
theorem round_magnitude_le {d : Double} (le : n <<< 1074 ≤ d.magnitude) :
    roundMagnitude n <<< 1074 ≤ d.magnitude := by
  by_cases kept : excessBits n = 0
  · rwa [round_magnitude_exact kept]
  -- What is rounded to is a multiple of the unit, and so is the double, unless it is too small.
  · rcases d.multiple_or_small (excessBits n + 1074) with ⟨units, multiple⟩ | small
    · rw [multiple, Nat.shiftLeft_add, shift_le_iff] at le ⊢
      have rounded := round_div_mono (1 <<< excessBits n) le
      rw [round_div_shifted] at rounded
      exact shift_mono _ rounded
    · rw [Nat.shiftLeft_add] at small
      have large := shift_mono 1074 (long_of_excess kept)
      omega

/-- Rounding a whole number does not bring it past a double below it. -/
theorem le_round_magnitude {d : Double} (le : d.magnitude ≤ n <<< 1074) :
    d.magnitude ≤ roundMagnitude n <<< 1074 := by
  by_cases kept : excessBits n = 0
  · rwa [round_magnitude_exact kept]
  · rcases d.multiple_or_small (excessBits n + 1074) with ⟨units, multiple⟩ | small
    · rw [multiple, Nat.shiftLeft_add, shift_le_iff] at le ⊢
      have rounded := round_div_mono (1 <<< excessBits n) le
      rw [round_div_shifted] at rounded
      exact shift_mono _ rounded
    · rw [Nat.shiftLeft_add] at small
      exact Nat.le_trans (Nat.le_of_lt small) (shift_mono 1074 (long_of_rounded kept))

end Double

/-- A magnitude with a sign. -/
def signed (negative : Bool) (magnitude : Nat) : Int :=
  if negative then -(magnitude : Int) else magnitude

/-- What keeps the order of two magnitudes and keeps zeros keeps their order with signs. -/
theorem signed_mono {first last : Bool} (zero : m = 0 → m' = 0) (up : m ≤ n → m' ≤ n')
    (down : n ≤ m → n' ≤ m') (le : signed first m ≤ signed last n) :
    signed first m' ≤ signed last n' := by
  cases first <;> cases last <;> simp only [signed] at le ⊢ <;> grind

/-- A whole number of units as a number of steps. -/
-- Sealed: a shift that is computed leaves numbers of a thousand bits in the goals.
@[irreducible]
def inSteps (units : Nat) : Nat := units <<< 1074

theorem in_steps_eq (units : Nat) : inSteps units = units <<< 1074 := by
  unfold inSteps
  rfl

theorem shift_value (units bits : Nat) : ((units <<< bits : Nat) : ℚ) / 2 ^ bits = units := by
  rw [Nat.shiftLeft_eq, Nat.cast_mul, Nat.cast_pow, Nat.cast_ofNat]
  exact mul_div_cancel_right₀ _ (pow_ne_zero _ two_ne_zero)

theorem in_steps_value (units : Nat) : (inSteps units : ℚ) / 2 ^ 1074 = units := by
  rw [in_steps_eq]
  exact shift_value units 1074

namespace Number

/-- The exact value. -/
def value : Number → ℚ
  | .integer value _ => value
  | .double d => d.value

/-- Whether there is a sign. -/
def isNegative : Number → Bool
  | .integer value _ => value < 0
  | .double d => d.negative

/-- The exact magnitude in steps. -/
def magnitude : Number → Nat
  | .integer value _ => inSteps value.natAbs
  | .double d => d.magnitude

/-- The magnitude of the nearest double in steps. -/
def rounded : Number → Nat
  | .integer value _ => inSteps (Double.roundMagnitude value.natAbs)
  | .double d => d.magnitude

theorem value_eq (number : Number) :
    number.value = signed number.isNegative number.magnitude / 2 ^ 1074 := by
  cases number with
  | integer whole bounds =>
    have size := in_steps_value whole.natAbs
    simp only [value, isNegative, magnitude, signed, decide_eq_true_eq]
    split
    · have opposite : ((whole.natAbs : Nat) : Int) = -whole := by omega
      rw [Int.cast_neg, Int.cast_natCast, neg_div, size, ← Int.cast_natCast, opposite, Int.cast_neg,
        neg_neg]
    · have same : ((whole.natAbs : Nat) : Int) = whole := by omega
      rw [Int.cast_natCast, size, ← Int.cast_natCast, same]
  | double d => exact d.value_eq

theorem steps_eq (number : Number) : number.steps = signed number.isNegative number.rounded := by
  cases number with
  | integer whole bounds =>
    simp only [steps, isNegative, rounded, in_steps_eq, integerSteps]
    generalize Double.roundMagnitude whole.natAbs <<< 1074 = magnitude
    simp [signed]
  | double d => rfl

theorem rounded_mono {a b : Number} (le : a.magnitude ≤ b.magnitude) : a.rounded ≤ b.rounded := by
  cases a with
  | integer x _ =>
    cases b with
    | integer y _ =>
      simp only [magnitude, rounded, in_steps_eq, Double.shift_le_iff] at le ⊢
      exact Double.round_magnitude_mono le
    | double e =>
      simp only [magnitude, rounded, in_steps_eq] at le ⊢
      exact Double.round_magnitude_le le
  | double d =>
    cases b with
    | integer y _ =>
      simp only [magnitude, rounded, in_steps_eq] at le ⊢
      exact Double.le_round_magnitude le
    | double e => exact le

theorem rounded_zero {number : Number} (zero : number.magnitude = 0) : number.rounded = 0 := by
  cases number with
  | integer whole bounds =>
    rw [magnitude, in_steps_eq, ← Nat.zero_shiftLeft 1074] at zero
    have none : whole.natAbs = 0 := Nat.le_zero.mp ((Double.shift_le_iff 1074).mp zero.le)
    rw [rounded, in_steps_eq, none]
    rfl
  | double d => exact zero

/-- Rounding keeps the order. -/
theorem steps_mono {a b : Number} (le : a.value ≤ b.value) : a.steps ≤ b.steps := by
  -- The values and the roundings have the same signs, so that magnitudes are left to compare.
  rw [value_eq, value_eq, div_le_div_iff_of_pos_right (pow_pos two_pos _), Int.cast_le] at le
  rw [steps_eq, steps_eq]
  exact signed_mono rounded_zero rounded_mono rounded_mono le

/-! ## Order -/

/-- Two numbers have different values, but one is compared with the other after rounding and they
round to one double. -/
structure Blurs (a b : Number) : Prop where
  apart : a.value ≠ b.value
  alike : a.steps = b.steps
  coarse : a.toSigned? = none ∨ b.toSigned? = none

theorem value_of_signed {number : Number} (signed : number.toSigned? = some whole) :
    number.value = whole := by
  cases number with
  | integer value bounds =>
    simp only [toSigned?] at signed
    split at signed <;> cases signed
    rfl
  | double => cases signed

/-- Numbers of one value are equal. -/
theorem order_of_same {a b : Number} (same : a.value = b.value) : a.order b = .eq := by
  rw [order_of_rounded (le_antisymm (steps_mono same.le) (steps_mono same.ge)), compareRead]
  cases left : a.toSigned? with
  | none => rfl
  | some x =>
    cases right : b.toSigned? with
    | none => rfl
    | some y =>
      rw [value_of_signed left, value_of_signed right, Int.cast_inj] at same
      exact Int.compare_eq_eq.mpr same

/-- A number that is less comes first, unless rounding makes it equal. -/
theorem order_of_less {a b : Number} (less : a.value < b.value) :
    a.order b = .lt ∧ ¬ a.Blurs b ∨ a.order b = .eq ∧ a.Blurs b := by
  rcases (steps_mono less.le).lt_or_eq with apart | alike
  · left
    refine ⟨?_, fun blurs => apart.ne blurs.alike⟩
    rw [order_eq, Int.compare_eq_lt.mpr apart]
    rfl
  · rw [order_of_rounded alike, compareRead]
    cases left : a.toSigned? with
    | none => exact .inr ⟨rfl, less.ne, alike, .inl left⟩
    | some x =>
      cases right : b.toSigned? with
      | none => exact .inr ⟨rfl, less.ne, alike, .inr right⟩
      | some y =>
        left
        refine ⟨?_, fun blurs => ?_⟩
        · rw [value_of_signed left, value_of_signed right, Int.cast_lt] at less
          exact Int.compare_eq_lt.mpr less
        · rcases blurs.coarse with none | none
          · cases left.symm.trans none
          · cases right.symm.trans none

theorem blurs_symm (blurs : Blurs a b) : Blurs b a :=
  ⟨blurs.apart.symm, blurs.alike.symm, blurs.coarse.symm⟩

/-- Numbers that rounding makes equal are equal, and all others are in the order of their values. -/
theorem order_cases (a b : Number) :
    a.order b = compare a.value b.value ∧ ¬ a.Blurs b ∨
      a.order b = .eq ∧ a.Blurs b := by
  rcases lt_trichotomy a.value b.value with less | same | greater
  · rw [compare_lt_iff_lt.mpr less]
    exact order_of_less less
  · rw [compare_eq_iff_eq.mpr same]
    exact .inl ⟨order_of_same same, fun blurs => blurs.apart same⟩
  · rw [compare_gt_iff_gt.mpr greater, order_swap]
    rcases order_of_less greater with ⟨first, sharp⟩ | ⟨equal, blurs⟩
    · exact .inl ⟨congrArg Ordering.swap first, mt blurs_symm sharp⟩
    · exact .inr ⟨congrArg Ordering.swap equal, blurs_symm blurs⟩

/-- Numbers are told to be equal where they have one value or rounding makes them equal. -/
theorem order_eq_iff (a b : Number) : a.order b = .eq ↔ a.value = b.value ∨ a.Blurs b := by
  rcases order_cases a b with ⟨first, sharp⟩ | ⟨equal, blurs⟩
  · rw [first, compare_eq_iff_eq, or_iff_left sharp]
  · exact iff_of_true equal (.inr blurs)

theorem rounded_small {number : Number} (small : |number.value| < 9007199254740992) :
    number.rounded = number.magnitude := by
  cases number with
  | integer whole bounds =>
    have short : whole.natAbs < 9007199254740992 := by
      rw [value] at small
      have bounds : -9007199254740992 < whole ∧ whole < 9007199254740992 :=
        abs_lt.mp (by exact_mod_cast small)
      omega
    have kept : Double.excessBits whole.natAbs = 0 := by
      by_contra cut
      have long := Double.long_of_excess cut
      have unit : 2 ^ 1 ≤ 2 ^ Double.excessBits whole.natAbs :=
        Nat.pow_le_pow_right (by decide) (Nat.pos_of_ne_zero cut)
      rw [Nat.shiftLeft_eq] at long
      omega
    rw [rounded, magnitude, Double.round_magnitude_exact kept]
  | double d => rfl

/-- Rounding makes no numbers equal that are less than `2^53` from zero. -/
theorem not_blurs_small {a b : Number} (small : |a.value| < 9007199254740992)
    (small' : |b.value| < 9007199254740992) : ¬ a.Blurs b := by
  intro blurs
  have alike := blurs.alike
  rw [steps_eq, steps_eq, rounded_small small, rounded_small small'] at alike
  exact blurs.apart (by rw [value_eq, value_eq, alike])

end Number

/-! ## Tests -/

/-- The numbers that a field offers to a test. -/
def offeredNumbers (found : Option Value) : List Number :=
  (offered found).filterMap fun
    | .number n => some n
    | _ => none

theorem mem_offered_numbers : n ∈ offeredNumbers found ↔ .number n ∈ offered found := by
  rw [offeredNumbers, List.mem_filterMap]
  constructor
  · rintro ⟨value, member, known⟩
    cases value with
    | number m =>
      cases known
      exact member
    | _ => cases known
  · exact fun member => ⟨_, member, rfl⟩

/-- A test that only numbers pass is a test of the numbers that are offered. -/
theorem offers_numbers_iff {test : Value → Bool}
    (numeric : ∀ value, test value = true → ∃ n, value = .number n) :
    offers test found = true ↔ ∃ n ∈ offeredNumbers found, test (.number n) = true := by
  rw [offers_iff]
  constructor
  · rintro ⟨value, member, passed⟩
    obtain ⟨n, rfl⟩ := numeric value passed
    exact ⟨n, mem_offered_numbers.mpr member, passed⟩
  · rintro ⟨n, member, passed⟩
    exact ⟨.number n, mem_offered_numbers.mp member, passed⟩

theorem number_of_equal {value : Value} (equal : value.equal (.number m) = true) :
    ∃ n, value = .number n := by
  cases value with
  | number n => exact ⟨n, rfl⟩
  | _ => simp [Value.equal, Value.same] at equal

theorem number_of_relates {comparison : Comparison} {value : Value}
    (related : comparison.relates value (.number m) = true) : ∃ n, value = .number n := by
  cases value with
  | number n => exact ⟨n, rfl⟩
  | _ => cases related

/-- What a comparison says of two exact values. -/
def Comparison.Means : Comparison → ℚ → ℚ → Prop
  | .eq, x, y => x = y
  | .ne, x, y => x ≠ y
  | .lt, x, y => x < y
  | .le, x, y => x ≤ y
  | .gt, x, y => y < x
  | .ge, x, y => y ≤ x

theorem accepts_compare_iff (comparison : Comparison) (x y : ℚ) :
    comparison.accepts (compare x y) = true ↔ comparison.Means x y := by
  cases comparison with
  | eq => simp [Comparison.accepts, Comparison.Means]
  | ne => simp [Comparison.accepts, Comparison.Means]
  | lt => simp [Comparison.accepts, Comparison.Means, compare_lt_iff_lt]
  | le => simp [Comparison.accepts, Comparison.Means, compare_le_iff_le]
  | gt => simp [Comparison.accepts, Comparison.Means, compare_gt_iff_gt]
  | ge => simp [Comparison.accepts, Comparison.Means, compare_ge_iff_ge]

/-- A test of a field against numbers. -/
inductive NumericTest where
  | compare (comparison : Comparison) (literal : Number)
  | oneOf (literals : List Number)
  | between (low high : Number)

namespace NumericTest

/-- The numbers that the field is compared with. -/
def literals : NumericTest → List Number
  | .compare _ literal => [literal]
  | .oneOf literals => literals
  | .between low high => [low, high]

/-- The test as a filter. -/
def toFilter (field : String) : NumericTest → Filter
  | .compare comparison literal => .compare field comparison (.number literal)
  | .oneOf literals => .oneOf field (literals.map .number)
  | .between low high => .between field (.number low) (.number high)

/-- What the test says of the exact values of some numbers: all of them differ from the literal, or
one of them stands to the literals as the test asks. -/
def Means (numbers : List Number) : NumericTest → Prop
  | .compare .ne literal => ∀ n ∈ numbers, n.value ≠ literal.value
  | .compare comparison literal => ∃ n ∈ numbers, comparison.Means n.value literal.value
  | .oneOf literals => ∃ n ∈ numbers, ∃ literal ∈ literals, n.value = literal.value
  | .between low high => ∃ n ∈ numbers, low.value ≤ n.value ∧ n.value ≤ high.value

end NumericTest

section
variable {n m : Number}

theorem equal_of_sharp (sharp : ¬ n.Blurs m) :
    (Value.number n).equal (.number m) = true ↔ n.value = m.value := by
  rw [Value.equal, beq_iff_eq, Number.order_eq_iff, or_iff_left sharp]

theorem relates_of_sharp (sharp : ¬ n.Blurs m) (comparison : Comparison) :
    comparison.relates (.number n) (.number m) = true ↔ comparison.Means n.value m.value := by
  rw [← accepts_compare_iff]
  rcases n.order_cases m with ⟨first, -⟩ | ⟨-, blurs⟩
  · rw [← first]
    rfl
  · exact absurd blurs sharp

end

/-- A test that meets no number which rounding makes equal to a literal holds by exact values. -/
theorem numeric_test_holds {field : String} {test : NumericTest}
    (sharp : ∀ n ∈ offeredNumbers (document.get? field), ∀ m ∈ test.literals, ¬ n.Blurs m) :
    (test.toFilter field).holds document = true ↔
      test.Means (offeredNumbers (document.get? field)) := by
  cases test with
  | compare comparison literal =>
    have sharp_literal : ∀ n ∈ offeredNumbers (document.get? field), ¬ n.Blurs literal :=
      fun n member => sharp n member literal (List.mem_singleton_self literal)
    have equal_iff : offers (fun value => value.equal (.number literal)) (document.get? field) =
        true ↔ ∃ n ∈ offeredNumbers (document.get? field), n.value = literal.value := by
      rw [offers_numbers_iff fun _ => number_of_equal]
      exact exists_congr fun n => and_congr_right fun member =>
        equal_of_sharp (sharp_literal n member)
    have relates_iff (comparison : Comparison) :
        offers (fun value => comparison.relates value (.number literal)) (document.get? field) =
          true ↔ ∃ n ∈ offeredNumbers (document.get? field),
            comparison.Means n.value literal.value := by
      rw [offers_numbers_iff fun _ => number_of_relates]
      exact exists_congr fun n => and_congr_right fun member =>
        relates_of_sharp (sharp_literal n member) comparison
    cases comparison with
    | eq => exact equal_iff
    | ne =>
      change (!offers _ _) = true ↔ _
      rw [Bool.not_eq_true', ← Bool.not_eq_true, equal_iff]
      simp [NumericTest.Means]
    | lt => exact relates_iff .lt
    | le => exact relates_iff .le
    | gt => exact relates_iff .gt
    | ge => exact relates_iff .ge
  | oneOf literals =>
    change offers (fun value => (literals.map Value.number).any fun literal =>
      value.equal literal) (document.get? field) = true ↔ _
    rw [offers_numbers_iff]
    · refine exists_congr fun n => and_congr_right fun member => ?_
      rw [List.any_map, List.any_eq_true]
      exact exists_congr fun literal => and_congr_right fun choice =>
        equal_of_sharp (sharp n member literal choice)
    · intro value passed
      rw [List.any_map, List.any_eq_true] at passed
      obtain ⟨literal, -, equal⟩ := passed
      exact number_of_equal equal
  | between low high =>
    change offers (fun value => Comparison.ge.relates value (.number low) &&
      Comparison.le.relates value (.number high)) (document.get? field) = true ↔ _
    rw [offers_numbers_iff fun value passed => number_of_relates (Bool.and_elim_left passed)]
    refine exists_congr fun n => and_congr_right fun member => ?_
    rw [Bool.and_eq_true,
      relates_of_sharp (sharp n member low (by simp [NumericTest.literals])) .ge,
      relates_of_sharp (sharp n member high (by simp [NumericTest.literals])) .le]
    rfl

/-- Two numbers are always in some order, which is that of their exact values unless they differ
and round to one double though not both are whole and of the signed range; then they are told to be
equal. So a test of a field against numbers holds by exact values unless it meets such a pair, and
there is none less than `2^53` from zero. -/
theorem numbers_compare_by_value (a b : Number) :
    (∃ order, (Value.number a).order? (.number b) = some order ∧
      (order = compare a.value b.value ↔ ¬ a.Blurs b) ∧ (a.Blurs b → order = .eq)) ∧
    ((Value.number a).equal (.number b) = true ↔ a.value = b.value ∨ a.Blurs b) ∧
    (|a.value| < 9007199254740992 → |b.value| < 9007199254740992 → ¬ a.Blurs b) ∧
    ∀ (document : Document) (field : String) (test : NumericTest),
      (∀ n ∈ offeredNumbers (document.get? field), ∀ m ∈ test.literals, ¬ n.Blurs m) →
        ((test.toFilter field).holds document = true ↔
          test.Means (offeredNumbers (document.get? field))) := by
  refine ⟨⟨a.order b, rfl, ?_, ?_⟩, ?_, Number.not_blurs_small,
    fun document field test => numeric_test_holds⟩
  · rcases a.order_cases b with ⟨first, sharp⟩ | ⟨equal, blurs⟩
    · exact iff_of_true first sharp
    · rw [equal]
      exact iff_of_false (fun same => blurs.apart (compare_eq_iff_eq.mp same.symm))
        (not_not_intro blurs)
  · exact fun blurs => (a.order_eq_iff b).mpr (.inr blurs)
  · rw [Value.equal, beq_iff_eq, Number.order_eq_iff]

/-- The greatest whole number of the signed range. -/
private def greatestSigned : Number := .integer 9223372036854775807 (by decide)

/-- The whole number behind it. -/
private def leastBeyond : Number := .integer 9223372036854775808 (by decide)

/-- The greatest whole number of the signed range and the next one have different values, but are
told to be equal, and a document with the one passes a test for the other. -/
theorem numbers_blurred :
    greatestSigned.value ≠ leastBeyond.value ∧
      (Value.number leastBeyond).order? (.number greatestSigned) = some .eq ∧
      (Value.number leastBeyond).equal (.number greatestSigned) = true ∧
      ((NumericTest.compare .eq greatestSigned).toFilter "price").holds
        (.ofId "a" [("price", .number leastBeyond)]) = true := by
  refine ⟨?_, by decide +kernel, by decide +kernel, by decide +kernel⟩
  simp [greatestSigned, leastBeyond, Number.value]

-- So it is within the signed range for the double that a whole number is rounded to.
example : (Value.number (.integer 9007199254740993 (by decide))).equal
    (.number (.double ⟨false, 4503599627370496, 1075, by decide, .inr (by decide), by decide⟩)) =
      true := by
  decide +kernel

end SearchIndex
