import Mathlib.Order.Compare
import SearchIndex.Value.Order

/-! How numbers and texts compare. Rounding a whole number to a double keeps its order with others,
so numbers compare as the doubles nearest to them, and by their exact values where both are of the
signed range and round alike. Texts compare as their code points do. -/
namespace SearchIndex

/-! ## Rounding keeps the order -/

theorem round_div_mono (den : Nat) (le : m ≤ n) : roundDiv m den ≤ roundDiv n den := by
  have below (num : Nat) : num / den ≤ roundDiv num den := by
    simp only [roundDiv]
    split <;> omega
  have above (num : Nat) : roundDiv num den ≤ num / den + 1 := by
    simp only [roundDiv]
    split <;> omega
  rcases Nat.lt_or_eq_of_le (Nat.div_le_div_right (c := den) le) with less | same
  · exact Nat.le_trans (above m) (Nat.le_trans less (below n))
  · -- The quotients agree, so the remainders are ordered as the numbers are.
    have remainders : m % den ≤ n % den := by
      have first := Nat.div_add_mod m den
      have second := Nat.div_add_mod n den
      rw [same] at first
      omega
    simp only [roundDiv, same, Bool.or_eq_true, Bool.and_eq_true, decide_eq_true_eq, beq_iff_eq]
    split <;> split <;> omega

/-- Rounding does not change what is a whole number already. -/
theorem round_div_shifted (quotient bits : Nat) :
    roundDiv (quotient <<< bits) (1 <<< bits) = quotient := by
  have positive : 0 < 2 ^ bits := Nat.two_pow_pos bits
  simp only [roundDiv, Nat.shiftLeft_eq, Nat.one_mul, Nat.mul_div_cancel _ positive,
    Nat.mul_mod_left]
  exact if_neg (by simp; omega)

theorem shift_mono (bits : Nat) (le : m ≤ n) : m <<< bits ≤ n <<< bits := by
  rw [Nat.shiftLeft_eq, Nat.shiftLeft_eq]
  exact Nat.mul_le_mul_right _ le

namespace Double

/-- A magnitude has at most 53 bits besides those that rounding cuts off. -/
theorem lt_of_excess (magnitude : Nat) :
    magnitude < 9007199254740992 <<< excessBits magnitude := by
  have bits : magnitude.log2 + 1 ≤ 53 + excessBits magnitude := by
    unfold excessBits
    split
    · simp_all
    · omega
  calc magnitude
    _ < 2 ^ (magnitude.log2 + 1) := Nat.lt_log2_self
    _ ≤ 2 ^ (53 + excessBits magnitude) := Nat.pow_le_pow_right (by decide) bits
    _ = 9007199254740992 <<< excessBits magnitude := by rw [Nat.shiftLeft_eq, Nat.pow_add]

/-- A magnitude of which rounding cuts off more bits than a number has 53 more bits than that. -/
theorem le_of_excess {magnitude : Nat} (cut : bits < excessBits magnitude) :
    9007199254740992 <<< bits ≤ magnitude := by
  unfold excessBits at cut
  split at cut
  · cases cut
  · rename_i positive
    calc 9007199254740992 <<< bits
      _ = 2 ^ (53 + bits) := by rw [Nat.shiftLeft_eq, Nat.pow_add]
      _ ≤ 2 ^ magnitude.log2 := Nat.pow_le_pow_right (by decide) (by omega)
      _ ≤ magnitude := Nat.log2_self_le positive

theorem round_magnitude_mono (le : m ≤ n) : roundMagnitude m ≤ roundMagnitude n := by
  simp only [roundMagnitude]
  rcases Nat.lt_trichotomy (excessBits m) (excessBits n) with fewer | same | more
  · -- A power of two lies between the two numbers, and rounding does not move it.
    obtain ⟨bits, others⟩ : ∃ bits, excessBits n = bits + 1 := ⟨excessBits n - 1, by omega⟩
    have between : 9007199254740992 <<< bits = 4503599627370496 <<< excessBits n := by
      rw [others, Nat.shiftLeft_eq, Nat.shiftLeft_eq, Nat.pow_succ]
      omega
    have upper := round_div_mono (1 <<< excessBits m) (Nat.le_of_lt (lt_of_excess m))
    have long : 9007199254740992 <<< bits ≤ n := le_of_excess (by omega)
    rw [between] at long
    have lower := round_div_mono (1 <<< excessBits n) long
    rw [round_div_shifted] at upper lower
    calc roundDiv m (1 <<< excessBits m) <<< excessBits m
      _ ≤ 9007199254740992 <<< excessBits m := shift_mono _ upper
      _ ≤ 9007199254740992 <<< bits := by
        rw [Nat.shiftLeft_eq, Nat.shiftLeft_eq]
        exact Nat.mul_le_mul_left _ (Nat.pow_le_pow_right (by decide) (by omega))
      _ = 4503599627370496 <<< excessBits n := between
      _ ≤ roundDiv n (1 <<< excessBits n) <<< excessBits n := shift_mono _ lower
  · rw [same]
    exact shift_mono _ (round_div_mono _ le)
  · have long := le_of_excess more
    have short := lt_of_excess n
    omega

end Double

namespace Number

/-- Rounding whole numbers to doubles keeps their order. -/
theorem integer_steps_mono {x y : Int} (le : x ≤ y) : integerSteps x ≤ integerSteps y := by
  have larger {m n : Nat} (le : m ≤ n) :
      Double.roundMagnitude m <<< 1074 ≤ Double.roundMagnitude n <<< 1074 :=
    shift_mono 1074 (Double.round_magnitude_mono le)
  simp only [integerSteps]
  split <;> split
  · have := larger (show y.natAbs ≤ x.natAbs by omega)
    omega
  · omega
  · omega
  · have := larger (show x.natAbs ≤ y.natAbs by omega)
    omega

end Number

/-! ## Comparing in two steps -/

/-- What can be read from two items compares them; where nothing can be read from one of them they
are not told apart. -/
def compareRead [Ord β] (read : α → Option β) (a b : α) : Ordering :=
  match read a, read b with
  | some x, some y => compare x y
  | _, _ => .eq

section
variable [Ord β] {read : α → Option β} {a b c : α}

theorem compare_read_swap [Std.OrientedOrd β] :
    compareRead read b a = (compareRead read a b).swap := by
  unfold compareRead
  cases read a with
  | none => cases read b <;> rfl
  | some x =>
    cases read b with
    | none => rfl
    | some y => exact (Std.OrientedCmp.eq_swap : compare y x = (compare x y).swap)

/-- Comparing what can be read is transitive unless the item in the middle hides a difference. -/
theorem compare_read_trans [Std.TransOrd β]
    (shown : read b = none → ∀ x z, read a = some x → read c = some z → x = z)
    (first : (compareRead read a b).isLE) (second : (compareRead read b c).isLE) :
    (compareRead read a c).isLE := by
  simp only [compareRead] at first second ⊢
  cases left : read a with
  | none => rfl
  | some x =>
    cases right : read c with
    | none => rfl
    | some z =>
      cases middle : read b with
      | none =>
        obtain rfl := shown middle x z left right
        exact (Std.ReflCmp.isLE_rfl : (compare x x).isLE)
      | some y =>
        rw [left, middle] at first
        rw [middle, right] at second
        exact (Std.TransCmp.isLE_trans first second : (compare x z).isLE)

end

/-- A comparison refined by another reverses with its arguments if both do. -/
theorem then_swap (rough fine : α → α → Ordering) [Std.OrientedCmp rough] {a b : α}
    (reversed : fine b a = (fine a b).swap) :
    (rough b a).then (fine b a) = ((rough a b).then (fine a b)).swap := by
  rw [Ordering.swap_then, reversed, (Std.OrientedCmp.eq_swap : rough b a = (rough a b).swap)]

/-- A comparison refined by another is transitive where the other is among items that the first does
not tell apart. -/
theorem then_trans (rough fine : α → α → Ordering) [Std.TransCmp rough] {a b c : α}
    (alike : rough a b = .eq → rough b c = .eq →
      (fine a b).isLE → (fine b c).isLE → (fine a c).isLE)
    (first : ((rough a b).then (fine a b)).isLE) (second : ((rough b c).then (fine b c)).isLE) :
    ((rough a c).then (fine a c)).isLE := by
  rw [Ordering.isLE_then_iff_or] at first second ⊢
  rcases first with less | ⟨same, first⟩
  · rcases second with less' | ⟨same', -⟩
    · exact .inl (Std.TransCmp.lt_trans less less')
    · exact .inl (Std.TransCmp.lt_of_lt_of_eq less same')
  · rcases second with less' | ⟨same', second⟩
    · exact .inl (Std.TransCmp.lt_of_eq_of_lt same less')
    · exact .inr ⟨Std.TransCmp.eq_trans same same', alike same same' first second⟩

/-! ## Comparing numbers and texts -/

theorem order_bool_eq (a b : Bool) : orderBool a b = compare a b := by
  cases a <;> cases b <;> rfl

/-- Texts compare as the lists of their code points. -/
theorem order_chars_eq (a b : List Char) :
    orderChars a b = compare (a.map Char.toNat) (b.map Char.toNat) := by
  induction a generalizing b with
  | nil => cases b <;> rfl
  | cons first rest ih =>
    cases b with
    | nil => rfl
    | cons other others =>
      rw [orderChars, ih, List.map_cons, List.map_cons, List.compare_cons_cons,
        Nat.compare_eq_ite_lt]
      split
      · rfl
      · split <;> rfl

theorem order_chars_cases (a b : List Char) :
    orderChars a b = .lt ∧ a < b ∨ orderChars a b = .eq ∧ a = b ∨
      orderChars a b = .gt ∧ b < a := by
  induction a generalizing b with
  | nil => cases b <;> simp [orderChars]
  | cons first rest ih =>
    cases b with
    | nil => simp [orderChars]
    | cons other others =>
      have less_iff (c d : Char) : c < d ↔ c.toNat < d.toNat :=
        Char.lt_def.trans UInt32.lt_iff_toNat_lt
      simp only [orderChars, List.cons_lt_cons_iff, less_iff, List.cons_eq_cons, ← Char.toNat_inj]
      rcases Nat.lt_trichotomy first.toNat other.toNat with less | same | greater
      · exact .inl ⟨if_pos less, .inl less⟩
      · simpa [same] using ih others
      · exact .inr (.inr ⟨by rw [if_neg (by omega), if_pos greater], .inl greater⟩)

namespace Number

theorem order_int_eq (x y : Int) : orderInt x y = compare x y := by
  rw [orderInt, Int.compare_eq_ite_lt]
  split
  · rfl
  · split <;> split <;> first | rfl | omega

theorem steps_of_signed {number : Number} (signed : number.toSigned? = some value) :
    number.steps = integerSteps value := by
  cases number with
  | integer whole bounds =>
    simp only [toSigned?] at signed
    split at signed <;> cases signed
    rfl
  | double => cases signed

/-- Rounding in front of an exact comparison adds nothing to it. -/
theorem compare_rounded (x y : Int) :
    (compare (integerSteps x) (integerSteps y)).then (compare x y) = compare x y := by
  cases rounded : compare (integerSteps x) (integerSteps y) with
  | eq => rfl
  | lt =>
    have less : x < y := Int.not_le.mp fun le =>
      Int.not_le.mpr (Int.compare_eq_lt.mp rounded) (integer_steps_mono le)
    exact (Int.compare_eq_lt.mpr less).symm
  | gt =>
    have more : y < x := Int.not_le.mp fun le =>
      Int.not_le.mpr (Int.compare_eq_gt.mp rounded) (integer_steps_mono le)
    exact (Int.compare_eq_gt.mpr more).symm

/-- Numbers compare as the nearest doubles, and those that round alike by their exact values if both
are whole and of the signed range. -/
theorem order_eq (a b : Number) :
    a.order b = (compare a.steps b.steps).then (compareRead toSigned? a b) := by
  simp only [order, compareRead, order_int_eq]
  cases left : a.toSigned? with
  | none => exact Ordering.then_eq.symm
  | some x =>
    cases right : b.toSigned? with
    | none => exact Ordering.then_eq.symm
    | some y =>
      rw [steps_of_signed left, steps_of_signed right]
      exact (compare_rounded x y).symm

/-- Numbers that round alike compare by what can be read from them exactly. -/
theorem order_of_rounded {a b : Number} (alike : a.steps = b.steps) :
    a.order b = compareRead toSigned? a b := by
  rw [order_eq, alike, (Std.ReflCmp.compare_self : compare b.steps b.steps = .eq)]
  rfl

theorem order_swap (a b : Number) : b.order a = (a.order b).swap := by
  rw [order_eq, order_eq]
  exact then_swap (compareOn steps) (compareRead toSigned?) compare_read_swap

/-- The order of numbers is transitive unless the number in the middle is no whole number of the
signed range and two different ones that are round to it. -/
theorem order_trans {a b c : Number}
    (shown : b.toSigned? = none → a.steps = b.steps → b.steps = c.steps →
      ∀ x z, a.toSigned? = some x → c.toSigned? = some z → x = z)
    (first : (a.order b).isLE) (second : (b.order c).isLE) : (a.order c).isLE := by
  rw [order_eq] at first second ⊢
  refine then_trans (compareOn steps) (compareRead toSigned?) ?_ first second
  intro same same'
  exact compare_read_trans fun hidden => shown hidden (Std.LawfulEqOrd.eq_of_compare same)
    (Std.LawfulEqOrd.eq_of_compare same')

end Number

end SearchIndex
