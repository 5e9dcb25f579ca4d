import Mathlib.Algebra.Order.Field.Power
import Mathlib.Algebra.Order.Field.Rat
import Mathlib.Tactic.Linarith
import Mathlib.Tactic.FieldSimp
import Mathlib.Tactic.Ring
import SearchIndex.Value.Reader

/-! What the text of a number tells of it. The text of a double spells a decimal that rounds to it,
also where it is short, and no decimal rounds to two doubles. Whole numbers are written without a
point and without an exponent, so numbers that are written alike are the same number. -/
namespace SearchIndex

namespace Double

/-! ## Rounding -/

/-- The numbers of quarter steps that round to a double: those between its bounds, and the bounds
themselves when the mantissa is even. -/
def Covers (d : Double) (quarters : ℚ) : Prop :=
  if d.mantissa % 2 = 0 then
    (4 * d.magnitude - d.roomBelow : Nat) ≤ quarters ∧ quarters ≤ (4 * d.magnitude + d.roomAbove : Nat)
  else
    (4 * d.magnitude - d.roomBelow : Nat) < quarters ∧ quarters < (4 * d.magnitude + d.roomAbove : Nat)

theorem rounds_to_iff (d : Double) (num : Nat) {den : Nat} (positive : 0 < den) :
    d.roundsTo num den = true ↔ d.Covers (num / den) := by
  have divisor : (0 : ℚ) < den := by exact_mod_cast positive
  simp only [roundsTo, Covers]
  split
  · rw [Bool.and_eq_true, decide_eq_true_eq, decide_eq_true_eq, le_div_iff₀ divisor,
      div_le_iff₀ divisor]
    norm_cast
  · rw [Bool.and_eq_true, decide_eq_true_eq, decide_eq_true_eq, lt_div_iff₀ divisor,
      div_lt_iff₀ divisor]
    norm_cast

theorem magnitude_eq (d : Double) : d.magnitude = d.mantissa * 2 ^ d.exponent :=
  Nat.shiftLeft_eq _ _

theorem room_above_eq (d : Double) : d.roomAbove = 2 * 2 ^ d.exponent := Nat.shiftLeft_eq _ _

/-- Below a power of two there is half the room. -/
theorem room_below_eq (d : Double) : ∃ share, d.roomBelow = share * 2 ^ d.exponent ∧
    (share = 1 ∧ d.mantissa = 4503599627370496 ∧ d.exponent ≠ 0 ∨
      share = 2 ∧ (d.mantissa ≠ 4503599627370496 ∨ d.exponent = 0)) := by
  unfold roomBelow
  split
  · rename_i power
    exact ⟨1, Nat.shiftLeft_eq _ _, .inl ⟨rfl, power⟩⟩
  · rename_i other
    exact ⟨2, Nat.shiftLeft_eq _ _, .inr ⟨rfl, by omega⟩⟩

theorem exponent_mono {d e : Double} (le : d.magnitude ≤ e.magnitude) :
    d.exponent ≤ e.exponent := by
  by_contra greater
  have normal : 4503599627370496 ≤ d.mantissa := d.normal.resolve_left (by omega)
  have unit : 2 ^ (e.exponent + 1) ≤ 2 ^ d.exponent := Nat.pow_le_pow_right (by decide) (by omega)
  have reversed : e.magnitude < d.magnitude := by
    rw [magnitude_eq, magnitude_eq]
    calc e.mantissa * 2 ^ e.exponent
      _ < 9007199254740992 * 2 ^ e.exponent :=
        Nat.mul_lt_mul_of_pos_right e.mantissa_lt (Nat.two_pow_pos _)
      _ = 4503599627370496 * 2 ^ (e.exponent + 1) := by rw [Nat.pow_succ]; omega
      _ ≤ d.mantissa * 2 ^ d.exponent := Nat.mul_le_mul normal unit
  omega

/-- The room of a double ends where that of a greater one starts, or before. If it ends just there,
one of the mantissas is odd and the other is even. -/
theorem rooms_apart {d e : Double} (less : d.magnitude < e.magnitude) :
    4 * d.magnitude + d.roomAbove ≤ 4 * e.magnitude - e.roomBelow ∧
      (4 * d.magnitude + d.roomAbove = 4 * e.magnitude - e.roomBelow →
        d.mantissa % 2 ≠ e.mantissa % 2) := by
  obtain ⟨more, shift⟩ := Nat.exists_eq_add_of_le (exponent_mono (Nat.le_of_lt less))
  obtain ⟨share, below, room⟩ := room_below_eq e
  have positive : 0 < 2 ^ d.exponent := Nat.two_pow_pos _
  have short := d.mantissa_lt
  -- Counted in units of the smaller exponent, only the distance of the exponents is left.
  have units : 4 * d.mantissa + 2 ≤ (4 * e.mantissa - share) * 2 ^ more ∧
      (4 * d.mantissa + 2 = (4 * e.mantissa - share) * 2 ^ more →
        d.mantissa % 2 ≠ e.mantissa % 2) := by
    cases more with
    | zero =>
      have smaller : d.mantissa < e.mantissa := by
        rw [magnitude_eq, magnitude_eq, shift] at less
        exact Nat.lt_of_mul_lt_mul_right less
      rw [Nat.pow_zero, Nat.mul_one]
      omega
    | succ more =>
      have normal : 4503599627370496 ≤ e.mantissa := e.normal.resolve_left (by omega)
      have twice : (4 * e.mantissa - share) * 2 ≤ (4 * e.mantissa - share) * 2 ^ (more + 1) :=
        Nat.mul_le_mul_left _ (by rw [Nat.pow_succ]; have := Nat.two_pow_pos more; omega)
      omega
  have upper : 4 * d.magnitude + d.roomAbove = (4 * d.mantissa + 2) * 2 ^ d.exponent := by
    rw [magnitude_eq, room_above_eq, Nat.add_mul, Nat.mul_assoc]
  have lower : 4 * e.magnitude - e.roomBelow =
      (4 * e.mantissa - share) * 2 ^ more * 2 ^ d.exponent := by
    rw [magnitude_eq, below, shift, Nat.pow_add, ← Nat.mul_assoc 4, ← Nat.sub_mul,
      Nat.mul_comm (2 ^ d.exponent), ← Nat.mul_assoc]
  rw [upper, lower]
  exact ⟨Nat.mul_le_mul_right _ units.1,
    fun same => units.2 (Nat.mul_right_cancel positive same)⟩

theorem not_covers_of_less {d e : Double} (less : d.magnitude < e.magnitude)
    (first : d.Covers quarters) : ¬ e.Covers quarters := by
  intro second
  obtain ⟨apart, parity⟩ := rooms_apart less
  have order : ((4 * d.magnitude + d.roomAbove : Nat) : ℚ) ≤
      (4 * e.magnitude - e.roomBelow : Nat) := by exact_mod_cast apart
  have upper : quarters ≤ (4 * d.magnitude + d.roomAbove : Nat) := by
    unfold Covers at first
    split at first
    · exact first.2
    · exact first.2.le
  have lower : ((4 * e.magnitude - e.roomBelow : Nat) : ℚ) ≤ quarters := by
    unfold Covers at second
    split at second
    · exact second.1
    · exact second.1.le
  -- Only the point where the two rooms meet is left, and the odd mantissa does not have it.
  have meets : quarters = (4 * d.magnitude + d.roomAbove : Nat) := by linarith
  have bounds : 4 * d.magnitude + d.roomAbove = 4 * e.magnitude - e.roomBelow := by
    have same : ((4 * d.magnitude + d.roomAbove : Nat) : ℚ) =
      (4 * e.magnitude - e.roomBelow : Nat) := by linarith
    exact_mod_cast same
  have differ := parity bounds
  unfold Covers at first second
  split at first
  · rw [if_neg (by omega)] at second
    exact absurd second.1 (by linarith)
  · exact absurd first.2 (by linarith)

/-- No number rounds to two doubles, up to the sign. -/
theorem covers_unique {d e : Double} (first : d.Covers quarters) (second : e.Covers quarters) :
    d.mantissa = e.mantissa ∧ d.exponent = e.exponent := by
  have magnitudes : d.magnitude = e.magnitude := by
    rcases Nat.lt_trichotomy d.magnitude e.magnitude with less | same | greater
    · exact absurd second (not_covers_of_less less first)
    · exact same
    · exact absurd first (not_covers_of_less greater second)
  have exponents : d.exponent = e.exponent :=
    Nat.le_antisymm (exponent_mono (Nat.le_of_eq magnitudes))
      (exponent_mono (Nat.le_of_eq magnitudes.symm))
  rw [magnitude_eq, magnitude_eq, exponents] at magnitudes
  exact ⟨Nat.mul_right_cancel (Nat.two_pow_pos _) magnitudes, exponents⟩

end Double

/-! ## Digits -/

theorem digits_are_digits (n : Nat) : ∀ c ∈ digitsOf n, c.isDigit = true :=
  fun _ member => Nat.isDigit_of_mem_toDigits (by decide) (by decide) member

theorem digits_ne_nil (n : Nat) : digitsOf n ≠ [] := Nat.toDigits_ne_nil

theorem of_digits_of (n : Nat) : ofDigits (digitsOf n) = n := Nat.ofDigitChars_ten_toDigits

theorem digits_of_injective {m n : Nat} (same : digitsOf m = digitsOf n) : m = n := by
  rw [← of_digits_of m, same, of_digits_of]

/-- Leading zeros do not count. -/
theorem of_digits_behind_zeros (count : Nat) (digits : List Char) :
    ofDigits (List.replicate count '0' ++ digits) = ofDigits digits := by
  show Nat.ofDigitChars 10 _ 0 = Nat.ofDigitChars 10 _ 0
  rw [Nat.ofDigitChars_append, Nat.ofDigitChars_replicate_zero, Nat.mul_zero]

theorem of_digits_before_zeros (digits : List Char) (count : Nat) :
    ofDigits (digits ++ List.replicate count '0') = 10 ^ count * ofDigits digits := by
  show Nat.ofDigitChars 10 _ 0 = _ * Nat.ofDigitChars 10 _ 0
  rw [Nat.ofDigitChars_append, Nat.ofDigitChars_replicate_zero]

/-- Positive numbers are written without leading zeros. -/
theorem digits_head (positive : 0 < n) : (digitsOf n).head? ≠ some '0' := by
  have single : ∀ digit < 10, 0 < digit → some digit.digitChar ≠ some '0' := by decide
  induction n using Nat.strongRecOn with
  | ind n ih =>
    unfold digitsOf at ih ⊢
    by_cases last : n < 10
    · rw [Nat.toDigits_of_lt_base last]
      exact single n last positive
    · rw [Nat.toDigits_of_base_le (by decide) (by omega),
        List.head?_append_of_ne_nil _ Nat.toDigits_ne_nil]
      exact ih (n / 10) (by omega) (by omega)

/-! ## Numerals -/

/-- Items of one kind in front of something else are taken off together. -/
theorem span_stopped {p : α → Bool} (rest : List α) (inside : ∀ c ∈ front, p c = true)
    (stops : ∀ c ∈ rest.head?, p c = false) :
    (front ++ rest).takeWhile p = front ∧ (front ++ rest).dropWhile p = rest := by
  rw [List.takeWhile_append_of_pos inside, List.dropWhile_append_of_pos inside]
  cases rest with
  | nil => exact ⟨List.append_nil _, rfl⟩
  | cons c rest => simp [stops c rfl]

namespace Reader

/-- The number that a numeral stands for, apart from its sign. -/
def Numeral.value (numeral : Numeral) : ℚ :=
  ofDigits (numeral.whole ++ numeral.fraction) *
    10 ^ (numeral.exponent.getD 0 - numeral.fraction.length)

/-- The digits before the point of a numeral as it is written. -/
structure IsWhole (whole : List Char) : Prop where
  digits : ∀ c ∈ whole, c.isDigit = true
  inhabited : whole ≠ []
  plain : whole.length = 1 ∨ whole.head? ≠ some '0'

theorem digits_are_whole (n : Nat) : IsWhole (digitsOf n) := by
  refine ⟨digits_are_digits n, digits_ne_nil n, ?_⟩
  rcases Nat.eq_zero_or_pos n with rfl | positive
  · exact .inl rfl
  · exact .inr (digits_head positive)

theorem zero_is_whole : IsWhole ['0'] := digits_are_whole 0

/-- A numeral is read from its sign, the digits before the point and what spells the rest of it. -/
theorem read_parts (negative : Bool) (rest : List Char) (written : IsWhole whole)
    (stops : ∀ c ∈ rest.head?, c.isDigit = false)
    (pointed : fraction? rest = some (fraction, powered))
    (scaled : exponent? powered = some (exponent, [])) :
    Numeral.read? ((if negative then ['-'] else []) ++ (whole ++ rest)) =
      some (⟨negative, whole, fraction, exponent⟩, []) := by
  obtain ⟨taken, left⟩ := span_stopped rest written.digits stops
  have accepted : (whole.isEmpty || (whole.length > 1 && whole.head? == some '0')) = false := by
    rcases written.plain with single | plain
    · simp [written.inhabited, single]
    · simp [written.inhabited, plain]
  cases negative with
  | true => simp [Numeral.read?, taken, left, accepted, pointed, scaled]
  | false =>
    have unsigned : ∀ text, whole ++ rest ≠ '-' :: text := by
      intro text same
      obtain ⟨c, others, rfl⟩ := List.exists_cons_of_ne_nil written.inhabited
      have digit := written.digits c List.mem_cons_self
      rw [(List.cons.inj same).1] at digit
      cases digit
    simp [Numeral.read?, taken, left, accepted, pointed, scaled]

/-- Digits behind a point are the fraction. -/
theorem fraction_of_point (rest : List Char) (digits : ∀ c ∈ fraction, c.isDigit = true)
    (inhabited : fraction ≠ []) (stops : ∀ c ∈ rest.head?, c.isDigit = false) :
    fraction? ('.' :: (fraction ++ rest)) = some (fraction, rest) := by
  obtain ⟨taken, left⟩ := span_stopped rest digits stops
  simp [fraction?, taken, left, inhabited]

/-- Digits behind a letter and a sign are the exponent. -/
theorem exponent_of_letter (power : Int) :
    exponent? ('e' :: (if power < 0 then '-' else '+') :: digitsOf power.natAbs) =
      some (some power, []) := by
  obtain ⟨taken, left⟩ := span_stopped [] (digits_are_digits power.natAbs) nofun
  rw [List.append_nil] at taken left
  by_cases negative : power < 0
  · simp [exponent?, negative, taken, left, digits_ne_nil, of_digits_of, abs_of_neg]
  · have size : |power| = power := abs_of_nonneg (by omega)
    simp [exponent?, negative, taken, left, digits_ne_nil, of_digits_of, size]

end Reader

/-! ## Decimals -/

namespace Decimal

/-- The number that a decimal stands for. -/
def value (d : Decimal) : ℚ := d.coefficient * 10 ^ d.exponent

theorem ratio_positive (d : Decimal) : 0 < d.ratio.2 := by
  unfold ratio
  split
  · exact Nat.one_pos
  · exact Nat.pow_pos (by decide)

theorem ratio_eq (d : Decimal) : (d.ratio.1 / d.ratio.2 : ℚ) = d.value := by
  unfold ratio value
  split
  · rename_i whole
    obtain ⟨power, same⟩ := Int.eq_ofNat_of_zero_le whole
    simp [same]
  · rename_i fraction
    obtain ⟨power, same⟩ : ∃ power : Nat, d.exponent = -power := ⟨(-d.exponent).toNat, by omega⟩
    simp [same, div_eq_mul_inv]

theorem trim_value (d : Decimal) : d.trim.value = d.value := by
  suffices steps : ∀ fuel (d : Decimal), (trim.go fuel d).value = d.value from steps _ d
  intro fuel
  induction fuel with
  | zero => exact fun d => rfl
  | succ fuel ih =>
    intro d
    rw [trim.go]
    split
    · rename_i zero
      rw [beq_iff_eq] at zero
      have tens : (d.coefficient : ℚ) = (d.coefficient / 10 : Nat) * 10 := by
        have whole : d.coefficient = d.coefficient / 10 * 10 := by omega
        exact_mod_cast whole
      rw [ih, value, value, tens, zpow_add₀ (by decide), zpow_one]
      ring
    · rfl

end Decimal

namespace Double

/-- How many quarter steps one is. -/
def quarters : Nat := 1 <<< 1076

theorem covers_of_grid {d : Double} (found : d.onGrid? power = some decimal) :
    d.Covers (decimal.value * quarters) := by
  have covers {k : Nat} (holds : d.roundsTo (k * (Decimal.mk 1 power).ratio.1 * quarters)
      (Decimal.mk 1 power).ratio.2 = true) :
      d.Covers ((Decimal.mk k power).value * quarters) := by
    rw [rounds_to_iff d _ (Decimal.ratio_positive _)] at holds
    have unit := Decimal.ratio_eq ⟨1, power⟩
    have same : (((k * (Decimal.mk 1 power).ratio.1 * quarters : Nat) : ℚ) /
        (Decimal.mk 1 power).ratio.2) = (Decimal.mk k power).value * quarters := by
      rw [Decimal.value, Nat.cast_one, one_mul] at unit
      rw [Decimal.value, ← unit]
      push_cast
      ring
    rwa [same] at holds
  unfold onGrid? at found
  extract_lets unit scale num den below fits nearer other at found
  split at found
  · rename_i near
    cases found
    exact covers near
  · split at found
    · rename_i far
      cases found
      exact covers far
    · cases found

/-- The steps themselves round to a double. -/
theorem covers_center (d : Double) : d.Covers (4 * d.magnitude : Nat) := by
  obtain ⟨share, below, room⟩ := room_below_eq d
  have positive : 0 < 2 ^ d.exponent := Nat.two_pow_pos _
  unfold Covers
  split
  · exact ⟨by exact_mod_cast Nat.sub_le _ _, by exact_mod_cast Nat.le_add_right _ _⟩
  · rename_i odd
    have inhabited : 0 < d.magnitude := by
      rw [magnitude_eq]
      exact Nat.mul_pos (by omega) positive
    have above : 0 < d.roomAbove := by
      rw [room_above_eq]
      omega
    have beneath : 0 < d.roomBelow := by
      rw [below]
      exact Nat.mul_pos (by omega) positive
    constructor
    · exact_mod_cast Nat.sub_lt (by omega) beneath
    · exact_mod_cast Nat.lt_add_of_pos_right above

/-- The exact expansion of a double, at a power of ten that clears all its steps. -/
theorem expansion_value (d : Double) (power : Nat) :
    (Decimal.mk (d.magnitude * Nat.pow 5 power) (-power)).value * (1 <<< (power + 2) : Nat) =
      (4 * d.magnitude : Nat) := by
  have tens : (10 : ℚ) ^ power = 2 ^ power * 5 ^ power := by rw [← mul_pow]; norm_num
  rw [Decimal.value, zpow_neg, zpow_natCast, tens, Nat.one_shiftLeft, Nat.pow_eq]
  push_cast
  field_simp
  ring

/-- The decimal that is written for a double rounds to it. -/
theorem covers_shortest (d : Double) : d.Covers (d.shortest.value * quarters) := by
  unfold shortest
  dsimp only
  split
  · rename_i decimal found
    obtain ⟨more, -, fits⟩ := List.exists_of_findSome?_eq_some found
    rw [Decimal.trim_value]
    exact covers_of_grid fits
  · -- The power is kept as a name, for numbers of that size are not worked out.
    generalize known : (1074 : Nat) = power
    have below : (-1074 : Int) = -power := by omega
    have scale : quarters = 1 <<< (power + 2) := congrArg (1 <<< ·) (by omega)
    rw [below, scale, expansion_value]
    exact covers_center d

theorem covers_positive {d : Double} (present : d.mantissa ≠ 0) (covers : d.Covers count) :
    0 < count := by
  obtain ⟨share, below, room⟩ := room_below_eq d
  have lowest : 0 < 4 * d.magnitude - d.roomBelow := by
    rw [magnitude_eq, below, ← Nat.mul_assoc, ← Nat.sub_mul]
    exact Nat.mul_pos (by omega) (Nat.two_pow_pos _)
  have positive : (0 : ℚ) < (4 * d.magnitude - d.roomBelow : Nat) := by exact_mod_cast lowest
  unfold Covers at covers
  split at covers
  · exact positive.trans_le covers.1
  · exact positive.trans covers.1

theorem shortest_positive {d : Double} (present : d.mantissa ≠ 0) : 0 < d.shortest.coefficient := by
  have positive := covers_positive present (covers_shortest d)
  by_contra zero
  have coefficient : d.shortest.coefficient = 0 := by omega
  rw [Decimal.value, coefficient, Nat.cast_zero, zero_mul, zero_mul] at positive
  exact lt_irrefl _ positive

end Double

/-! ## The text of a double -/

namespace Reader

/-- The text is read as a numeral with this sign and this value, and not as that of a whole
number. -/
def SpellsDouble (text : List Char) (negative : Bool) (value : ℚ) : Prop :=
  ∃ numeral, Numeral.read? text = some (numeral, []) ∧ numeral.negative = negative ∧
    (numeral.fraction ≠ [] ∨ numeral.exponent ≠ none) ∧ numeral.value = value

theorem spells_point (negative : Bool) (written : IsWhole whole)
    (digits : ∀ c ∈ fraction, c.isDigit = true) (inhabited : fraction ≠ []) :
    SpellsDouble ((if negative then ['-'] else []) ++ (whole ++ '.' :: fraction)) negative
      (ofDigits (whole ++ fraction) * 10 ^ (-fraction.length : Int)) := by
  have pointed := fraction_of_point [] digits inhabited nofun
  rw [List.append_nil] at pointed
  exact ⟨_, read_parts negative _ written (by simp) pointed rfl, rfl, .inl inhabited, by
    simp [Numeral.value]⟩

/-- Digits that begin like written ones are written ones. -/
theorem is_whole_of_head (begins : whole.head? = digits.head?) (written : IsWhole digits)
    (plain : digits.head? ≠ some '0') (each : ∀ c ∈ whole, c.isDigit = true) : IsWhole whole := by
  refine ⟨each, ?_, .inr (begins ▸ plain)⟩
  rintro rfl
  exact written.inhabited (List.head?_eq_none_iff.mp begins.symm)

theorem zeros_are_digits (count : Nat) : ∀ c ∈ List.replicate count '0', c.isDigit = true := by
  intro c member
  rw [List.eq_of_mem_replicate member]
  rfl

section
variable (negative : Bool) {digits : List Char} (written : IsWhole digits)
  (plain : digits.head? ≠ some '0')

include written in
theorem spells_behind_point (count : Nat) :
    SpellsDouble ((if negative then ['-'] else []) ++
        ('0' :: '.' :: (List.replicate count '0' ++ digits))) negative
      (ofDigits digits * 10 ^ (-(count + digits.length) : Int)) := by
  have spelled := spells_point negative zero_is_whole
    (List.forall_mem_append.mpr ⟨zeros_are_digits count, written.digits⟩)
    (by simp [written.inhabited])
  have zeros : ['0'] ++ (List.replicate count '0' ++ digits) =
      List.replicate (count + 1) '0' ++ digits := rfl
  rw [zeros, of_digits_behind_zeros, List.length_append, List.length_replicate,
    Nat.cast_add] at spelled
  exact spelled

include written plain in
theorem spells_around_point (positive : 0 < whole) (inside : whole < digits.length) :
    SpellsDouble ((if negative then ['-'] else []) ++
        (digits.take whole ++ '.' :: digits.drop whole)) negative
      (ofDigits digits * 10 ^ (whole - digits.length : Int)) := by
  have begins : (digits.take whole).head? = digits.head? := by
    rw [List.head?_take, if_neg (by omega)]
  have spelled := spells_point negative
    (is_whole_of_head begins written plain fun c member =>
      written.digits c (List.mem_of_mem_take member))
    (fun c member => written.digits c (List.mem_of_mem_drop member))
    (by simpa using inside : digits.drop whole ≠ [])
  have power : (-(digits.drop whole).length : Int) = whole - digits.length := by
    rw [List.length_drop]
    omega
  rwa [List.take_append_drop, power] at spelled

include written plain in
theorem spells_before_point (count : Nat) :
    SpellsDouble ((if negative then ['-'] else []) ++
        (digits ++ List.replicate count '0' ++ ['.', '0'])) negative
      (ofDigits digits * 10 ^ (count : Int)) := by
  have spelled := spells_point negative
    (is_whole_of_head (List.head?_append_of_ne_nil _ written.inhabited) written plain
      (List.forall_mem_append.mpr ⟨written.digits, zeros_are_digits count⟩))
    zero_is_whole.digits zero_is_whole.inhabited
  have zeros : digits ++ List.replicate count '0' ++ ['0'] =
      digits ++ List.replicate (count + 1) '0' := by
    rw [List.append_assoc, List.replicate_succ']
  have value : (ofDigits (digits ++ List.replicate count '0' ++ ['0']) *
      10 ^ (-(['0'].length : Int)) : ℚ) = ofDigits digits * 10 ^ (count : Int) := by
    rw [zeros, of_digits_before_zeros, zpow_natCast]
    push_cast
    rw [pow_succ, zpow_neg]
    field_simp
    simp [mul_comm]
  rwa [value] at spelled

include written plain in
/-- Digits with a point have the value that their leading exponent says. -/
theorem spells_positional (leading : Int) :
    SpellsDouble ((if negative then ['-'] else []) ++ Double.positionalText digits leading) negative
      (ofDigits digits * 10 ^ (leading + 1 - digits.length)) := by
  unfold Double.positionalText
  by_cases small : leading < 0
  · rw [if_pos small]
    have spelled := spells_behind_point negative written (-leading - 1).toNat
    have power : (-((-leading - 1).toNat + digits.length) : Int) = leading + 1 - digits.length := by
      omega
    rwa [power] at spelled
  · rw [if_neg small]
    obtain ⟨whole, size⟩ : ∃ whole, leading.toNat + 1 = whole := ⟨_, rfl⟩
    dsimp only
    rw [size]
    by_cases inside : whole < digits.length
    · have spelled := spells_around_point negative written plain (by omega) inside
      have power : (whole - digits.length : Int) = leading + 1 - digits.length := by omega
      rw [power] at spelled
      simpa [Nat.sub_eq_zero_of_le (Nat.le_of_lt inside), Nat.not_le.mpr inside] using spelled
    · have spelled := spells_before_point negative written plain (whole - digits.length)
      have power : ((whole - digits.length : Nat) : Int) = leading + 1 - digits.length := by omega
      have full : (digits ++ List.replicate (whole - digits.length) '0').length ≤ whole := by
        rw [List.length_append, List.length_replicate]
        omega
      rw [power] at spelled
      rw [List.take_of_length_le full, List.drop_of_length_le full]
      exact spelled

end

/-- With an exponent, digits have the value that it says. -/
theorem spells_scientific (negative : Bool) (written : IsWhole digits) (leading : Int) :
    SpellsDouble ((if negative then ['-'] else []) ++ Double.scientificText digits leading) negative
      (ofDigits digits * 10 ^ (leading + 1 - digits.length)) := by
  obtain ⟨first, others, rfl⟩ := List.exists_cons_of_ne_nil written.inhabited
  obtain ⟨digit, each⟩ := List.forall_mem_cons.mp written.digits
  have single : IsWhole [first] := ⟨by simpa using digit, by simp, .inl rfl⟩
  have scaled := exponent_of_letter leading
  have value : (leading + 1 - (first :: others).length : Int) = leading - others.length := by
    rw [List.length_cons]
    omega
  rw [value]
  cases others with
  | nil => exact ⟨_, read_parts negative _ single (by simp) rfl scaled, rfl, .inr nofun, rfl⟩
  | cons second others =>
    have pointed := fraction_of_point
      ('e' :: (if leading < 0 then '-' else '+') :: digitsOf leading.natAbs) each
      (List.cons_ne_nil _ _) (by simp)
    have text : Double.scientificText (first :: second :: others) leading =
        [first] ++ '.' :: (second :: others ++
          'e' :: (if leading < 0 then '-' else '+') :: digitsOf leading.natAbs) := rfl
    rw [text]
    exact ⟨_, read_parts negative _ single (by simp) pointed scaled, rfl, .inr nofun, rfl⟩

/-- The text of a double is that of a number that rounds to it. -/
theorem double_spelled (d : Double) :
    ∃ value, SpellsDouble d.chars d.negative value ∧ d.Covers (value * Double.quarters) := by
  unfold Double.chars
  by_cases zero : d.mantissa = 0
  · refine ⟨0, ?_, ?_⟩
    · have spelled := spells_point d.negative zero_is_whole zero_is_whole.digits
        zero_is_whole.inhabited
      rw [if_pos zero]
      simpa [ofDigits] using spelled
    · rw [zero_mul]
      have center := d.covers_center
      rwa [Double.magnitude_eq, zero, Nat.zero_mul, Nat.mul_zero, Nat.cast_zero] at center
  · have positive := Double.shortest_positive zero
    have written := digits_are_whole d.shortest.coefficient
    have power : d.shortest.leading + 1 - (digitsOf d.shortest.coefficient).length =
        d.shortest.exponent := by
      rw [Decimal.leading]
      omega
    have positional := spells_positional d.negative written (digits_head positive) d.shortest.leading
    have scientific := spells_scientific d.negative written d.shortest.leading
    rw [power, of_digits_of] at positional scientific
    refine ⟨_, ?_, d.covers_shortest⟩
    rw [if_neg zero]
    dsimp only
    by_cases form : Double.positional d.shortest.leading = true
    · rw [if_pos form]
      exact positional
    · rw [if_neg form]
      exact scientific

end Reader

/-! ## Numbers -/

namespace Number

theorem integer_read (value : Int) (bounds : -9223372036854775808 ≤ value ∧ value < 18446744073709551616) :
    Reader.Numeral.read? (Number.integer value bounds).chars =
      some (⟨decide (value < 0), digitsOf value.natAbs, [], none⟩, []) := by
  have read := Reader.read_parts (decide (value < 0)) [] (Reader.digits_are_whole value.natAbs)
    nofun rfl rfl
  rw [← read, List.append_nil, Number.chars]
  by_cases negative : value < 0 <;> simp [negative]

/-- The text of a number is read to its end. -/
theorem chars_read (number : Number) :
    ∃ numeral, Reader.Numeral.read? number.chars = some (numeral, []) := by
  cases number with
  | integer value bounds => exact ⟨_, integer_read value bounds⟩
  | double d =>
    obtain ⟨_, ⟨numeral, read, -⟩, -⟩ := Reader.double_spelled d
    exact ⟨numeral, read⟩

theorem chars_ne_nil (number : Number) : number.chars ≠ [] := by
  intro empty
  obtain ⟨numeral, read⟩ := number.chars_read
  rw [empty] at read
  cases read

/-- Numbers that are written alike are the same. -/
theorem chars_injective {m n : Number} (same : m.chars = n.chars) : m = n := by
  cases m with
  | integer a aBounds =>
    have first := integer_read a aBounds
    rw [same] at first
    cases n with
    | integer b bBounds =>
      have second := integer_read b bBounds
      have alike := first.symm.trans second
      simp only [Option.some.injEq, Prod.mk.injEq, Reader.Numeral.mk.injEq, decide_eq_decide] at alike
      obtain ⟨⟨sign, digits, -⟩, -⟩ := alike
      have size := digits_of_injective digits
      congr 1
      omega
    | double d =>
      obtain ⟨value, ⟨numeral, read, -, other, -⟩, -⟩ := Reader.double_spelled d
      cases first.symm.trans read
      simp at other
  | double d =>
    obtain ⟨value, ⟨numeral, read, sign, other, meant⟩, covers⟩ := Reader.double_spelled d
    change Reader.Numeral.read? (Number.double d).chars = _ at read
    rw [same] at read
    cases n with
    | integer b bBounds =>
      cases (integer_read b bBounds).symm.trans read
      simp at other
    | double e =>
      obtain ⟨value', ⟨numeral', read', sign', -, meant'⟩, covers'⟩ := Reader.double_spelled e
      cases read.symm.trans read'
      cases meant.symm.trans meant'
      obtain ⟨mantissas, exponents⟩ := Double.covers_unique covers covers'
      obtain ⟨negative, mantissa, exponent, _, _, _⟩ := d
      obtain ⟨negative', mantissa', exponent', _, _, _⟩ := e
      cases sign.symm.trans sign'
      cases mantissas
      cases exponents
      rfl

end Number

/-! ## The characters of numbers -/

/-- The characters that numbers are written with. -/
def IsFigure (c : Char) : Prop := c.isDigit = true ∨ c ∈ ['-', '+', '.', 'e']

theorem digits_are_figures (n : Nat) : ∀ c ∈ digitsOf n, IsFigure c :=
  fun c member => .inl (digits_are_digits n c member)

theorem positional_figures (digits : ∀ c ∈ text, IsFigure c) (leading : Int) :
    ∀ c ∈ Double.positionalText text leading, IsFigure c := by
  have zero : IsFigure '0' := .inl rfl
  have point : IsFigure '.' := .inr (by simp)
  have zeros (count : Nat) : ∀ c ∈ List.replicate count '0', IsFigure c := by
    intro c member
    rw [List.eq_of_mem_replicate member]
    exact zero
  unfold Double.positionalText
  split
  · exact List.forall_mem_cons.mpr ⟨zero, List.forall_mem_cons.mpr ⟨point,
      List.forall_mem_append.mpr ⟨zeros _, digits⟩⟩⟩
  · have padded := fun count => List.forall_mem_append.mpr ⟨digits, zeros count⟩
    refine List.forall_mem_append.mpr ⟨fun c member => padded _ c (List.mem_of_mem_take member),
      List.forall_mem_cons.mpr ⟨point, ?_⟩⟩
    split
    · simpa using zero
    · exact fun c member => padded _ c (List.mem_of_mem_drop member)

theorem scientific_figures (digits : ∀ c ∈ text, IsFigure c) (leading : Int) :
    ∀ c ∈ Double.scientificText text leading, IsFigure c := by
  have sign : IsFigure (if leading < 0 then '-' else '+') := by split <;> exact .inr (by simp)
  refine List.forall_mem_append.mpr ⟨?_, List.forall_mem_cons.mpr ⟨.inr (by simp),
    List.forall_mem_cons.mpr ⟨sign, digits_are_figures _⟩⟩⟩
  split
  · exact nofun
  · exact digits
  · obtain ⟨first, others⟩ := List.forall_mem_cons.mp digits
    exact List.forall_mem_cons.mpr ⟨first, List.forall_mem_cons.mpr ⟨.inr (by simp), others⟩⟩

theorem number_figures (number : Number) : ∀ c ∈ number.chars, IsFigure c := by
  have minus : IsFigure '-' := .inr (by simp)
  cases number with
  | integer value bounds =>
    simp only [Number.chars]
    split
    · exact List.forall_mem_cons.mpr ⟨minus, digits_are_figures _⟩
    · exact digits_are_figures _
  | double d =>
    have sign : ∀ c ∈ (if d.negative then ['-'] else []), IsFigure c := by split <;> simp [minus]
    simp only [Number.chars, Double.chars]
    split
    · refine List.forall_mem_append.mpr ⟨sign, ?_⟩
      simp [IsFigure, Char.isDigit]
    · refine List.forall_mem_append.mpr ⟨sign, ?_⟩
      split
      · exact positional_figures (digits_are_figures _) _
      · exact scientific_figures (digits_are_figures _) _

/-- The ten digits and the four marks that numbers are written with. -/
def figures : List Char :=
  ['0', '1', '2', '3', '4', '5', '6', '7', '8', '9', '-', '+', '.', 'e']

theorem figure_mem (figure : IsFigure c) : c ∈ figures := by
  rcases figure with digit | mark
  · have bounds : 48 ≤ c.toNat ∧ c.toNat ≤ 57 := by
      simpa [Char.isDigit, UInt32.le_iff_toNat_le] using digit
    have ten : ∀ code ≤ 57, 48 ≤ code → Char.ofNat code ∈ figures := by decide
    rw [← Char.ofNat_toNat c]
    exact ten _ bounds.2 bounds.1
  · simp only [List.mem_cons, List.not_mem_nil, or_false] at mark
    rcases mark with rfl | rfl | rfl | rfl <;> decide

/-- What holds of the fourteen figures holds of all characters of a number. -/
theorem number_chars_all {property : Char → Prop} [DecidablePred property] (number : Number)
    (all : figures.all property = true) : ∀ c ∈ number.chars, property c :=
  fun c member =>
    of_decide_eq_true (List.all_eq_true.mp all c (figure_mem (number_figures number c member)))

end SearchIndex
