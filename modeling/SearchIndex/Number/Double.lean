/-! Finite binary64 numbers held exactly. A double is a whole number of steps of `2^-1074`, the
distance between its smallest neighbours, so order and equality are those of integers and nothing
here rounds except the functions that say so. -/
namespace SearchIndex

/-- The quotient rounded to the nearest whole number; a half goes to the even neighbour. -/
def roundDiv (num den : Nat) : Nat :=
  let quotient := num / den
  let twice := 2 * (num % den)
  if den < twice || (twice == den && quotient % 2 == 1) then quotient + 1 else quotient

/-- A finite binary64 number: its magnitude is `mantissa · 2^exponent` steps. The mantissa has at
most 53 bits and, unless the exponent is zero, exactly 53, so each number but zero has one form
and the two zeros differ in sign. -/
structure Double where
  negative : Bool
  mantissa : Nat
  exponent : Nat
  mantissa_lt : mantissa < 9007199254740992
  normal : exponent = 0 ∨ 4503599627370496 ≤ mantissa
  exponent_le : exponent ≤ 2045
deriving DecidableEq

namespace Double

/-- The magnitude as a number of steps. -/
def magnitude (d : Double) : Nat := d.mantissa <<< d.exponent

/-- The number as a signed number of steps. Both zeros are zero. -/
def steps (d : Double) : Int := if d.negative then -(d.magnitude : Int) else d.magnitude

/-- The double with these parts, if there is one. -/
def ofParts? (negative : Bool) (mantissa exponent : Nat) : Option Double :=
  if h : mantissa < 9007199254740992 ∧ (exponent = 0 ∨ 4503599627370496 ≤ mantissa) ∧
      exponent ≤ 2045 then
    some ⟨negative, mantissa, exponent, h.1, h.2.1, h.2.2⟩
  else none

/-- Zero with a sign. -/
def zero (negative : Bool) : Double := ⟨negative, 0, 0, by decide, .inl rfl, by decide⟩

/-- How many bits of a magnitude lie below the 53 that a mantissa holds. -/
def excessBits (magnitude : Nat) : Nat :=
  if magnitude = 0 then 0 else magnitude.log2 - 52

/-- A magnitude cut to 53 significant bits by rounding to nearest. -/
def roundMagnitude (magnitude : Nat) : Nat :=
  let excess := excessBits magnitude
  roundDiv magnitude (1 <<< excess) <<< excess

/-- The double nearest to `num / den`, a half going to the even mantissa; none past the largest
finite one. -/
def nearest? (negative : Bool) (num den : Nat) : Option Double :=
  let scaled := num <<< 1074
  let excess := excessBits (scaled / den)
  let mantissa := roundDiv scaled (den <<< excess)
  if mantissa = 9007199254740992 then ofParts? negative 4503599627370496 (excess + 1)
  else ofParts? negative mantissa excess

/-- The double nearest to a product; none past the largest finite one. -/
def mul? (a b : Double) : Option Double :=
  nearest? (a.negative != b.negative) (a.magnitude * b.magnitude) (1 <<< 2148)

/-- The double nearest to a quotient; none past the largest finite one or over zero. -/
def div? (a b : Double) : Option Double :=
  if b.mantissa = 0 then none
  else nearest? (a.negative != b.negative) a.magnitude b.magnitude

end Double

end SearchIndex
