import SearchIndex.Number.Decimal

/-! Numbers of documents and filters: whole numbers of the 64-bit signed and unsigned ranges, and
doubles. Two whole numbers of the signed range are compared exactly; every other pair is compared
after rounding each side to a double. -/
namespace SearchIndex

/-- A number: a whole number that fits a signed or an unsigned word, or a double. A double stays a
double even when it is whole. -/
inductive Number where
  | integer (value : Int) (bounds : -9223372036854775808 ≤ value ∧ value < 18446744073709551616)
  | double (value : Double)
deriving DecidableEq

namespace Number

/-- The whole number with this value, if a word holds it. -/
def ofInt? (value : Int) : Option Number :=
  if h : -9223372036854775808 ≤ value ∧ value < 18446744073709551616 then some (.integer value h)
  else none

/-- The value of a whole number that fits a signed word. -/
def toSigned? : Number → Option Int
  | .integer value _ => if value < 9223372036854775808 then some value else none
  | .double _ => none

/-- The value of a whole number that fits an unsigned word. -/
def toUnsigned? : Number → Option Nat
  | .integer value _ => if 0 ≤ value then some value.toNat else none
  | .double _ => none

/-- The number of steps of the double nearest to a whole number. -/
def integerSteps (value : Int) : Int :=
  let magnitude : Int := ((Double.roundMagnitude value.natAbs <<< 1074 : Nat) : Int)
  if value < 0 then -magnitude else magnitude

/-- The number rounded to a double, as a number of steps. -/
def steps : Number → Int
  | .integer value _ => integerSteps value
  | .double d => d.steps

/-- Three-way comparison of whole numbers. -/
def orderInt (a b : Int) : Ordering := if a < b then .lt else if a = b then .eq else .gt

/-- Three-way comparison: exact between whole numbers of the signed range, and otherwise between
the nearest doubles. -/
def order (a b : Number) : Ordering :=
  match a.toSigned?, b.toSigned? with
  | some x, some y => orderInt x y
  | _, _ => orderInt a.steps b.steps

/-- Equality of representation: a whole number never equals a double, and the two zeros of a double
are equal. -/
def same : Number → Number → Bool
  | .integer a _, .integer b _ => a == b
  | .double a, .double b => a.steps == b.steps
  | _, _ => false

/-- The text of a number. -/
def chars : Number → List Char
  | .integer value _ =>
    if value < 0 then '-' :: digitsOf value.natAbs else digitsOf value.natAbs
  | .double d => d.chars

end Number

/-- The number below `2^64` that a text spells: decimal digits after an optional plus. -/
def readWord? (text : List Char) : Option Nat :=
  let digits := match text with
    | '+' :: rest => rest
    | text => text
  if digits.isEmpty || !digits.all Char.isDigit then none
  else
    let value := ofDigits digits
    if value < 18446744073709551616 then some value else none

end SearchIndex
