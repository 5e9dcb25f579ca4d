import SearchIndex.Number.Double

/-! Decimal text of numbers. Writing a double takes the decimal with the fewest digits that rounds
to it and, of several, the nearest. Reading keeps the digits that a 64-bit word holds and scales
them by a power of ten in the arithmetic of doubles, which rounds at each step: a text of many
digits may read as a neighbour of the double nearest to it, and a written double need not read as
itself. -/
namespace SearchIndex

/-- The decimal digits of a number. -/
def digitsOf (n : Nat) : List Char := Nat.toDigits 10 n

/-- The number that decimal digits spell. -/
def ofDigits (digits : List Char) : Nat :=
  digits.foldl (fun total c => 10 * total + (c.toNat - 48)) 0

/-- A number extended by decimal digits for as long as a 64-bit word holds it, and the digits that
are left. -/
def extendWord (word : Nat) : List Char → Nat × List Char
  | [] => (word, [])
  | c :: rest =>
    let extended := 10 * word + (c.toNat - 48)
    if extended < 18446744073709551616 then extendWord extended rest else (word, c :: rest)

/-- A positive decimal: `coefficient · 10^exponent`. -/
structure Decimal where
  coefficient : Nat
  exponent : Int
deriving DecidableEq

namespace Decimal

/-- The decimal that a text with these digits before and behind the point and this exponent reads
as. Of the digits that a word does not hold, those before the point count for the exponent and those
behind it are dropped. -/
def ofText (whole fraction : List Char) (exponent : Int) : Decimal :=
  let (word, wholeLeft) := extendWord 0 whole
  let (word, fractionLeft) := extendWord word fraction
  ⟨word, exponent + wholeLeft.length - (fraction.length - fractionLeft.length)⟩

/-- The decimal as a quotient of whole numbers. -/
def ratio (d : Decimal) : Nat × Nat :=
  if 0 ≤ d.exponent then (d.coefficient * Nat.pow 10 d.exponent.toNat, 1)
  else (d.coefficient, Nat.pow 10 (-d.exponent).toNat)

/-- The exponent of ten at the leading digit, so that the decimal is `d.ddd · 10^leading`. -/
def leading (d : Decimal) : Int := d.exponent + (digitsOf d.coefficient).length - 1

/-- The same decimal with trailing zeros moved into the exponent. A coefficient of `n` digits has
fewer than `n` of them. -/
def trim (d : Decimal) : Decimal :=
  go (digitsOf d.coefficient).length d
where
  go : Nat → Decimal → Decimal
    | 0, d => d
    | fuel + 1, d =>
      if d.coefficient % 10 == 0 then go fuel ⟨d.coefficient / 10, d.exponent + 1⟩ else d

/-- The double that a decimal reads as, for a coefficient below `2^64`: the coefficient and a power
of ten are rounded to doubles, and so is their product or quotient. No double holds a power of ten
past `10^308`, so dividing by more takes two steps, and by more than two such powers leaves zero.
There is none past the largest double. -/
def toDouble? (negative : Bool) (d : Decimal) : Option Double := do
  let result ←
    if d.coefficient = 0 then some (.zero false)
    else if 308 < d.exponent then none
    else if d.exponent < -616 then some (.zero false)
    else
      let start ← Double.nearest? false d.coefficient 1
      if 0 ≤ d.exponent then start.mul? (← powerOfTen? d.exponent.toNat)
      else if -308 ≤ d.exponent then start.div? (← powerOfTen? (-d.exponent).toNat)
      else
        let scaled ← start.div? (← powerOfTen? 308)
        scaled.div? (← powerOfTen? (-d.exponent - 308).toNat)
  return { result with negative }
where
  powerOfTen? (exponent : Nat) : Option Double := Double.nearest? false (Nat.pow 10 exponent) 1

end Decimal

namespace Double

/-- The exponent of ten at the leading digit of `num / den`, for positive `num` and `den`. -/
def leadingExponent (num den : Nat) : Int :=
  if den ≤ num then (digitsOf (num / den)).length - 1
  else -((digitsOf ((den + num - 1) / num - 1)).length : Int)

/-- Half of the distance to the next double below, in quarter steps. It is shorter at a power of
two, where the doubles below lie twice as close. -/
def roomBelow (d : Double) : Nat :=
  if d.mantissa = 4503599627370496 ∧ d.exponent ≠ 0 then 1 <<< d.exponent else 2 <<< d.exponent

/-- Half of the distance to the next double above, in quarter steps. -/
def roomAbove (d : Double) : Nat := 2 <<< d.exponent

/-- Whether `num / den` quarter steps round to this double: the bounds themselves do when the
mantissa is even. -/
def roundsTo (d : Double) (num den : Nat) : Bool :=
  let center := 4 * d.magnitude
  let low := (center - d.roomBelow) * den
  let high := (center + d.roomAbove) * den
  if d.mantissa % 2 = 0 then low ≤ num && num ≤ high else low < num && num < high

/-- The neighbour of this double on the grid of `10^exponent` that rounds to it, if there is one; of
two, the nearer, and of two equally near, the even one. -/
def onGrid? (d : Double) (exponent : Int) : Option Decimal :=
  let unit := (Decimal.mk 1 exponent).ratio
  let scale := 1 <<< 1076
  let num := 4 * d.magnitude * unit.2
  let den := unit.1 * scale
  let below := num / den
  let fits (k : Nat) : Bool := d.roundsTo (k * unit.1 * scale) unit.2
  let nearer := roundDiv num den
  let other := if nearer = below then below + 1 else below
  if fits nearer then some ⟨nearer, exponent⟩
  else if fits other then some ⟨other, exponent⟩
  else none

/-- The decimal with the fewest digits that rounds to this double. Seventeen digits always
suffice, so the exact expansion that closes the definition is never needed. -/
def shortest (d : Double) : Decimal :=
  let leading := leadingExponent d.magnitude (1 <<< 1074)
  match (List.range 17).findSome? fun (more : Nat) => d.onGrid? (leading - more) with
  | some decimal => decimal.trim
  | none => ⟨d.magnitude * Nat.pow 5 1074, -1074⟩

/-- The exponents of the leading digit for which a double is written without an exponent. -/
def positional (leading : Int) : Bool := -5 ≤ leading && leading ≤ 15

/-- Digits with the point where the leading exponent puts it, and at least one digit on each side
of it. -/
def positionalText (digits : List Char) (leading : Int) : List Char :=
  if leading < 0 then
    '0' :: '.' :: (List.replicate (-leading - 1).toNat '0' ++ digits)
  else
    let whole := leading.toNat + 1
    let padded := digits ++ List.replicate (whole - digits.length) '0'
    let fraction := padded.drop whole
    padded.take whole ++ '.' :: (if fraction.isEmpty then ['0'] else fraction)

/-- One digit, the others after a point if there are any, and the exponent with its sign. -/
def scientificText (digits : List Char) (leading : Int) : List Char :=
  let point := match digits with
    | [] => []
    | [digit] => [digit]
    | digit :: rest => digit :: '.' :: rest
  point ++ 'e' :: (if leading < 0 then '-' else '+') :: digitsOf leading.natAbs

/-- The text of a double: positional from `0.00001` up to sixteen whole digits, otherwise
scientific. -/
def chars (d : Double) : List Char :=
  let sign := if d.negative then ['-'] else []
  if d.mantissa = 0 then sign ++ ['0', '.', '0']
  else
    let decimal := d.shortest
    let digits := digitsOf decimal.coefficient
    let leading := decimal.leading
    sign ++ (if positional leading then positionalText digits leading
      else scientificText digits leading)

end Double

end SearchIndex
