import SearchIndex.Value.Basic

/-! Reading a value from its text. Blanks are allowed between parts, a repeated key keeps the last
value at the first place, and lists and records nest up to a limit. Every step of a reader gives
what it read and the text that is left; the steps that can nest spend a count that the length of
the text bounds. -/
namespace SearchIndex.Reader

/-- The blanks that may stand between the parts of a value. -/
def isBlank (c : Char) : Bool := c = ' ' || c = '\n' || c = '\r' || c = '\t'

/-- The text without leading blanks. -/
def skipBlanks (text : List Char) : List Char := text.dropWhile isBlank

/-- The value of a hexadecimal digit. -/
def hexValue? (c : Char) : Option Nat :=
  let n := c.toNat
  if 48 ≤ n && n ≤ 57 then some (n - 48)
  else if 97 ≤ n && n ≤ 102 then some (n - 87)
  else if 65 ≤ n && n ≤ 70 then some (n - 55)
  else none

/-- Four hexadecimal digits. -/
def hexUnit? (a b c d : Char) : Option Nat := do
  let a ← hexValue? a
  let b ← hexValue? b
  let c ← hexValue? c
  let d ← hexValue? d
  return ((a * 16 + b) * 16 + c) * 16 + d

/-- The character that an escape letter stands for. -/
def escaped? (c : Char) : Option Char :=
  if c = '"' || c = '\\' || c = '/' then some c
  else if c = 'b' then some '\x08'
  else if c = 'f' then some '\x0c'
  else if c = 'n' then some '\n'
  else if c = 'r' then some '\r'
  else if c = 't' then some '\t'
  else none

/-- The rest of a string after its opening quote. A code unit of the upper half of a pair is read
together with the lower half that has to follow it. -/
def stringRest : List Char → List Char → Option (String × List Char)
  | '"' :: rest, read => some (String.ofList read.reverse, rest)
  | '\\' :: 'u' :: a :: b :: c :: d :: '\\' :: 'u' :: e :: f :: g :: h :: rest, read => do
    let unit ← hexUnit? a b c d
    if 0xD800 ≤ unit && unit < 0xDC00 then
      let low ← hexUnit? e f g h
      if 0xDC00 ≤ low && low < 0xE000 then
        stringRest rest
          (Char.ofNat (0x10000 + (unit - 0xD800) * 0x400 + (low - 0xDC00)) :: read)
      else none
    else if 0xDC00 ≤ unit && unit < 0xE000 then none
    else stringRest ('\\' :: 'u' :: e :: f :: g :: h :: rest) (Char.ofNat unit :: read)
  | '\\' :: 'u' :: a :: b :: c :: d :: rest, read => do
    let unit ← hexUnit? a b c d
    if 0xD800 ≤ unit && unit < 0xE000 then none
    else stringRest rest (Char.ofNat unit :: read)
  | '\\' :: c :: rest, read => do stringRest rest ((← escaped? c) :: read)
  | c :: rest, read => if c.toNat < 32 then none else stringRest rest (c :: read)
  | [], _ => none

/-- A fraction: at least one digit after the point, or no point. -/
def fraction? : List Char → Option (List Char × List Char)
  | '.' :: rest =>
    let digits := rest.takeWhile Char.isDigit
    if digits.isEmpty then none else some (digits, rest.dropWhile Char.isDigit)
  | text => some ([], text)

/-- An exponent: a sign may precede its digits, of which there is at least one. -/
def exponent? (text : List Char) : Option (Option Int × List Char) :=
  match text with
  | c :: rest =>
    if c = 'e' || c = 'E' then
      let (negative, rest) := match rest with
        | '-' :: rest => (true, rest)
        | '+' :: rest => (false, rest)
        | rest => (false, rest)
      let digits := rest.takeWhile Char.isDigit
      if digits.isEmpty then none
      else
        let size : Int := ofDigits digits
        some (some (if negative then -size else size), rest.dropWhile Char.isDigit)
    else some (none, text)
  | [] => some (none, [])

/-- The parts of a written number. -/
structure Numeral where
  negative : Bool
  /-- The digits before the point. -/
  whole : List Char
  /-- The digits behind the point. -/
  fraction : List Char
  exponent : Option Int

namespace Numeral

/-- A number: an optional minus, digits without a leading zero, an optional fraction and an
optional exponent. -/
def read? (text : List Char) : Option (Numeral × List Char) := do
  let (negative, text) := match text with
    | '-' :: rest => (true, rest)
    | text => (false, text)
  let whole := text.takeWhile Char.isDigit
  if whole.isEmpty || (whole.length > 1 && whole.head? == some '0') then none
  else
    let (fraction, text) ← fraction? (text.dropWhile Char.isDigit)
    let (exponent, text) ← exponent? text
    return (⟨negative, whole, fraction, exponent⟩, text)

/-- The whole number that is written without a fraction and an exponent, if a word holds it. Minus
zero is none, as no whole number has that sign. -/
def integer? (numeral : Numeral) : Option Number :=
  let magnitude := ofDigits numeral.whole
  if !numeral.fraction.isEmpty || numeral.exponent.isSome then none
  else if numeral.negative && magnitude = 0 then none
  else Number.ofInt? (if numeral.negative then -(magnitude : Int) else magnitude)

/-- The number that is written: a whole number if there is one, else a double. -/
def number? (numeral : Numeral) : Option Number :=
  match numeral.integer? with
  | some number => some number
  | none =>
    let decimal := Decimal.ofText numeral.whole numeral.fraction (numeral.exponent.getD 0)
    (decimal.toDouble? numeral.negative).map .double

end Numeral

/-- A number that some representation holds. -/
def number? (text : List Char) : Option (Number × List Char) := do
  let (numeral, rest) ← Numeral.read? text
  return (← numeral.number?, rest)

mutual

/-- A value, which may nest `depth` lists or records. -/
def value? : Nat → Nat → List Char → Option (Value × List Char)
  | 0, _, _ => none
  | fuel + 1, depth, text =>
    match skipBlanks text with
    | 'n' :: 'u' :: 'l' :: 'l' :: rest => some (.null, rest)
    | 't' :: 'r' :: 'u' :: 'e' :: rest => some (.bool true, rest)
    | 'f' :: 'a' :: 'l' :: 's' :: 'e' :: rest => some (.bool false, rest)
    | '"' :: rest => do
      let (text, rest) ← stringRest rest []
      return (.string text, rest)
    | '[' :: rest =>
      match depth with
      | 0 => none
      | depth + 1 =>
        match skipBlanks rest with
        | ']' :: rest => some (.array [], rest)
        | _ => items? fuel depth rest []
    | '{' :: rest =>
      match depth with
      | 0 => none
      | depth + 1 =>
        match skipBlanks rest with
        | '}' :: rest => some (.object [], rest)
        | _ => entries? fuel depth rest []
    | text => do
      let (number, rest) ← number? text
      return (.number number, rest)

/-- The items of a list, at least one, and its closing bracket. -/
def items? : Nat → Nat → List Char → List Value → Option (Value × List Char)
  | 0, _, _, _ => none
  | fuel + 1, depth, text, read => do
    let (item, rest) ← value? fuel depth text
    match skipBlanks rest with
    | ',' :: rest => items? fuel depth rest (item :: read)
    | ']' :: rest => some (.array (item :: read).reverse, rest)
    | _ => none

/-- The entries of a record, at least one, and its closing bracket. -/
def entries? : Nat → Nat → List Char → Fields → Option (Value × List Char)
  | 0, _, _, _ => none
  | fuel + 1, depth, text, read =>
    match skipBlanks text with
    | '"' :: rest => do
      let (key, rest) ← stringRest rest []
      match skipBlanks rest with
      | ':' :: rest =>
        let (value, rest) ← value? fuel depth rest
        let read := Fields.insert read key value
        match skipBlanks rest with
        | ',' :: rest => entries? fuel depth rest read
        | '}' :: rest => some (.object read, rest)
        | _ => none
      | _ => none
    | _ => none

end

end SearchIndex.Reader

namespace SearchIndex.Value

/-- The value that a text spells, blanks around it allowed, if its lists and records nest at most
`depth` deep. -/
def read? (depth : Nat) (text : String) : Option Value :=
  let chars := text.toList
  match Reader.value? (chars.length + 1) depth chars with
  | some (value, rest) => if (Reader.skipBlanks rest).isEmpty then some value else none
  | none => none

end SearchIndex.Value
