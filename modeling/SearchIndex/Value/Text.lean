import SearchIndex.Value.Basic

/-! The compact text of a value: no blanks between its parts, and strings quoted so that neither a
quote, a backslash nor a control character stands in them as itself. -/
namespace SearchIndex

/-- A lower-case hexadecimal digit. -/
def hexDigit (n : Nat) : Char := if n < 10 then Char.ofNat (48 + n) else Char.ofNat (87 + n)

/-- One character inside a quoted string. The control characters with a letter of their own are
written with it, the others with four hexadecimal digits. -/
def quotedChar (c : Char) : List Char :=
  if c = '"' then ['\\', '"']
  else if c = '\\' then ['\\', '\\']
  else if c = '\x08' then ['\\', 'b']
  else if c = '\x0c' then ['\\', 'f']
  else if c = '\n' then ['\\', 'n']
  else if c = '\r' then ['\\', 'r']
  else if c = '\t' then ['\\', 't']
  else if c.toNat < 32 then
    ['\\', 'u', '0', '0', hexDigit (c.toNat / 16), hexDigit (c.toNat % 16)]
  else [c]

/-- A string in quotes. -/
def quotedChars (text : List Char) : List Char := '"' :: (text.flatMap quotedChar ++ ['"'])

namespace Value

mutual

/-- The compact text as characters. -/
def chars : Value → List Char
  | .null => ['n', 'u', 'l', 'l']
  | .bool true => ['t', 'r', 'u', 'e']
  | .bool false => ['f', 'a', 'l', 's', 'e']
  | .number n => n.chars
  | .string text => quotedChars text.toList
  | .array items => '[' :: itemsChars items
  | .object entries => '{' :: entriesChars entries

/-- The items of a list and its closing bracket. -/
def itemsChars : List Value → List Char
  | [] => [']']
  | [item] => item.chars ++ [']']
  | item :: next :: rest => item.chars ++ ',' :: itemsChars (next :: rest)

/-- The entries of a record and its closing bracket. -/
def entriesChars : List (String × Value) → List Char
  | [] => ['}']
  | [(key, value)] => quotedChars key.toList ++ ':' :: (value.chars ++ ['}'])
  | (key, value) :: next :: rest =>
    quotedChars key.toList ++ ':' :: (value.chars ++ ',' :: entriesChars (next :: rest))

end

/-- The compact text. -/
def text (value : Value) : String := String.ofList value.chars

end Value

end SearchIndex
