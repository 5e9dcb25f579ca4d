import SearchIndex.Filter.Basic
import SearchIndex.Text.Blank

/-! Formulas of the services' filter languages and their text. A clause tests one field, negation
stands before a clause or before a bracketed formula, and a chain joins bracketed formulas by one
word. -/
namespace SearchIndex

/-- A literal of a filter language. -/
inductive Literal where
  | text (text : String)
  | number (number : Number)
  | bool (value : Bool)

/-- A test of one field. -/
inductive Clause where
  | compare (field : String) (comparison : Comparison) (literal : Literal)
  | between (field : String) (low high : Literal)
  | oneOf (field : String) (literals : List Literal)
  | noneOf (field : String) (literals : List Literal)

/-- A formula. -/
inductive Formula where
  | clause (clause : Clause)
  | notClause (clause : Clause)
  | notGroup (formula : Formula)
  | chain (combinator : Combinator) (parts : List Formula)

/-- How a filter language negates. -/
inductive Negation where
  /-- A word negates a bracketed formula. -/
  | group
  /-- A word negates a single clause. -/
  | clause
  /-- No word negates; a clause is replaced by its complement. -/
  | complement
deriving DecidableEq, Repr

/-- A text in round brackets. -/
def bracket (text : List Char) : List Char := '(' :: (text ++ [')'])

namespace Backend

/-- How the service's filter language negates. -/
def negation : Backend → Negation
  | .algolia => .clause
  | .meilisearch => .group
  | .typesense => .complement

/-- The word that joins the parts of a chain. -/
def joiner : Backend → Combinator → List Char
  | .typesense, .and => ['&', '&']
  | .typesense, .or => ['|', '|']
  | _, .and => ['A', 'N', 'D']
  | _, .or => ['O', 'R']

/-- The word of negation. -/
def negationWord : List Char := ['N', 'O', 'T']

end Backend

/-- The word between two parts of a chain, with a blank on each side. -/
def spaced (word : List Char) : List Char := ' ' :: (word ++ [' '])

/-- A text with a backslash before each backslash and each closing quote. -/
def escapeQuote (quote : Char) (text : List Char) : List Char :=
  text.flatMap fun c => if c = '\\' || c = quote then ['\\', c] else [c]

namespace Algolia

/-- Whether a text has to stand in quotes: the words of the language and texts with characters that
mean something in it do, and the empty text. -/
def needsQuotes (text : List Char) : Bool :=
  text.isEmpty ||
    [['A', 'N', 'D'], ['O', 'R'], ['N', 'O', 'T'], ['T', 'O']].contains text ||
    text.any fun c => isBlank c || [':', '"', '\'', '(', ')', '%'].contains c

/-- The text of a string literal. -/
def textChars (text : List Char) : List Char :=
  if needsQuotes text then '"' :: (escapeQuote '"' text ++ ['"']) else text

/-- The text of a comparison. -/
def compareChars (field : List Char) (comparison : Comparison) (literal : List Char) : List Char :=
  match comparison with
  | .eq => field ++ ':' :: literal
  | .ne => Backend.negationWord ++ ' ' :: (field ++ ':' :: literal)
  | comparison => field ++ spaced comparison.symbol.toList ++ literal

/-- A chain of comparisons of one field. A single comparison stands alone. -/
def comparisonChain (field : List Char) (comparison : Comparison) (combinator : Combinator)
    (literals : List (List Char)) : List Char :=
  match literals.map (compareChars field comparison) with
  | [clause] => clause
  | clauses => bracket ((spaced (Backend.algolia.joiner combinator)).intercalate clauses)

end Algolia

namespace Meilisearch

/-- The text of a string literal, always in quotes. -/
def textChars (text : List Char) : List Char := '\'' :: (escapeQuote '\'' text ++ ['\''])

end Meilisearch

namespace Typesense

/-- Whether a text has to stand between backticks. -/
def needsQuotes (text : List Char) : Bool :=
  text.isEmpty ||
    text.any fun c => isBlank c || [',', '&', '|', '(', ')', '[', ']', ':'].contains c

/-- The text of a string literal. The language has no way to write a backtick. -/
def textChars (text : List Char) : List Char :=
  if needsQuotes text then '\x60' :: (text ++ ['\x60']) else text

end Typesense

/-- The text of a literal. -/
def Literal.chars (backend : Backend) : Literal → List Char
  | .text string =>
    match backend with
    | .algolia => Algolia.textChars string.toList
    | .meilisearch => Meilisearch.textChars string.toList
    | .typesense => Typesense.textChars string.toList
  | .number n => n.chars
  | .bool true => ['t', 'r', 'u', 'e']
  | .bool false => ['f', 'a', 'l', 's', 'e']

namespace Clause

/-- The text of a comparison. -/
def compareChars (backend : Backend) (field : List Char) (comparison : Comparison)
    (literal : List Char) : List Char :=
  match backend with
  | .algolia => Algolia.compareChars field comparison literal
  | .meilisearch => field ++ spaced comparison.symbol.toList ++ literal
  | .typesense => field ++ ':' :: (comparison.symbol.toList ++ literal)

/-- The text of a range. -/
def betweenChars (backend : Backend) (field low high : List Char) : List Char :=
  match backend with
  | .algolia => field ++ ':' :: (low ++ spaced ['T', 'O'] ++ high)
  | .meilisearch => field ++ ' ' :: (low ++ spaced ['T', 'O'] ++ high)
  | .typesense => field ++ ':' :: '[' :: (low ++ '.' :: '.' :: (high ++ [']']))

/-- The text of membership in a list. -/
def oneOfChars (backend : Backend) (field : List Char) (literals : List (List Char)) :
    List Char :=
  match backend with
  | .algolia => Algolia.comparisonChain field .eq .or literals
  | .meilisearch => field ++ " IN [".toList ++ [',', ' '].intercalate literals ++ [']']
  | .typesense => field ++ ":=[".toList ++ [','].intercalate literals ++ [']']

/-- The text of absence from a list. -/
def noneOfChars (backend : Backend) (field : List Char) (literals : List (List Char)) :
    List Char :=
  match backend with
  | .algolia => Algolia.comparisonChain field .ne .and literals
  | .meilisearch => field ++ " NOT IN [".toList ++ [',', ' '].intercalate literals ++ [']']
  | .typesense => field ++ ":!=[".toList ++ [','].intercalate literals ++ [']']

/-- The text of a clause. -/
def chars (backend : Backend) : Clause → List Char
  | .compare field comparison literal =>
    compareChars backend field.toList comparison (literal.chars backend)
  | .between field low high =>
    betweenChars backend field.toList (low.chars backend) (high.chars backend)
  | .oneOf field literals => oneOfChars backend field.toList (literals.map (Literal.chars backend))
  | .noneOf field literals =>
    noneOfChars backend field.toList (literals.map (Literal.chars backend))

end Clause

namespace Formula

mutual

/-- The text of a formula. -/
def chars (backend : Backend) : Formula → List Char
  | .clause test => test.chars backend
  | .notClause test => Backend.negationWord ++ ' ' :: test.chars backend
  | .notGroup formula => Backend.negationWord ++ ' ' :: bracket (chars backend formula)
  | .chain combinator parts =>
    (spaced (backend.joiner combinator)).intercalate (bracketAll backend parts)

/-- The texts of formulas, each in brackets. -/
def bracketAll (backend : Backend) : List Formula → List (List Char)
  | [] => []
  | formula :: rest => bracket (chars backend formula) :: bracketAll backend rest

end

/-- The text of a formula. -/
def text (backend : Backend) (formula : Formula) : String :=
  String.ofList (formula.chars backend)

end Formula

end SearchIndex
