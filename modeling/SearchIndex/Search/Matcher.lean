import SearchIndex.Document
import SearchIndex.Text.Distance
import SearchIndex.Text.LowerCase
import SearchIndex.Text.Word

/-! Matching documents with the words of a query. Each query word has to match some word of the
searched fields, as a part of it or with a few typing errors; the score of a document is the number
of errors in the best matches. -/
namespace SearchIndex

/-- What is searched and how many errors are forgiven. -/
structure Matcher where
  /-- The fields searched; none means all. -/
  keys : List String
  /-- The length from which a query word may have one error. -/
  oneTypoLength : Nat
  /-- The length from which a query word may have two errors. -/
  twoTyposLength : Nat
deriving DecidableEq, Repr

/-- The words of a query, in lower case. -/
def lowerWords (query : String) : List (List Char) := words (lowerChars query.toList)

/-- Whether a word occurs inside another. -/
def occursIn (part : List Char) : List Char → Bool
  | [] => part.isEmpty
  | c :: rest => part.isPrefixOf (c :: rest) || occursIn part rest

mutual

/-- The words that a value offers to a search: those of a string in lower case, a number as one
word, and those of the items of a list. -/
def Value.words : Value → List (List Char)
  | .string text => lowerWords text
  | .number n => [n.chars]
  | .array items => Value.itemsWords items
  | .null | .bool _ | .object _ => []

/-- The words of the items of a list. -/
def Value.itemsWords : List Value → List (List Char)
  | [] => []
  | item :: rest => item.words ++ Value.itemsWords rest

end

/-- The lesser of two numbers of errors, of which either may be missing. -/
def lesser : Option Nat → Option Nat → Option Nat
  | none, other => other
  | found, none => found
  | some a, some b => some (if b < a then b else a)

namespace Matcher

/-- How many errors a query word of some length may have. -/
def budget (matcher : Matcher) (length : Nat) : Nat :=
  if matcher.twoTyposLength ≤ length then 2
  else if matcher.oneTypoLength ≤ length then 1
  else 0

/-- The number of errors with which a query word matches a word, if it does: none when it occurs
there, else those in the whole word, else those in a beginning of the word that is as long as the
query word. -/
def wordErrors (matcher : Matcher) (query word : List Char) : Option Nat :=
  if occursIn query word then some 0
  else
    let most := matcher.budget query.length
    let whole := Distance.between query word
    let beginning := Distance.between query (word.take query.length)
    if most = 0 then none
    else if whole ≤ most then some whole
    else if query.length < word.length ∧ beginning ≤ most then some beginning
    else none

/-- The words of a document that are searched. -/
def documentWords (matcher : Matcher) (document : Document) : List (List Char) :=
  if matcher.keys.isEmpty then document.fields.flatMap fun entry => entry.2.words
  else matcher.keys.flatMap fun key =>
    match document.get? key with
    | some value => value.words
    | none => []

/-- The least number of errors with which a query word matches one of some words. -/
def bestMatch (matcher : Matcher) (found : List (List Char)) (query : List Char) : Option Nat :=
  found.foldl (fun best word => lesser best (matcher.wordErrors query word)) none

/-- The sum of the errors in the best matches of query words with some words. -/
def totalErrors (matcher : Matcher) (found : List (List Char)) : List (List Char) → Option Nat
  | [] => some 0
  | query :: rest => do
    let best ← matcher.bestMatch found query
    let others ← matcher.totalErrors found rest
    return best + others

/-- The score of a document for query words. A document without words matches nothing. -/
def score (matcher : Matcher) (document : Document) (queries : List (List Char)) : Option Nat :=
  let found := matcher.documentWords document
  if found.isEmpty then none else matcher.totalErrors found queries

end Matcher

end SearchIndex
