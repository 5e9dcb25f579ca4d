import SearchIndex.Filter.Meaning
import SearchIndex.Search.Matcher
import SearchIndex.Search.Result
import SearchIndex.Search.SortOrder

/-! The engine that answers searches over documents in memory: it matches the words of the query,
applies the filter, sorts, counts facets over all that is left and cuts out one page. -/
namespace SearchIndex

/-- The text under which a facet counts a value; lists, records and null are not counted. -/
def facetText? : Value → Option String
  | .string text => some text
  | .number number => some (String.ofList number.chars)
  | .bool true => some "true"
  | .bool false => some "false"
  | .null | .array _ | .object _ => none

/-- The texts that a field adds to a facet: those of its items if it holds a list. -/
def facetTexts : Option Value → List String
  | some (.array items) => items.filterMap facetText?
  | some value => (facetText? value).toList
  | none => []

/-- How often each text occurs. -/
def countTexts (texts : List String) : KeyMap Nat :=
  texts.foldl (fun counts text => KeyMap.alter (fun count => count.getD 0 + 1) text counts) []

/-- The counts of some fields over documents. A field without values has no entry. -/
def countFacets (fields : List String) (documents : List Document) : Facets :=
  fields.foldl (fun facets field =>
    let counts := countTexts (documents.flatMap fun document => facetTexts (document.get? field))
    if counts.isEmpty then facets else KeyMap.put field counts facets) []

/-- An engine. -/
structure Engine where
  matcher : Matcher
  pageSize : Nat
  pageSize_pos : 0 < pageSize

namespace Engine

/-- The engine with a page size, of at least one. -/
def ofPageSize (matcher : Matcher) (pageSize : Nat) : Engine :=
  if h : 0 < pageSize then ⟨matcher, pageSize, h⟩ else ⟨matcher, 1, by decide⟩

/-- The engine that searches all fields, forgives one error from four characters and two from
eight, and has pages of ten. -/
def standard : Engine := ofPageSize ⟨[], 4, 8⟩ 10

/-- The documents that match some query words, the best first. Without words all do. Scores are
ordered totally, so that every library sorts by them alike. -/
def ranked (engine : Engine) (documents : List Document) (queries : List (List Char)) :
    List Document :=
  if queries.isEmpty then documents
  else
    let scored := documents.filterMap fun document =>
      (engine.matcher.score document queries).map fun score => (score, document)
    (stableSort (fun a b => a.1 < b.1) scored).map Prod.snd

/-- The documents that match a query and pass a test, the best first. -/
def accepted (engine : Engine) (documents : List Document) (query : String)
    (accepts : Document → Bool) : List Document :=
  (engine.ranked documents (lowerWords query)).filter accepts

/-- The documents that answer a search, on all pages, if the sort does not stop. -/
def hits (engine : Engine) (sorter : Sorter) (documents : List Document) (query : String)
    (accepts : Document → Bool) (sort : List SortKey) : Option (List Document) :=
  SortKey.sortDocuments sorter sort (engine.accepted documents query accepts)

/-- The greatest number that a word holds. -/
def greatestWord : Nat := 18446744073709551615

/-- The number of documents in front of a page. It is counted in a word and stops at the greatest. -/
def pageStart (engine : Engine) (page : Nat) : Nat := min (page * engine.pageSize) greatestWord

/-- The documents that stand on a page. -/
def onPage (engine : Engine) (page : Nat) (found : List Document) : List Document :=
  (found.drop (engine.pageStart page)).take engine.pageSize

/-- The test of the documents that options ask for. -/
def filterTest : Option Filter → Except Error (Document → Bool)
  | some filter => filter.predicate
  | none => .ok fun _ => true

/-- The answer that the found documents make. -/
def answer (engine : Engine) (query : String) (options : Options) (found : List Document) : Result :=
  { query
    page := options.page
    total := .ofRecords found.length engine.pageSize
    sort := options.sort
    records := engine.onPage options.page found
    facets := countFacets options.facets found
    filters := options.filters.map .tree }

/-- The answer to a search over documents, or nothing if the sort stops. -/
def execute (engine : Engine) (sorter : Sorter) (documents : List Document) (query : String)
    (options : Options) : Except Error (Option Result) := do
  let accepts ← filterTest options.filters
  let hits := engine.hits sorter documents query accepts options.sort
  return hits.map (engine.answer query options)

/-- The answer to a search over documents by an engine that sorts by insertion, which never stops.
-/
def search (engine : Engine) (documents : List Document) (query : String) (options : Options) :
    Except Error Result := do
  let accepts ← filterTest options.filters
  let found := engine.accepted documents query accepts
  return engine.answer query options
    ((SortKey.sortDocuments .byInsertion options.sort found).get (SortKey.sort_by_insertion_some ..))

end Engine

end SearchIndex
