import SearchIndex.Document
import SearchIndex.KeyMap
import SearchIndex.Search.Options

/-! Search results: one page of documents, the size of the whole, and counts of facet values. A
result repeats the query, the page, the order and the filters that it answers. -/
namespace SearchIndex

/-- How many values of each text a facet has, by facet. -/
abbrev Facets := KeyMap (KeyMap Nat)

/-- The number of matching documents and of the pages that they fill. -/
structure Total where
  pages : Nat
  records : Nat
deriving DecidableEq, Repr

namespace Total

/-- The total for a number of documents; the last page may be partly filled. A page holds at least
one document. -/
def ofRecords (records pageSize : Nat) : Total :=
  let size := if pageSize = 0 then 1 else pageSize
  ⟨(records + size - 1) / size, records⟩

/-- The total as a record. -/
def toValue (total : Total) : Value :=
  .object [("pages", Value.ofNat total.pages), ("records", Value.ofNat total.records)]

end Total

/-- The answer to a search. -/
structure Result where
  query : String
  page : Nat
  total : Total
  sort : List SortKey
  records : List Document
  facets : Facets
  filters : Option Criteria

namespace Result

/-- The answer without documents. -/
def empty (query : String) (options : Options) : Result :=
  { query
    page := options.page
    total := ⟨0, 0⟩
    sort := options.sort
    records := []
    facets := []
    filters := options.filters.map .tree }

/-- Facet counts as a record of records. -/
def facetsValue (facets : Facets) : Value :=
  .object (facets.map fun facet =>
    (facet.1, .object (facet.2.map fun count => (count.1, Value.ofNat count.2))))

/-- The answer as a record; filters that were not asked for are left out. -/
def toValue (result : Result) : Value :=
  .object ([("query", .string result.query),
    ("page", Value.ofNat result.page),
    ("total", result.total.toValue),
    ("sort", .array (result.sort.map SortKey.toValue)),
    ("records", .array (result.records.map Document.toValue)),
    ("facets", facetsValue result.facets)] ++
    match result.filters with
    | some filters => [("filters", filters.toValue)]
    | none => [])

end Result

end SearchIndex
