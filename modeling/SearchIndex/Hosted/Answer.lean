import SearchIndex.Http.Client
import SearchIndex.Search.Result

/-! Search answers of hosted services. Each service writes its answers in a form of its own; read,
they hold the same parts. -/
namespace SearchIndex

/-- What a service answers to a search. -/
structure Answer where
  hits : List Fields
  /-- The number of documents on all pages. -/
  found : Nat
  /-- The page, counted from zero, if the service tells it. -/
  page : Option Nat
  facets : Facets

namespace Answer

/-- Counts of texts, from a record. -/
def counts? : Value → Option (KeyMap Nat)
  | .object entries => do
    return .ofEntries (← entries.mapM fun entry => do return (entry.1, ← entry.2.nat?))
  | _ => none

/-- Facet counts, from a record of records. -/
def facets? : Value → Option Facets
  | .object entries => do
    return .ofEntries (← entries.mapM fun entry => do return (entry.1, ← counts? entry.2))
  | _ => none

/-- An answer that has been read, or the fault of one that cannot be. -/
def orFault : Option α → Except Error α
  | some answer => .ok answer
  | none => .error (.decoding "the answer does not have the expected form")

/-- The documents that hits spell; the first that spells none is the error. -/
def documents (document : Fields → Except Error Document) :
    List Fields → Except Error (List Document)
  | [] => .ok []
  | hit :: rest => do
    let first ← document hit
    let others ← documents document rest
    return first :: others

/-- The result that an answer amounts to. -/
def result (answer : Answer) (document : Fields → Except Error Document) (pageSize : Nat)
    (query : String) (options : Options) : Except Error Result := do
  let records ← documents document answer.hits
  return {
    query
    page := answer.page.getD options.page
    total := .ofRecords answer.found pageSize
    sort := options.sort
    records
    facets := answer.facets
    filters := options.filters.map .tree }

/-- A fetched value as a document; it has to be a record. -/
def fetched (backend : Backend) (document : Fields → Except Error Document) :
    Value → Except Error Document
  | .object fields => document fields
  | found => .error (.document (.notObjectFrom backend found))

end Answer

/-- The largest page number. -/
def lastPage : Nat := 18446744073709551615

/-- A page counted from one. -/
def pageFromOne (page : Nat) : Nat := if page < lastPage then page + 1 else lastPage

/-- An operation that needs no more of an answer than that it can be read. -/
def acknowledged (_ : Value) : Except Error Unit := .ok ()

end SearchIndex
