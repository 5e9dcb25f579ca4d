import SearchIndex.Dialect.Compile
import SearchIndex.Hosted.Answer
import SearchIndex.Settings.Basic

/-! An index at Algolia. The service keeps a document's identifier under `objectID` and adds fields
of its own to hits; it sorts by the choice of an index, so sort keys are dropped. -/
namespace SearchIndex.Algolia

/-- An index at Algolia. -/
structure Service where
  client : Client
  index : String
  pageSize : Nat

/-- The field that holds a document's identifier. -/
def idField : String := "objectID"

/-- The fields that the service adds to hits. -/
def hitFields : List String :=
  ["_highlightResult", "_snippetResult", "_rankingInfo", "_distinctSeqID"]

/-- A document as the service stores it. -/
def encode (document : Document) : Value :=
  .object (Fields.insert document.fields idField (.string document.id))

/-- The document that a stored record or a hit holds. -/
def decode (hit : Fields) : Except Error Document :=
  let restored := match Fields.get? hit idField with
    | some id => Fields.insert (Fields.remove hit idField) "id" id
    | none => hit
  Document.ofFields (hitFields.foldl Fields.remove restored)

/-- The hits of one query. -/
def readQuery? (value : Value) : Option Answer := do
  match ← Record.fields? ["hits", "nbHits", "page", "facets"] value with
  | [hits, found, page, facets] =>
    return {
      hits := ← Record.withDefault [] (Record.list Value.object?) hits
      found := ← Record.withDefault 0 Value.nat? found
      page := ← Record.optional Value.nat? page
      facets := ← Record.withDefault [] Answer.facets? facets }
  | _ => none

/-- The answer to the first of some queries. -/
def readAnswer? (value : Value) : Option Answer := do
  match ← Record.fields? ["results"] value with
  | [results] =>
    let answers ← Record.withDefault [] (Record.list readQuery?) results
    return answers.head?.getD ⟨[], 0, none, []⟩
  | _ => none

namespace Service

/-- The service of some settings. -/
def ofSettings (settings : AlgoliaSettings) : Service :=
  let host := settings.host.getD s!"https://{settings.appId}-dsn.algolia.net"
  { client := {
      backend := .algolia
      base := Url.trimBase host
      headers := [("x-algolia-application-id", settings.appId),
        ("x-algolia-api-key", settings.apiKey)] }
    index := settings.index
    pageSize := if settings.pageSize = 0 then 1 else settings.pageSize }

/-- The path of the index. -/
def indexPath (service : Service) : List Char :=
  "/1/indexes/".toList ++ Url.encodeSegment service.index

/-- The path of a document. -/
def documentPath (service : Service) (id : String) : List Char :=
  service.indexPath ++ '/' :: Url.encodeSegment id

/-- The query that a search sends. -/
def searchValue (service : Service) (query : String) (options : Options) (compiled : Compiled) :
    Value :=
  .object ([("indexName", .string service.index),
    ("query", .string query),
    ("page", Value.ofNat options.page),
    ("hitsPerPage", Value.ofNat service.pageSize)] ++
    (if options.facets.isEmpty then []
      else [("facets", .array (options.facets.map .string))]) ++
    match compiled with
    | .expression formula => [("filters", .string (formula.text .algolia))]
    | _ => [])

/-- Searches the index. -/
def search (service : Service) (query : String) (asked : Options) : Call Result :=
  let options := { asked with sort := [] }
  match Backend.algolia.compile options.filters with
  | .error error => .done (.error error)
  | .ok .nothing => .done (.ok (.empty query options))
  | .ok compiled =>
    let request := service.searchValue query options compiled
    service.client.exchange .post "/1/indexes/*/queries".toList
      (.object [("requests", .array [request])]) fun value => do
        (← Answer.orFault (readAnswer? value)).result decode service.pageSize query options

/-- Fetches a document. -/
def get (service : Service) (id : String) : Call (Option Document) :=
  service.client.fetch (service.documentPath id) (Answer.fetched .algolia decode)

/-- Writes documents. -/
def submit (service : Service) (documents : List Document) : Call Unit :=
  let updates := documents.map fun document =>
    Value.object [("action", .string "updateObject"), ("body", encode document)]
  service.client.exchange .post (service.indexPath ++ "/batch".toList)
    (.object [("requests", .array updates)]) acknowledged

/-- Deletes a document. -/
def delete (service : Service) (id : String) : Call Unit :=
  service.client.remove (service.documentPath id)

/-- Moves the index to another name, with its rules and settings. -/
def swap (service : Service) (target : String) : Call Unit :=
  service.client.exchange .post (service.indexPath ++ "/operation".toList)
    (.object [("operation", .string "move"), ("destination", .string target),
      ("scope", .array [.string "rules", .string "settings"])]) acknowledged

/-- Deletes all documents. -/
def clear (service : Service) : Call Unit :=
  service.client.exchange .post (service.indexPath ++ "/clear".toList) (.object []) acknowledged

end Service

end SearchIndex.Algolia
