import SearchIndex.Dialect.Compile
import SearchIndex.Hosted.Answer
import SearchIndex.Settings.Basic

/-! An index at MeiliSearch. The service allows letters, digits, minus and underscore in
identifiers, so minus and slash are written as two characters each; pages count from one. -/
namespace SearchIndex.Meilisearch

/-- An index at MeiliSearch. -/
structure Service where
  client : Client
  index : String
  pageSize : Nat

/-- An identifier as the service keeps it. -/
def encodeChars : List Char → List Char
  | [] => []
  | '-' :: rest => '-' :: '_' :: encodeChars rest
  | '/' :: rest => '-' :: '-' :: encodeChars rest
  | c :: rest => c :: encodeChars rest

/-- The identifier that the service keeps in this form. A minus that begins no escape stands for
itself. -/
def decodeChars : List Char → List Char
  | [] => []
  | '-' :: '_' :: rest => '-' :: decodeChars rest
  | '-' :: '-' :: rest => '/' :: decodeChars rest
  | c :: rest => c :: decodeChars rest

/-- An identifier as the service keeps it. -/
def encodeId (id : String) : String := String.ofList (encodeChars id.toList)

/-- The identifier that the service keeps in this form. -/
def decodeId (id : String) : String := String.ofList (decodeChars id.toList)

/-- A document as the service stores it. -/
def encode (document : Document) : Value := (document.mapId encodeId).toValue

/-- The document that a stored record or a hit holds. -/
def decode (hit : Fields) : Except Error Document := do
  return (← Document.ofFields hit).mapId decodeId

/-- The answer to a search. -/
def readAnswer? (value : Value) : Option Answer := do
  match ← Record.fields? ["hits", "totalHits", "page", "facetDistribution"] value with
  | [hits, found, page, facets] =>
    return {
      hits := ← Record.withDefault [] (Record.list Value.object?) hits
      found := ← Record.withDefault 0 Value.nat? found
      page := (← Record.optional Value.nat? page).map (· - 1)
      facets := ← Record.withDefault [] Answer.facets? facets }
  | _ => none

namespace Service

/-- The service of some settings. Without a key none is sent. -/
def ofSettings (settings : MeilisearchSettings) : Service :=
  { client := {
      backend := .meilisearch
      base := Url.trimBase settings.host
      headers :=
        if settings.apiKey.isEmpty then []
        else [("authorization", s!"Bearer {settings.apiKey}")] }
    index := settings.index
    pageSize := if settings.pageSize = 0 then 1 else settings.pageSize }

/-- The path of the index. -/
def indexPath (service : Service) : List Char :=
  "/indexes/".toList ++ Url.encodeSegment service.index

/-- The path of all documents. -/
def collectionPath (service : Service) : List Char := service.indexPath ++ "/documents".toList

/-- The path of a document. -/
def documentPath (service : Service) (id : String) : List Char :=
  service.collectionPath ++ '/' :: Url.encodeSegment (encodeId id)

/-- The query that a search sends. -/
def searchValue (service : Service) (query : String) (options : Options) (compiled : Compiled) :
    Value :=
  .object ([("q", .string query),
    ("page", Value.ofNat (pageFromOne options.page)),
    ("hitsPerPage", Value.ofNat service.pageSize)] ++
    (if options.sort.isEmpty then []
      else [("sort", .array (options.sort.map fun key => .string key.text))]) ++
    (if options.facets.isEmpty then []
      else [("facets", .array (options.facets.map .string))]) ++
    match compiled with
    | .expression formula => [("filter", .string (formula.text .meilisearch))]
    | _ => [])

/-- Searches the index. -/
def search (service : Service) (query : String) (options : Options) : Call Result :=
  match Backend.meilisearch.compile options.filters with
  | .error error => .done (.error error)
  | .ok .nothing => .done (.ok (.empty query options))
  | .ok compiled =>
    service.client.exchange .post (service.indexPath ++ "/search".toList)
      (service.searchValue query options compiled) fun value => do
        (← Answer.orFault (readAnswer? value)).result decode service.pageSize query options

/-- Fetches a document. -/
def get (service : Service) (id : String) : Call (Option Document) :=
  service.client.fetch (service.documentPath id) (Answer.fetched .meilisearch decode)

/-- Writes documents. -/
def submit (service : Service) (documents : List Document) : Call Unit :=
  service.client.exchange .post (service.collectionPath ++ "?primaryKey=id".toList)
    (.array (documents.map encode)) acknowledged

/-- Deletes a document. -/
def delete (service : Service) (id : String) : Call Unit :=
  service.client.remove (service.documentPath id)

/-- Exchanges the index with another. -/
def swap (service : Service) (target : String) : Call Unit :=
  service.client.exchange .post "/swap-indexes".toList
    (.array [.object [("indexes", .array [.string target, .string service.index])]]) acknowledged

/-- Deletes all documents. -/
def clear (service : Service) : Call Unit := service.client.remove service.collectionPath

end Service

end SearchIndex.Meilisearch
