import SearchIndex.Dialect.Compile
import SearchIndex.Hosted.Answer
import SearchIndex.Settings.Basic
import SearchIndex.Value.KnownFields

/-! A collection at Typesense. Searches are queries of a URL, with pages counted from one, and
documents are written as lines of text, each of which the service answers with a line. -/
namespace SearchIndex.Typesense

/-- A collection at Typesense. -/
structure Service where
  client : Client
  collection : String
  pageSize : Nat
  queryBy : String

/-- A facet: its field and the counts of its texts. -/
def readFacet? (value : Value) : Option (String × KeyMap Nat) := do
  match ← Record.fields? ["field_name", "counts"] value with
  | [field, counts] =>
    return (← Record.required Value.string? field,
      .ofEntries (← Record.withDefault [] (Record.list readCount?) counts))
  | _ => none
where
  readCount? (value : Value) : Option (String × Nat) := do
    match ← Record.fields? ["value", "count"] value with
    | [text, count] =>
      return (← Record.required Value.string? text, ← Record.required Value.nat? count)
    | _ => none

/-- The document inside a hit. -/
def readHit? (value : Value) : Option Fields := do
  match ← Record.fields? ["document"] value with
  | [document] => Record.required Value.object? document
  | _ => none

/-- The answer to a search. -/
def readAnswer? (value : Value) : Option Answer := do
  match ← Record.fields? ["found", "page", "hits", "facet_counts"] value with
  | [found, page, hits, facets] =>
    return {
      found := ← Record.withDefault 0 Value.nat? found
      page := (← Record.optional Value.nat? page).map (· - 1)
      hits := ← Record.withDefault [] (Record.list readHit?) hits
      facets := .ofEntries (← Record.withDefault [] (Record.list readFacet?) facets) }
  | _ => none

/-- The lines that write documents. -/
def importLines (documents : List Document) : List Char :=
  documents.flatMap fun document => document.toValue.chars ++ ['\n']

/-- What a line of the answer to an import says: whether a document was taken, and else why not.
What else it says is not looked at. -/
def readImportLine? (line : String) : Option (Bool × Option String) := do
  let names := ["success", "error"]
  match ← Record.fields? names (← Record.ofText? names line) with
  | [success, error] =>
    return (← Record.required Value.bool? success, ← Record.optional Value.string? error)
  | _ => none

/-- One line of the answer to an import has to tell of success. -/
def importLineOutcome (line : List Char) : Except Error Unit := do
  match ← Answer.orFault (readImportLine? (String.ofList line)) with
  | (true, _) => return ()
  | (false, reason) => .error (.rejected .typesense (reason.getD "import failed"))

/-- Lines of the answer to an import; blank ones are skipped and the first fault is the error. -/
def importLinesOutcome : List (List Char) → Except Error Unit
  | [] => .ok ()
  | line :: rest => do
    if !line.all isBlank then importLineOutcome line
    importLinesOutcome rest

/-- The answer to an import. -/
def importOutcome (body : String) : Except Error Unit :=
  importLinesOutcome (body.toList.splitOn '\n')

namespace Service

/-- The service of some settings, which have to name a node and a field to search. -/
def ofSettings (settings : TypesenseSettings) : Except Error Service :=
  match settings.nodes with
  | [] => .error (.ofSettings .noNode)
  | node :: _ =>
    if settings.queryBy.isEmpty then .error (.ofSettings .noQueryFields)
    else .ok {
      client := {
        backend := .typesense
        base := Url.trimBase node
        headers := [("x-typesense-api-key", settings.apiKey)] }
      collection := settings.collection
      pageSize := if settings.pageSize = 0 then 1 else settings.pageSize
      queryBy := ",".intercalate settings.queryBy }

/-- The path of all documents. -/
def collectionPath (service : Service) : List Char :=
  "/collections/".toList ++ Url.encodeSegment service.collection ++ "/documents".toList

/-- The path of a document. -/
def documentPath (service : Service) (id : String) : List Char :=
  service.collectionPath ++ '/' :: Url.encodeSegment id

/-- The query that a search sends. A blank query asks for every document. -/
def searchQuery (service : Service) (query : String) (options : Options) (compiled : Compiled) :
    List (String × String) :=
  [("q", if query.toList.all isBlank then "*" else query),
    ("query_by", service.queryBy),
    ("page", toString (pageFromOne options.page)),
    ("per_page", toString service.pageSize)] ++
    (if options.sort.isEmpty then []
      else [("sort_by", ",".intercalate (options.sort.map SortKey.text))]) ++
    (if options.facets.isEmpty then [] else [("facet_by", ",".intercalate options.facets)]) ++
    match compiled with
    | .expression formula => [("filter_by", formula.text .typesense)]
    | _ => []

/-- Searches the collection. -/
def search (service : Service) (query : String) (options : Options) : Call Result :=
  match Backend.typesense.compile options.filters with
  | .error error => .done (.error error)
  | .ok .nothing => .done (.ok (.empty query options))
  | .ok compiled =>
    service.client.query (service.collectionPath ++ "/search".toList)
      (service.searchQuery query options compiled) fun value => do
        (← Answer.orFault (readAnswer? value)).result Document.ofFields service.pageSize query
          options

/-- Fetches a document. -/
def get (service : Service) (id : String) : Call (Option Document) :=
  service.client.fetch (service.documentPath id) (Answer.fetched .typesense Document.ofFields)

/-- Writes documents. -/
def submit (service : Service) (documents : List Document) : Call Unit :=
  service.client.exchangeText (service.collectionPath ++ "/import?action=upsert".toList)
    (String.ofList (importLines documents)) importOutcome

/-- Deletes a document. -/
def delete (service : Service) (id : String) : Call Unit :=
  service.client.remove (service.documentPath id)

/-- Lets the alias with the collection's name stand for another collection. -/
def swap (service : Service) (target : String) : Call Unit :=
  service.client.exchange .put ("/aliases/".toList ++ Url.encodeSegment service.collection)
    (.object [("collection_name", .string target)]) acknowledged

/-- Deletes all documents. -/
def clear (service : Service) : Call Unit :=
  service.client.remove (service.collectionPath ++ "?truncate=true".toList)

end Service

end SearchIndex.Typesense
