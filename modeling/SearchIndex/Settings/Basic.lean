import SearchIndex.Value.Record

/-! Settings of an index: which engine or service it stands on, and what that needs. Settings are
written as a record with the name of the engine in front of its fields, or under `adapter`. -/
namespace SearchIndex

/-- Settings of the engine in memory. -/
structure MemorySettings where
  pageSize : Nat
  /-- The fields searched; none means all. -/
  keys : List String
  oneTypoLength : Nat
  twoTyposLength : Nat
deriving DecidableEq, Repr

/-- Settings of an index at Algolia. -/
structure AlgoliaSettings where
  index : String
  pageSize : Nat
  appId : String
  apiKey : String
  /-- An address to use instead of the application's own. -/
  host : Option String
deriving DecidableEq, Repr

/-- Settings of an index at MeiliSearch. -/
structure MeilisearchSettings where
  index : String
  pageSize : Nat
  host : String
  apiKey : String
deriving DecidableEq, Repr

/-- Settings of a collection at Typesense. Requests go to the first node. -/
structure TypesenseSettings where
  collection : String
  pageSize : Nat
  nodes : List String
  apiKey : String
  queryBy : List String
deriving DecidableEq, Repr

/-- Settings of an index. -/
inductive Settings where
  | memory (settings : MemorySettings)
  | algolia (settings : AlgoliaSettings)
  | meilisearch (settings : MeilisearchSettings)
  | typesense (settings : TypesenseSettings)
deriving DecidableEq, Repr

/-- How many documents a page holds where settings do not say. -/
def standardPageSize : Nat := 10

namespace MemorySettings

/-- The settings that hold where none are given. -/
def standard : MemorySettings := ⟨standardPageSize, [], 4, 8⟩

/-- The fields, in order. -/
def fieldNames : List String :=
  ["page_size", "keys", "min_word_size_for_1_typo", "min_word_size_for_2_typos"]

/-- The settings that a value spells. -/
def read? (value : Value) : Option MemorySettings := do
  match ← Record.fields? fieldNames value with
  | [pageSize, keys, oneTypoLength, twoTyposLength] =>
    return {
      pageSize := ← Record.withDefault standard.pageSize Value.nat? pageSize
      keys := ← Record.withDefault standard.keys (Record.list Value.string?) keys
      oneTypoLength := ← Record.withDefault standard.oneTypoLength Value.nat? oneTypoLength
      twoTyposLength := ← Record.withDefault standard.twoTyposLength Value.nat? twoTyposLength }
  | _ => none

end MemorySettings

namespace AlgoliaSettings

/-- The settings that a value spells. -/
def read? (value : Value) : Option AlgoliaSettings := do
  match ← Record.fields? ["index", "page_size", "app_id", "api_key", "host"] value with
  | [index, pageSize, appId, apiKey, host] =>
    return {
      index := ← Record.required Value.string? index
      pageSize := ← Record.withDefault standardPageSize Value.nat? pageSize
      appId := ← Record.required Value.string? appId
      apiKey := ← Record.required Value.string? apiKey
      host := ← Record.optional Value.string? host }
  | _ => none

end AlgoliaSettings

namespace MeilisearchSettings

/-- The settings that a value spells. -/
def read? (value : Value) : Option MeilisearchSettings := do
  match ← Record.fields? ["index", "page_size", "host", "api_key"] value with
  | [index, pageSize, host, apiKey] =>
    return {
      index := ← Record.required Value.string? index
      pageSize := ← Record.withDefault standardPageSize Value.nat? pageSize
      host := ← Record.required Value.string? host
      apiKey := ← Record.withDefault "" Value.string? apiKey }
  | _ => none

end MeilisearchSettings

namespace TypesenseSettings

/-- The settings that a value spells. -/
def read? (value : Value) : Option TypesenseSettings := do
  match ← Record.fields? ["collection", "page_size", "nodes", "api_key", "query_by"] value with
  | [collection, pageSize, nodes, apiKey, queryBy] =>
    return {
      collection := ← Record.required Value.string? collection
      pageSize := ← Record.withDefault standardPageSize Value.nat? pageSize
      nodes := ← Record.required (Record.list Value.string?) nodes
      apiKey := ← Record.required Value.string? apiKey
      queryBy := ← Record.required (Record.list Value.string?) queryBy }
  | _ => none

end TypesenseSettings

namespace Settings

/-- The settings of a named engine that a value spells. -/
def readNamed? (name : String) (value : Value) : Option Settings :=
  if name = "memory" then (MemorySettings.read? value).map .memory
  else if name = "algolia" then (AlgoliaSettings.read? value).map .algolia
  else if name = "meilisearch" then (MeilisearchSettings.read? value).map .meilisearch
  else if name = "typesense" then (TypesenseSettings.read? value).map .typesense
  else none

/-- The settings that a value spells. -/
def read? : Value → Option Settings
  | .object entries =>
    match Fields.get? entries "adapter" with
    | some (.string name) => readNamed? name (.object entries)
    | _ => none
  | .array (.string name :: fields) => readNamed? name (.array fields)
  | _ => none

/-- A list of texts as a value. -/
def textsValue (texts : List String) : Value := .array (texts.map .string)

/-- The settings as a record with all fields. -/
def toValue : Settings → Value
  | .memory settings =>
    .object [("adapter", .string "memory"),
      ("page_size", Value.ofNat settings.pageSize),
      ("keys", textsValue settings.keys),
      ("min_word_size_for_1_typo", Value.ofNat settings.oneTypoLength),
      ("min_word_size_for_2_typos", Value.ofNat settings.twoTyposLength)]
  | .algolia settings =>
    .object [("adapter", .string "algolia"),
      ("index", .string settings.index),
      ("page_size", Value.ofNat settings.pageSize),
      ("app_id", .string settings.appId),
      ("api_key", .string settings.apiKey),
      ("host", (settings.host.map Value.string).getD .null)]
  | .meilisearch settings =>
    .object [("adapter", .string "meilisearch"),
      ("index", .string settings.index),
      ("page_size", Value.ofNat settings.pageSize),
      ("host", .string settings.host),
      ("api_key", .string settings.apiKey)]
  | .typesense settings =>
    .object [("adapter", .string "typesense"),
      ("collection", .string settings.collection),
      ("page_size", Value.ofNat settings.pageSize),
      ("nodes", textsValue settings.nodes),
      ("api_key", .string settings.apiKey),
      ("query_by", textsValue settings.queryBy)]

end Settings

end SearchIndex
