import SearchIndex.Error
import SearchIndex.Settings.Basic
import SearchIndex.Text.Blank

/-! Settings taken from environment variables. A variable that is empty counts as not set, and the
engine in memory is meant where none is named. -/
namespace SearchIndex.Environment

/-- The value of each variable that is set. -/
abbrev Variables := String → Option String

/-- The value of a variable that is set and not empty. -/
def lookup (env : Variables) (name : String) : Option String :=
  match env name with
  | some text => if text.isEmpty then none else some text
  | none => none

/-- The value of a variable that has to be set. -/
def required (env : Variables) (name : String) : Except Error String :=
  match lookup env name with
  | some text => .ok text
  | none => .error (.ofSettings (.notSet name))

/-- The texts between commas, without blanks at their ends; empty ones are dropped. -/
def listOf (text : String) : List String :=
  ((text.toList.splitOn ',').map trimChars).filterMap fun item =>
    if item.isEmpty then none else some (String.ofList item)

/-- The page size. -/
def pageSize (env : Variables) : Except Error Nat :=
  match lookup env "UNSEARCH_PAGE_SIZE" with
  | none => .ok standardPageSize
  | some text =>
    match readWord? text.toList with
    | some size => .ok size
    | none => .error (.ofSettings (.pageSize "UNSEARCH_PAGE_SIZE" text))

/-- A text with its ASCII letters in lower case. -/
def lowerAscii (text : String) : String := String.ofList (text.toList.map Char.toLower)

/-- The settings that variables spell. A fault of the page size comes first, then that of the
engine's name or of its variables in the order of its fields. -/
def settings (env : Variables) : Except Error Settings := do
  let adapter := lowerAscii ((lookup env "UNSEARCH_ADAPTER").getD "memory")
  let pageSize ← pageSize env
  let queryBy := ((lookup env "UNSEARCH_QUERY_BY").map listOf).getD []
  if adapter = "memory" then
    return .memory { MemorySettings.standard with pageSize, keys := queryBy }
  else if adapter = "algolia" then
    return .algolia {
      index := ← required env "UNSEARCH_INDEX"
      pageSize
      appId := ← required env "UNSEARCH_APP_ID"
      apiKey := ← required env "UNSEARCH_API_KEY"
      host := lookup env "UNSEARCH_HOST" }
  else if adapter = "meilisearch" then
    return .meilisearch {
      index := ← required env "UNSEARCH_INDEX"
      pageSize
      host := ← required env "UNSEARCH_HOST"
      apiKey := (lookup env "UNSEARCH_API_KEY").getD "" }
  else if adapter = "typesense" then
    return .typesense {
      collection := ← required env "UNSEARCH_INDEX"
      pageSize
      nodes := listOf (← required env "UNSEARCH_NODES")
      apiKey := ← required env "UNSEARCH_API_KEY"
      queryBy }
  else .error (.ofSettings (.unknownAdapter adapter))

end SearchIndex.Environment
