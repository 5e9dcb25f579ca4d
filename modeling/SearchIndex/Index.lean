import SearchIndex.Hosted.Algolia
import SearchIndex.Hosted.Meilisearch
import SearchIndex.Hosted.Typesense
import SearchIndex.Search.Engine
import SearchIndex.Store

/-! An index of documents, which stands on the engine in memory or on a hosted service. Callers see
the same operations on either; what they write is brought into canonical form before the index is
asked. -/
namespace SearchIndex

/-- An index at a hosted service. -/
inductive Service where
  | algolia (service : Algolia.Service)
  | meilisearch (service : Meilisearch.Service)
  | typesense (service : Typesense.Service)

namespace Service

/-- Searches the index. -/
def search (query : String) (options : Options) : Service → Call Result
  | .algolia service => service.search query options
  | .meilisearch service => service.search query options
  | .typesense service => service.search query options

/-- Fetches a document. -/
def get (id : String) : Service → Call (Option Document)
  | .algolia service => service.get id
  | .meilisearch service => service.get id
  | .typesense service => service.get id

/-- Writes documents. -/
def submit (documents : List Document) : Service → Call Unit
  | .algolia service => service.submit documents
  | .meilisearch service => service.submit documents
  | .typesense service => service.submit documents

/-- Deletes a document. -/
def delete (id : String) : Service → Call Unit
  | .algolia service => service.delete id
  | .meilisearch service => service.delete id
  | .typesense service => service.delete id

/-- Exchanges the index with another. -/
def swap (target : String) : Service → Call Unit
  | .algolia service => service.swap target
  | .meilisearch service => service.swap target
  | .typesense service => service.swap target

/-- Deletes all documents. -/
def clear : Service → Call Unit
  | .algolia service => service.clear
  | .meilisearch service => service.clear
  | .typesense service => service.clear

end Service

/-- An index of documents. -/
inductive Index where
  | memory (engine : Engine) (store : Store)
  | hosted (service : Service)

namespace Index

/-- An engine with the settings. -/
def engine (settings : MemorySettings) : Engine :=
  .ofPageSize ⟨settings.keys, settings.oneTypoLength, settings.twoTyposLength⟩ settings.pageSize

/-- An index in memory over some documents. -/
def ofDocuments (settings : MemorySettings) (documents : List Document) : Index :=
  .memory (engine settings) (.ofDocuments documents)

/-- The index that settings describe; in memory it is empty. -/
def ofSettings : Settings → Except Error Index
  | .memory settings => .ok (ofDocuments settings [])
  | .algolia settings => .ok (.hosted (.algolia (.ofSettings settings)))
  | .meilisearch settings => .ok (.hosted (.meilisearch (.ofSettings settings)))
  | .typesense settings => do return .hosted (.typesense (← Typesense.Service.ofSettings settings))

/-- Searches canonical options. In memory documents are sorted by insertion. -/
def searchOptions (query : String) (options : Options) : Index → Call Result
  | .memory engine store => .done (engine.search store.documents query options)
  | .hosted service => service.search query options

/-- Searches the index. The result repeats the filters as the caller wrote them. -/
def search (index : Index) (query : String) (options : LooseOptions) : Call Result :=
  match options.resolve with
  | .error error => .done (.error error)
  | .ok resolved =>
    (index.searchOptions query resolved).map fun result =>
      { result with filters := options.filters }

/-- Fetches a document; an unknown identifier is no error. -/
def get (id : String) : Index → Call (Option Document)
  | .memory _ store => .done (.ok (store.get? id))
  | .hosted service => service.get id

/-- An index in memory after a change of its store; a hosted index stays what it is. -/
def updated (index : Index) (call : Service → Call Unit) (change : Store → Store) : Call Index :=
  match index with
  | .memory engine store => .done (.ok (.memory engine (change store)))
  | .hosted service => (call service).map fun _ => index

/-- Writes documents over those with their identifiers. Without documents nothing is asked. -/
def submit (index : Index) (documents : List Document) : Call Index :=
  if documents.isEmpty then .done (.ok index)
  else index.updated (Service.submit documents) (Store.putAll · documents)

/-- Deletes a document; an unknown identifier is no error. -/
def delete (index : Index) (id : String) : Call Index :=
  index.updated (Service.delete id) (Store.erase · id)

/-- Exchanges the index with another. In memory there is no other. -/
def swap (index : Index) (target : String) : Call Index := index.updated (Service.swap target) id

/-- Deletes all documents. -/
def clear (index : Index) : Call Index := index.updated Service.clear fun _ => .empty

end Index

end SearchIndex
