import SearchIndex.Document

/-! Documents kept in memory by identifier. A document written again keeps its place, and erasing
one keeps the order of the others. -/
namespace SearchIndex

/-- Stored documents under their identifiers, in order. -/
structure Store where
  entries : List (String × Document)

namespace Store

/-- The store without documents. -/
def empty : Store := ⟨[]⟩

/-- A document written into entries under its identifier: over the one that stands there, or behind
all. -/
def putEntry (document : Document) : List (String × Document) → List (String × Document)
  | [] => [(document.id, document)]
  | (id, other) :: rest =>
    if id = document.id then (id, document) :: rest else (id, other) :: putEntry document rest

/-- The store with a document written into it. -/
def put (store : Store) (document : Document) : Store := ⟨putEntry document store.entries⟩

/-- The store with documents written into it one after another. -/
def putAll (store : Store) (documents : List Document) : Store := documents.foldl put store

/-- The store of some documents, of which later ones replace earlier ones. -/
def ofDocuments (documents : List Document) : Store := empty.putAll documents

/-- The document under an identifier. -/
def get? (store : Store) (id : String) : Option Document := store.entries.lookup id

/-- The store without the document under an identifier. -/
def erase (store : Store) (id : String) : Store :=
  ⟨store.entries.eraseP fun entry => entry.1 == id⟩

/-- The documents, in order. -/
def documents (store : Store) : List Document := store.entries.map Prod.snd

/-- The identifiers, in order. -/
def ids (store : Store) : List String := store.entries.map Prod.fst

/-- The number of documents. -/
def size (store : Store) : Nat := store.entries.length

end Store

end SearchIndex
