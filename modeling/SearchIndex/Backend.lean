/-! The hosted search services that an index can stand on. -/
namespace SearchIndex

/-- A hosted search service. -/
inductive Backend where
  | algolia
  | meilisearch
  | typesense
deriving DecidableEq, Repr

namespace Backend

/-- The name of the service as its owners write it. -/
def title : Backend → String
  | .algolia => "Algolia"
  | .meilisearch => "MeiliSearch"
  | .typesense => "Typesense"

/-- The name of the service's filter language. -/
def dialectName : Backend → String
  | .algolia => "algolia"
  | .meilisearch => "meilisearch"
  | .typesense => "typesense"

end Backend

end SearchIndex
