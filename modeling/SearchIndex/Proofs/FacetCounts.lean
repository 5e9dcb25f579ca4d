import SearchIndex.Proofs.KeyedEntries
import SearchIndex.Proofs.SearchPages

/-! What the facets of a search count. Under a requested field each text has the number of its
occurrences in the documents that match the query and pass the filter, on whatever page these stand
and in whatever order; and a search narrowed to one of the counted texts finds as many documents as
hold it as a string. -/
namespace SearchIndex

/-! ## Occurrences -/

namespace Document

end Document

namespace Engine

end Engine

/-! ## Narrowing a search to a counted text -/

end SearchIndex
