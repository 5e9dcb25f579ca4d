import SearchIndex.Index
import SearchIndex.Proofs.UrlReading

/-! Where requests for single documents go. Each service writes the identifier as one more segment
behind the path that its documents stand under, and the identifier is read back from it. The empty
identifier and the dots are lost when the URL is read: such a request goes to the collection of
documents or to what is above it. -/
namespace SearchIndex

/-- The target of the request that an operation sends. -/
def Call.target? (call : Call α) : Option (List Char) :=
  call.request?.map fun request => request.target.toList

namespace Client

/-- Whether every header of the client can be carried. -/
def CarriesHeaders (client : Client) : Prop :=
  client.headers.all (fun header => headerAllows header.2) = true

instance (client : Client) : Decidable client.CarriesHeaders :=
  inferInstanceAs (Decidable (_ = true))

/-- A request without values goes where the base with the path behind it leads. -/
theorem send_target (client : Client) (method : Method) (path : List Char) (body : Body)
    (outcome : Response → Except Error α) :
    (client.send method path [] body outcome).target? =
      if client.CarriesHeaders then (Url.read? (client.base ++ path)).map Url.target else none := by
  unfold send
  cases Url.read? (client.base ++ path) with
  | none => exact (ite_self none).symm
  | some url =>
    by_cases carried : client.headers.all (fun header => headerAllows header.2) = true
    · have allowed : client.CarriesHeaders := carried
      dsimp only
      rw [if_pos carried, if_pos allowed, Option.map_some]
      simp only [Call.target?, Call.request?, Option.map_some, String.toList_ofList]
      rfl
    · have refused : ¬ client.CarriesHeaders := carried
      dsimp only
      rw [if_neg carried, if_neg refused]
      rfl

end Client

namespace Service

/-- The client that sends the requests. -/
def client : Service → Client
  | .algolia service => service.client
  | .meilisearch service => service.client
  | .typesense service => service.client

/-- The name of the index or the collection. -/
def name : Service → String
  | .algolia service => service.index
  | .meilisearch service => service.index
  | .typesense service => service.collection

/-- The path that documents stand under. -/
def documentsPath : Service → List Char
  | .algolia service => service.indexPath
  | .meilisearch service => service.collectionPath
  | .typesense service => service.collectionPath

/-- The path of a document. -/
def documentPath (id : String) : Service → List Char
  | .algolia service => service.documentPath id
  | .meilisearch service => service.documentPath id
  | .typesense service => service.documentPath id

/-- An identifier as the service keeps it. -/
def storedId (id : String) : Service → String
  | .meilisearch _ => Meilisearch.encodeId id
  | .algolia _ | .typesense _ => id

/-- The identifier that a path segment stands for. -/
def readId? (segment : List Char) : Service → Option String
  | .meilisearch _ => (Url.percentDecode? segment).map Meilisearch.decodeId
  | .algolia _ | .typesense _ => Url.percentDecode? segment

/-- The names along the path that documents stand under. -/
def names : Service → String × String × String
  | .algolia service => ("1", "indexes", service.index)
  | .meilisearch service => ("indexes", service.index, "documents")
  | .typesense service => ("collections", service.collection, "documents")

theorem read_stored_id (service : Service) (id : String) :
    service.readId? (Url.encodeSegment (service.storedId id)) = some id := by
  cases service with
  | algolia | typesense => exact Url.percent_decode_encode id
  | meilisearch =>
    simp only [readId?, storedId, Url.percent_decode_encode, Option.map_some,
      Meilisearch.decode_encode_id]

/-- The identifiers that are no segment of their own. -/
def lostIds : List String := ["", ".", ".."]

/-- The service keeps them as they are, and keeps no other identifier so. -/
theorem stored_id_eq_lost (service : Service) {id lost : String} (member : lost ∈ lostIds) :
    service.storedId id = lost ↔ id = lost := by
  have kept : service.storedId lost = lost := by
    cases service with
    | algolia | typesense => rfl
    | meilisearch =>
      have each : ∀ lost ∈ lostIds, Meilisearch.encodeId lost = lost := by decide
      exact each lost member
  constructor
  · intro same
    have read := service.read_stored_id id
    rw [same, ← kept, read_stored_id] at read
    exact (Option.some.inj read).symm
  · rintro rfl
    exact kept

theorem documents_path_eq (service : Service) :
    service.documentsPath = Url.joinSlashes [Url.encodeSegment service.names.1,
      Url.encodeSegment service.names.2.1, Url.encodeSegment service.names.2.2] := by
  cases service with
  | algolia service =>
    change "/1/indexes/".toList ++ Url.encodeSegment service.index = Url.joinSlashes
      [Url.encodeSegment "1", Url.encodeSegment "indexes", Url.encodeSegment service.index]
    generalize Url.encodeSegment service.index = segment
    exact congrArg ("/1/indexes/".toList ++ ·) (List.append_nil segment).symm
  | meilisearch service =>
    change "/indexes/".toList ++ Url.encodeSegment service.index ++ "/documents".toList =
      Url.joinSlashes [Url.encodeSegment "indexes", Url.encodeSegment service.index,
        Url.encodeSegment "documents"]
    generalize Url.encodeSegment service.index = segment
    rfl
  | typesense service =>
    change "/collections/".toList ++ Url.encodeSegment service.collection ++ "/documents".toList =
      Url.joinSlashes [Url.encodeSegment "collections", Url.encodeSegment service.collection,
        Url.encodeSegment "documents"]
    generalize Url.encodeSegment service.collection = segment
    rfl

theorem document_path_eq (service : Service) (id : String) :
    service.documentPath id =
      service.documentsPath ++ '/' :: Url.encodeSegment (service.storedId id) := by
  cases service with
  | algolia | meilisearch | typesense => rfl

/-! ## Resolved paths -/

/-- The names along the path are not dots, so nothing of it is lost. -/
theorem names_are_plain {service : Service} (named : service.name ≠ "." ∧ service.name ≠ "..") :
    (service.names.2.1 ≠ "." ∧ service.names.2.1 ≠ "..") ∧
      (service.names.2.2 ≠ "." ∧ service.names.2.2 ≠ "..") := by
  cases service with
  | algolia service => exact ⟨show "indexes" ≠ "." ∧ "indexes" ≠ ".." by decide, named⟩
  | meilisearch service | typesense service =>
    exact ⟨named, show "documents" ≠ "." ∧ "documents" ≠ ".." by decide⟩

/-- The path that documents stand under and the paths of all documents are resolved from one
place. -/
theorem document_place {service : Service} (named : service.name ≠ "." ∧ service.name ≠ "..")
    (bare : Url.IsBare service.client.base) :
    ∃ place : Option (List Char × List (List Char)),
      (Url.read? (service.client.base ++ service.documentsPath) = place.map fun found =>
        ⟨found.1, Url.joinSlashes (Url.encodeSegment service.names.2.2 :: found.2).reverse, none⟩) ∧
      ∀ id, Url.read? (service.client.base ++ service.documentPath id) = place.map fun found =>
        ⟨found.1, Url.joinSlashes (Url.resolveDots (Url.encodeSegment service.names.2.2 :: found.2)
          [Url.encodeSegment (service.storedId id)]), none⟩ := by
  obtain ⟨middle, last⟩ := names_are_plain named
  have first : Url.encodeSegment service.names.1 ≠ [] := by
    rw [ne_eq, Url.encode_segment_nil]
    cases service with
    | algolia => exact show "1" ≠ "" by decide
    | meilisearch => exact show "indexes" ≠ "" by decide
    | typesense => exact show "collections" ≠ "" by decide
  obtain ⟨place, reads⟩ := Url.read_below bare first fun _ inside => Url.segment_char_of_mem inside
  refine ⟨place.map fun found => (found.1, Url.encodeSegment service.names.2.1 :: found.2), ?_,
    fun id => ?_⟩
  · have read := reads _ (List.cons_ne_nil _ _)
      (Url.are_segments_encode [service.names.2.1, service.names.2.2])
    simp only [List.map_cons, List.map_nil, Url.resolve_dots_encode middle,
      Url.resolve_dots_encode last] at read
    rw [documents_path_eq, read, Option.map_map]
    rfl
  · have read := reads _ (List.cons_ne_nil _ _)
      (Url.are_segments_encode [service.names.2.1, service.names.2.2, service.storedId id])
    simp only [List.map_cons, List.map_nil, Url.resolve_dots_encode middle,
      Url.resolve_dots_encode last] at read
    rw [document_path_eq, documents_path_eq, ← Url.join_slashes_concat, Option.map_map]
    exact read

/-- What a document's request goes to: the collection's path with one more segment, but what is
above the collection for two dots, and the collection itself for one dot. -/
theorem document_path_resolved {service : Service}
    (named : service.name ≠ "." ∧ service.name ≠ "..") (bare : Url.IsBare service.client.base)
    (located : Url.read? (service.client.base ++ service.documentsPath) = some collection) :
    ∃ above last, collection.path = above ++ '/' :: last ∧ '/' ∉ last ∧
      ∀ id, ∃ url, Url.read? (service.client.base ++ service.documentPath id) = some url ∧
        url.target = if id = ".." then above ++ ['/']
          else if id = "." then collection.path ++ ['/']
          else collection.path ++ '/' :: Url.encodeSegment (service.storedId id) := by
  obtain ⟨place, path, reads⟩ := document_place named bare
  rw [path] at located
  cases place with
  | none => cases located
  | some found =>
    obtain ⟨origin, above⟩ := found
    cases located
    dsimp only
    refine ⟨Url.joinSlashes above.reverse, Url.encodeSegment service.names.2.2, ?_, ?_, ?_⟩
    · rw [List.reverse_cons, Url.join_slashes_concat]
    · intro slash
      exact absurd (Url.segment_char_of_mem slash) (by decide)
    · intro id
      have up : service.storedId id = ".." ↔ id = ".." := service.stored_id_eq_lost (by decide)
      have stay : service.storedId id = "." ↔ id = "." := service.stored_id_eq_lost (by decide)
      refine ⟨_, reads id, ?_⟩
      change Url.joinSlashes (Url.resolveDots _ _) = _
      rw [Url.resolve_dots_last]
      simp only [up, stay, List.tail_cons]

/-- A query or a fragment in the base hides the paths of all documents. -/
theorem document_place_hidden {service : Service} (asks : ¬ Url.IsBare service.client.base) :
    ∃ place : Option Url,
      (∃ query, Url.read? (service.client.base ++ service.documentsPath) =
        place.map fun url => { url with query }) ∧
      ∀ id, ∃ query, Url.read? (service.client.base ++ service.documentPath id) =
        place.map fun url => { url with query } := by
  obtain ⟨place, reads⟩ := Url.read_behind_query asks
  have solid (texts : List String) := Url.join_slashes_solid (Url.are_segments_encode texts)
  refine ⟨place, reads _ ?_ ?_, fun id => reads _ ?_ ?_⟩
  · rw [documents_path_eq]
    exact List.cons_ne_nil _ _
  · rw [documents_path_eq]
    exact solid [_, _, _]
  · rw [document_path_eq]
    exact List.append_ne_nil_of_right_ne_nil _ (List.cons_ne_nil _ _)
  · rw [document_path_eq, documents_path_eq, ← Url.join_slashes_concat]
    exact solid [_, _, _, _]

/-- Whether a document has an address does not depend on the document. -/
theorem document_located_iff {service : Service}
    (named : service.name ≠ "." ∧ service.name ≠ "..") (id : String) :
    (Url.read? (service.client.base ++ service.documentPath id)).isSome =
      (Url.read? (service.client.base ++ service.documentsPath)).isSome := by
  by_cases bare : Url.IsBare service.client.base
  · obtain ⟨place, path, reads⟩ := document_place named bare
    rw [path, reads id, Option.isSome_map, Option.isSome_map]
  · obtain ⟨place, ⟨_, path⟩, reads⟩ := document_place_hidden bare
    obtain ⟨_, read⟩ := reads id
    rw [path, read, Option.isSome_map, Option.isSome_map]

/-- Both requests for a document go to its path. -/
theorem document_target (service : Service) (id : String) :
    (service.get id).target? = (service.delete id).target? ∧
      (service.delete id).target? = if service.client.CarriesHeaders then
        (Url.read? (service.client.base ++ service.documentPath id)).map Url.target else none := by
  cases service with
  | algolia | meilisearch | typesense =>
    exact ⟨(Client.send_target ..).trans (Client.send_target ..).symm, Client.send_target ..⟩

/-- Requests for a document are sent where one for the collection could be sent. -/
theorem document_sent_iff {service : Service}
    (named : service.name ≠ "." ∧ service.name ≠ "..") (id : String) :
    (service.delete id).target?.isSome ↔
      (Url.read? (service.client.base ++ service.documentsPath)).isSome ∧
        service.client.CarriesHeaders := by
  rw [(service.document_target id).2, ← document_located_iff named id]
  by_cases carried : service.client.CarriesHeaders
  · rw [if_pos carried, Option.isSome_map]
    exact (and_iff_left carried).symm
  · rw [if_neg carried]
    exact iff_of_false nofun fun sent => carried sent.2

/-! ## Main statements -/

/-- A target is the collection's path with one more segment, from which the identifier is read. -/
def Addresses (service : Service) (collection : Url) (id : String) (target : List Char) : Prop :=
  ∃ segment, target = collection.path ++ '/' :: segment ∧ segment ≠ [] ∧ '/' ∉ segment ∧
    '?' ∉ segment ∧ service.readId? segment = some id

theorem addresses_kept (service : Service) (collection : Url) {id : String} (kept : id ∉ lostIds) :
    service.Addresses collection id
      (collection.path ++ '/' :: Url.encodeSegment (service.storedId id)) := by
  refine ⟨_, rfl, ?_, ?_, ?_, service.read_stored_id id⟩
  · rw [ne_eq, Url.encode_segment_nil, service.stored_id_eq_lost (by decide)]
    rintro rfl
    exact kept (by decide)
  · intro slash
    exact absurd (Url.segment_char_of_mem slash) (by decide)
  · intro mark
    exact absurd (Url.segment_char_of_mem mark) (by decide)

theorem addresses_unique {service : Service} {id other : String}
    (one : service.Addresses collection id target)
    (two : service.Addresses collection other target) : other = id := by
  obtain ⟨segment, rfl, _, _, _, read⟩ := one
  obtain ⟨_, same, _, _, _, again⟩ := two
  cases List.append_cancel_left same
  exact Option.some.inj (again.symm.trans read)

theorem addresses_below {service : Service} {id : String}
    (addressed : service.Addresses collection id target) :
    ¬ target <+: collection.path ++ ['/'] := by
  obtain ⟨segment, rfl, written, _⟩ := addressed
  intro above
  rw [List.prefix_append_right_inj, List.cons_prefix_cons, List.prefix_nil] at above
  exact written above.2

/-- A target with a query is not one of a document. -/
theorem not_addresses_hidden {service : Service} {collection : Url} {id : String}
    (query : Option (List Char)) :
    ¬ service.Addresses collection id { collection with query }.target := by
  rintro ⟨segment, same, _⟩
  cases query with
  | none => exact absurd (List.append_cancel_left ((List.append_nil _).trans same)) nofun
  | some query =>
    have parted : '?' :: query = '/' :: segment := List.append_cancel_left same
    cases parted

/-- Where the requests for each document land behind a base without query and fragment. -/
theorem document_requests_land {service : Service} {collection : Url}
    (named : service.name ≠ "." ∧ service.name ≠ "..") (bare : Url.IsBare service.client.base)
    (located : Url.read? (service.client.base ++ service.documentsPath) = some collection)
    (carried : service.client.CarriesHeaders) :
    ∃ above last, collection.path = above ++ '/' :: last ∧ '/' ∉ last ∧ ∀ id, ∃ target,
      (service.get id).target? = some target ∧ (service.delete id).target? = some target ∧
      (id ∉ lostIds → service.Addresses collection id target) ∧
      (id ∈ lostIds → target <+: collection.path ++ ['/']) ∧
      (id ∈ ["", "."] → target = collection.path ++ ['/']) ∧
      (id = ".." → target = above ++ ['/']) := by
  obtain ⟨above, last, parent, single, reads⟩ := document_path_resolved named bare located
  refine ⟨above, last, parent, single, fun id => ?_⟩
  obtain ⟨url, read, target⟩ := reads id
  obtain ⟨got, deleted⟩ := service.document_target id
  rw [if_pos carried, read, Option.map_some] at deleted
  rw [deleted] at got
  have stays : id ∈ ["", "."] → url.target = collection.path ++ ['/'] := by
    intro lost
    rw [target]
    rcases List.mem_cons.mp lost with rfl | stay
    · have empty : Url.encodeSegment (service.storedId "") = [] :=
        Url.encode_segment_nil.mpr ((service.stored_id_eq_lost (by decide)).mpr rfl)
      rw [empty]
      rfl
    · cases List.mem_singleton.mp stay
      rfl
  have rises : id = ".." → url.target = above ++ ['/'] := by
    intro up
    rw [target, if_pos up]
  refine ⟨url.target, got, deleted, fun kept => ?_, fun lost => ?_, stays, rises⟩
  · have others : id ≠ ".." ∧ id ≠ "." := by
      constructor <;> rintro rfl <;> exact kept (by decide)
    rw [target, if_neg others.1, if_neg others.2]
    exact service.addresses_kept collection kept
  · by_cases up : id = ".."
    · rw [rises up, parent]
      exact ⟨last ++ ['/'], by simp⟩
    · exact stays (by simpa [lostIds, up] using lost) ▸ List.prefix_rfl

/-- What the requests for a document address. For an identifier that a segment of its own can hold
they address this document, and neither another one nor the collection nor what is above it. For the
others they go to the collection or to what is above it. -/
theorem document_requests_address {service : Service} {collection : Url}
    (named : service.name ≠ "." ∧ service.name ≠ "..")
    (located : Url.read? (service.client.base ++ service.documentsPath) = some collection)
    (carried : service.client.CarriesHeaders) (id : String) :
    ∃ target, (service.get id).target? = some target ∧
      (service.delete id).target? = some target ∧
      (service.Addresses collection id target ↔
        Url.IsBare service.client.base ∧ id ∉ ["", ".", ".."]) ∧
      (service.Addresses collection id target → ¬ target <+: collection.path ++ ['/'] ∧
        ∀ other, (service.get other).target? = some target ∨
          (service.delete other).target? = some target → other = id) ∧
      (Url.IsBare service.client.base → id ∈ ["", "."] → target = collection.path ++ ['/']) ∧
      (Url.IsBare service.client.base → id = ".." → ∃ above last,
        collection.path = above ++ '/' :: last ∧ '/' ∉ last ∧ target = above ++ ['/']) := by
  by_cases bare : Url.IsBare service.client.base
  · obtain ⟨above, last, parent, single, lands⟩ :=
      document_requests_land named bare located carried
    obtain ⟨target, got, deleted, kept, lost, stays, rises⟩ := lands id
    refine ⟨target, got, deleted, ⟨fun addressed => ⟨bare, fun member => ?_⟩, ?_⟩,
      fun addressed => ⟨addresses_below addressed, fun other same => ?_⟩, fun _ => stays,
      fun _ dots => ⟨above, last, parent, single, rises dots⟩⟩
    · exact addresses_below addressed (lost member)
    · exact fun good => kept good.2
    · obtain ⟨found, gotOther, deletedOther, keptOther, lostOther, _⟩ := lands other
      have equal : found = target := by
        rcases same with same | same
        · exact Option.some.inj (gotOther.symm.trans same)
        · exact Option.some.inj (deletedOther.symm.trans same)
      subst equal
      by_cases member : other ∈ lostIds
      · exact absurd (lostOther member) (addresses_below addressed)
      · exact addresses_unique addressed (keptOther member)
  · obtain ⟨place, ⟨first, path⟩, reads⟩ := document_place_hidden bare
    obtain ⟨url, rfl, rfl⟩ := Option.map_eq_some_iff.mp (path.symm.trans located)
    obtain ⟨query, read⟩ := reads id
    obtain ⟨got, deleted⟩ := service.document_target id
    rw [if_pos carried, read, Option.map_some] at deleted
    rw [deleted] at got
    have hidden : ¬ service.Addresses { url with query := first } id { url with query }.target :=
      not_addresses_hidden query
    exact ⟨_, got, deleted, ⟨fun addressed => absurd addressed hidden,
      fun good => absurd good.1 bare⟩, fun addressed => absurd addressed hidden,
      fun never => absurd never bare, fun never => absurd never bare⟩

end Service

/-- Products at a server of one's own. -/
private def products : Service :=
  .meilisearch (.ofSettings ⟨"products", 10, "http://localhost:7700/", "secret"⟩)

theorem document_requests_address_products :
    ∃ collection, Url.read? (products.client.base ++ products.documentsPath) = some collection ∧
      products.client.CarriesHeaders ∧
      (∃ target, (products.delete "a/b").target? = some target ∧
        products.Addresses collection "a/b" target) ∧
      (products.delete "..").target? = some "/indexes/products/".toList := by
  have settled : ∃ collection,
      Url.read? (products.client.base ++ products.documentsPath) = some collection ∧
      products.client.CarriesHeaders := ⟨_, rfl, rfl⟩
  obtain ⟨collection, located, carried⟩ := settled
  have named : products.name ≠ "." ∧ products.name ≠ ".." := by decide
  have bare : Url.IsBare products.client.base := by decide
  have kept : "a/b" ∉ ["", ".", ".."] := by decide
  obtain ⟨target, _, deleted, addressed, _⟩ :=
    Service.document_requests_address named located carried "a/b"
  exact ⟨collection, located, carried, ⟨target, deleted, addressed.mpr ⟨bare, kept⟩⟩, rfl⟩

end SearchIndex
