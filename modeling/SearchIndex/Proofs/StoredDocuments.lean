import SearchIndex.Proofs.SearchAnswers

/-! Documents that are written to a service and come back from it as hits. MeiliSearch keeps an
identifier in characters that it allows, and nothing of a document is lost. Algolia keeps it under a
name of its own and adds fields to hits, so what a document has under one of these names does not
come back. -/
namespace SearchIndex

/-- A document is told by its fields. -/
theorem Document.eq_of_fields {document other : Document} (same : document.fields = other.fields) :
    document = other := by
  obtain ⟨id, fields, held⟩ := document
  obtain ⟨id', fields', held'⟩ := other
  cases same
  cases held.symm.trans held'
  rfl

namespace Meilisearch

/-! ## Identifiers in allowed characters -/

/-- The characters that the service allows in identifiers. -/
def isIdChar (c : Char) : Bool := c.isAlphanum || c = '-' || c = '_'

/-- Of the characters that are not allowed, slashes are written in others and the rest stays. -/
theorem encode_chars_allowed_iff {chars : List Char} :
    (∀ c ∈ encodeChars chars, isIdChar c = true) ↔ ∀ c ∈ chars, isIdChar c = true ∨ c = '/' := by
  have marks : isIdChar '-' = true ∧ isIdChar '_' = true := by decide
  induction chars using encodeChars.induct with
  | case1 => simp [encodeChars]
  | case2 rest ih => simp only [encodeChars, List.forall_mem_cons, ih, marks, true_and, true_or]
  | case3 rest ih => simp only [encodeChars, List.forall_mem_cons, ih, marks, true_and, or_true]
  | case4 c rest minus slash ih =>
    have other : c ≠ '/' := slash
    rw [encodeChars]
    · simp only [List.forall_mem_cons, ih, other, or_false]
    · exact minus
    · exact slash

theorem encode_id_allowed_iff {id : String} :
    (∀ c ∈ (encodeId id).toList, isIdChar c = true) ↔
      ∀ c ∈ id.toList, isIdChar c = true ∨ c = '/' := by
  rw [encodeId, String.toList_ofList, encode_chars_allowed_iff]

theorem encode_id_injective : Function.Injective encodeId := by
  intro id other same
  rw [← decode_encode_id id, same, decode_encode_id]

/-! ## Documents -/

/-- A document is read back from the record that it is written as. -/
theorem decode_encode (document : Document) :
    ∃ hit, encode document = .object hit ∧ decode hit = .ok document := by
  have named := (document.mapId encodeId).id_eq
  refine ⟨_, rfl, ?_⟩
  rw [decode, of_fields_of_id named]
  refine congrArg Except.ok (Document.eq_of_fields ?_)
  change Fields.insert (Fields.insert document.fields "id" (.string (encodeId document.id))) "id"
    (.string (decodeId (encodeId document.id))) = document.fields
  rw [Fields.insert_insert, decode_encode_id, Fields.insert_of_get document.id_eq]

namespace Service

/-- The path that documents are written to. -/
def writePath (service : Service) : List Char :=
  service.collectionPath ++ "?primaryKey=id".toList

theorem submit_request (service : Service) (documents : List Document)
    (reaches : service.client.Reaches service.writePath) :
    ∃ request, (service.submit documents).request? = some request ∧
      request.body = .json (.array (documents.map encode)) :=
  Client.request_of_reaches reaches ..

end Service

/-- Identifiers are read back from the form in which the service keeps them, so no two of them are
kept alike; the allowed characters and slashes are written in allowed characters, and no other
characters are. Every document of a batch is sent as a record that is read as the same document. -/
theorem written_documents_read_back :
    (∀ id, decodeId (encodeId id) = id) ∧ Function.Injective encodeId ∧
    (∀ id, (∀ c ∈ (encodeId id).toList, isIdChar c = true) ↔
      ∀ c ∈ id.toList, isIdChar c = true ∨ c = '/') ∧
    ∀ (service : Service) (documents : List Document), service.client.Reaches service.writePath →
      ∃ request hits, (service.submit documents).request? = some request ∧
        request.body = .json (.array (hits.map .object)) ∧
        List.Forall₂ (fun document hit => decode hit = .ok document) documents hits := by
  refine ⟨decode_encode_id, encode_id_injective, fun _ => encode_id_allowed_iff, ?_⟩
  intro service documents reaches
  obtain ⟨request, sent, carries⟩ := service.submit_request documents reaches
  choose record written read using decode_encode
  have records : documents.map encode = (documents.map record).map .object := by
    rw [List.map_map]
    exact List.map_congr_left fun document _ => written document
  refine ⟨request, documents.map record, sent, by rw [carries, records], ?_⟩
  exact List.forall₂_map_right_iff.mpr (List.forall₂_same.mpr fun document _ => read document)

private def capsAtMeilisearch : Service :=
  ⟨⟨.meilisearch, "http://localhost:7700".toList, []⟩, "caps", 5⟩

/-- A cap whose identifier is kept in other characters. -/
private def cap : Document := .ofId "caps/t-1" [("title", .string "Cap")]

theorem written_cap_reads_back :
    (∀ c ∈ (encodeId "caps/t-1").toList, isIdChar c = true) ∧
    encodeId "caps/t-1" ≠ encodeId "caps-t/1" ∧
    ∃ request hits, (capsAtMeilisearch.submit [cap]).request? = some request ∧
      request.body = .json (.array (hits.map .object)) ∧
      List.Forall₂ (fun document hit => decode hit = .ok document) [cap] hits := by
  obtain ⟨-, distinct, allowed, sent⟩ := written_documents_read_back
  have reaches : capsAtMeilisearch.client.Reaches capsAtMeilisearch.writePath :=
    ⟨by decide +kernel, rfl⟩
  have plain : ∀ c ∈ "caps/t-1".toList, isIdChar c = true ∨ c = '/' := by simp [isIdChar]
  have other : "caps/t-1" ≠ "caps-t/1" := by decide
  exact ⟨(allowed _).mpr plain, fun same => other (distinct same), sent _ [cap] reaches⟩

end Meilisearch

namespace Algolia

/-! ## Fields of the service's own -/

/-- The record that the service is sent of a document. -/
def sentFields (document : Document) : Fields :=
  Fields.insert document.fields idField (.string document.id)

/-- What a record can come back as: the service writes fields of its own to it, whether they are
there or not, and may give the fields in another order. -/
inductive Decorates (record : Fields) : Fields → Prop where
  | plain : Decorates record record
  | written (decorated : Decorates record hit) (own : key ∈ hitFields) (value : Value) :
      Decorates record (Fields.insert hit key value)
  | reordered (decorated : Decorates record hit) (order : hit.Perm other) : Decorates record other

theorem decorated_unique (unique : record.keys.Nodup) (decorated : Decorates record hit) :
    hit.keys.Nodup := by
  induction decorated with
  | plain => exact unique
  | written decorated own value ih => exact Fields.insert_unique ih _ value
  | reordered decorated order ih => exact (order.map Prod.fst).nodup_iff.mp ih

/-- The service leaves the other fields alone. -/
theorem decorated_get (unique : record.keys.Nodup) (decorated : Decorates record hit)
    (other : key ∉ hitFields) : Fields.get? hit key = Fields.get? record key := by
  induction decorated with
  | plain => rfl
  | @written hit name decorated own value ih =>
    have differs : name ≠ key := by
      rintro rfl
      exact other own
    rw [Fields.get?_insert_of_ne hit value differs, ih]
  | reordered decorated order ih =>
    rw [Fields.get_of_perm (decorated_unique unique decorated) order, ih]

/-- The fields of a document that the service does not use for itself. -/
def plainFields (document : Document) : Fields :=
  document.fields.filter fun entry => decide (entry.1 ∉ reservedFields)

theorem get_plain_fields (document : Document) (key : String) :
    Fields.get? (plainFields document) key =
      if key ∈ reservedFields then none else Fields.get? document.fields key := by
  rw [plainFields, Fields.get_filter document.fields fun name => decide (name ∉ reservedFields)]
  by_cases reserved : key ∈ reservedFields <;> simp [reserved]

/-- The document without the fields that the service uses for itself. -/
def plainDocument (document : Document) : Document where
  id := document.id
  fields := plainFields document
  id_eq := by
    rw [get_plain_fields, if_neg (by decide)]
    exact document.id_eq

/-- A document that has none of the names that the service uses is without its fields. -/
theorem plain_document_eq {document : Document}
    (unused : ∀ name ∈ reservedFields, name ∉ document.fields.keys) :
    plainDocument document = document := by
  refine Document.eq_of_fields (List.filter_eq_self.mpr fun entry member => ?_)
  exact decide_eq_true fun reserved => unused _ reserved (List.mem_map_of_mem member)

/-- A decorated record of a document holds what the document has without the service's fields. -/
theorem writes_plain_document (service : Service) {document : Document}
    (unique : document.fields.keys.Nodup)
    (decorated : Decorates (sentFields document) hit) :
    (SearchIndex.Service.algolia service).WritesDocument (plainDocument document) hit := by
  have sent := Fields.insert_unique unique idField (.string document.id)
  have apart : idField ∉ hitFields := by decide
  refine ⟨decorated_unique sent decorated, ?_, fun key _ (object : key ≠ idField) added => ?_⟩
  · exact (decorated_get sent decorated apart).trans (Fields.get?_insert_self ..)
  · have plain : key ∉ reservedFields := List.not_mem_cons_of_ne_of_not_mem object added
    calc Fields.get? hit key
      _ = Fields.get? (sentFields document) key := decorated_get sent decorated added
      _ = Fields.get? document.fields key := Fields.get?_insert_of_ne _ _ (Ne.symm object)
      _ = Fields.get? (plainFields document) key := by rw [get_plain_fields, if_neg plain]

/-- However the service decorates what it is sent of a document, the document is read back without
the fields that the service uses for itself. -/
theorem decode_decorated (service : Service) {document : Document}
    (unique : document.fields.keys.Nodup)
    (decorated : Decorates (sentFields document) hit) :
    ∃ found, decode hit = .ok found ∧ (plainDocument document).Same found := by
  apply decode_written (writes_plain_document service unique decorated)
  · exact unique.sublist (List.filter_sublist.map _)
  · intro name reserved member
    obtain ⟨entry, kept, rfl⟩ := List.mem_map.mp member
    exact of_decide_eq_true (List.mem_filter.mp kept).2 reserved

namespace Service

/-- The path that documents are written to. -/
def writePath (service : Service) : List Char := service.indexPath ++ "/batch".toList

theorem submit_request (service : Service) (documents : List Document)
    (reaches : service.client.Reaches service.writePath) :
    ∃ request, (service.submit documents).request? = some request ∧
      request.body = .json (.object [("requests", .array (documents.map fun document =>
        .object [("action", .string "updateObject"), ("body", encode document)]))]) :=
  Client.request_of_reaches reaches ..

end Service

/-- Every document of a batch is sent as a record from which, however the service decorates it, the
document is read back without the fields that the service uses for itself. That is the document
itself if it has none of them. -/
theorem decorated_documents_read_back {service : Service} {documents : List Document}
    (reaches : service.client.Reaches service.writePath)
    (unique : ∀ document ∈ documents, document.fields.keys.Nodup) :
    (∃ request records, (service.submit documents).request? = some request ∧
      request.body = .json (.object [("requests", .array (records.map fun record =>
        .object [("action", .string "updateObject"), ("body", .object record)]))]) ∧
      List.Forall₂ (fun document record => ∀ hit, Decorates record hit →
        ∃ found, decode hit = .ok found ∧ (plainDocument document).Same found) documents records) ∧
    ∀ document : Document, (∀ name ∈ reservedFields, name ∉ document.fields.keys) →
      plainDocument document = document := by
  refine ⟨?_, fun document => plain_document_eq⟩
  obtain ⟨request, sent, carries⟩ := service.submit_request documents reaches
  refine ⟨request, documents.map sentFields, sent, ?_, ?_⟩
  · rw [carries, List.map_map]
    rfl
  · refine List.forall₂_map_right_iff.mpr (List.forall₂_same.mpr fun document member hit => ?_)
    exact decode_decorated service (unique document member)

private def capsAtAlgolia : Service :=
  ⟨⟨.algolia, "http://localhost:8080".toList, []⟩, "caps", 5⟩

/-- A cap with two fields whose names the service uses. -/
private def rankedCap : Document :=
  .ofId "cap" [("objectID", .string "own"), ("_rankingInfo", .bool true), ("title", .string "Cap")]

theorem decorated_cap_reads_back :
    capsAtAlgolia.client.Reaches capsAtAlgolia.writePath ∧
    (∀ document ∈ [rankedCap], document.fields.keys.Nodup) ∧
    ∃ request record, (capsAtAlgolia.submit [rankedCap]).request? = some request ∧
      request.body = .json (.object [("requests", .array
        [.object [("action", .string "updateObject"), ("body", .object record)]])]) ∧
      ∃ found, decode (Fields.insert (Fields.insert record "_rankingInfo" .null)
          "_highlightResult" (.object [])) = .ok found ∧
        found.id = "cap" ∧ found.fields.Perm [("title", .string "Cap"), ("id", .string "cap")] := by
  have reaches : capsAtAlgolia.client.Reaches capsAtAlgolia.writePath := ⟨by decide +kernel, rfl⟩
  have unique : ∀ document ∈ [rankedCap], document.fields.keys.Nodup := by decide
  obtain ⟨⟨request, records, sent, carries, each⟩, -⟩ :=
    decorated_documents_read_back reaches unique
  cases each with
  | @cons _ record _ _ restored rest =>
    cases rest
    have ranked : Decorates record (Fields.insert record "_rankingInfo" .null) :=
      .written .plain (by decide) .null
    have highlighted : Decorates record (Fields.insert (Fields.insert record "_rankingInfo" .null)
        "_highlightResult" (.object [])) := .written ranked (by decide) (.object [])
    obtain ⟨found, read, ids, fields⟩ := restored _ highlighted
    exact ⟨reaches, unique, request, record, sent, carries, found, read, ids.symm, fields.symm⟩

end Algolia

end SearchIndex
