import SearchIndex.Proofs.KeyedEntries
import SearchIndex.Proofs.ServiceAnswers

/-! One search told by different services. What a search finds is written by each service in a form
of its own: with other names, identifiers, page numbers and forms of facets. Read, all these forms
amount to the same result. -/
namespace SearchIndex

/-! ## What a search finds -/

/-- A number that a word holds. -/
def FitsWord (n : Nat) : Prop := n < 18446744073709551616

instance (n : Nat) : Decidable (FitsWord n) :=
  inferInstanceAs (Decidable (n < 18446744073709551616))

/-- The fields that Algolia uses for itself. -/
def Algolia.reservedFields : List String := idField :: hitFields

/-- What a search finds: the documents of a page, the number of documents on all pages, the page
counted from zero, and the counts of facets. Whole numbers fit into a word, and documents keep clear
of the fields that a service may use for itself. -/
structure Findings where
  documents : List Document
  found : Nat
  page : Nat
  facets : Facets
  unique : ∀ document ∈ documents, document.fields.keys.Nodup
  unreserved : ∀ document ∈ documents, ∀ name ∈ Algolia.reservedFields, name ∉ document.fields.keys
  found_fits : FitsWord found
  page_fits : page < lastPage
  facets_sorted : facets.IsSorted
  counts_sorted : ∀ facet ∈ facets, facet.2.IsSorted
  counts_fit : ∀ facet ∈ facets, ∀ count ∈ facet.2, FitsWord count.2

/-- The same document, whatever the order of its fields. -/
def Document.Same (a b : Document) : Prop := a.id = b.id ∧ a.fields.Perm b.fields

/-! ## How it is written -/

/-- The value is a record that has a value under a key. -/
def Value.Has (value : Value) (key : String) (found : Value) : Prop :=
  ∃ entries, value = .object entries ∧ Fields.get? entries key = some found

/-- Counts as a record, in any order. -/
inductive CountsRecord : KeyMap Nat → Value → Prop where
  | record (order : List.Perm listed counts)
      (each : List.Forall₂ (fun count entry => entry.1 = count.1 ∧ entry.2 = .ofNat count.2) listed
        entries) : CountsRecord counts (.object entries)

/-- Facets as a record of records, in any order; none may be left out. -/
inductive FacetsRecord : Facets → Option Value → Prop where
  | absent : FacetsRecord [] none
  | record (order : List.Perm listed facets)
      (each : List.Forall₂ (fun facet entry => entry.1 = facet.1 ∧ CountsRecord facet.2 entry.2)
        listed entries) : FacetsRecord facets (some (.object entries))

/-- Counts as a list of records, in any order. -/
inductive CountsList : KeyMap Nat → Value → Prop where
  | list (order : List.Perm listed counts)
      (each : List.Forall₂ (fun count item => item.Has "value" (.string count.1) ∧
        item.Has "count" (.ofNat count.2)) listed items) : CountsList counts (.array items)

/-- Facets as a list of records with lists of counts, in any order; none may be left out. -/
inductive FacetsList : Facets → Option Value → Prop where
  | absent : FacetsList [] none
  | list (order : List.Perm listed facets)
      (each : List.Forall₂ (fun facet item => item.Has "field_name" (.string facet.1) ∧
        ∃ counts, item.Has "counts" counts ∧ CountsList facet.2 counts) listed items) :
      FacetsList facets (some (.array items))

namespace Service

/-- The field that holds a document's identifier. -/
def idField : Service → String
  | .algolia _ => Algolia.idField
  | .meilisearch _ | .typesense _ => "id"

/-- The fields that the service adds to hits. -/
def addedFields : Service → List String
  | .algolia _ => Algolia.hitFields
  | .meilisearch _ | .typesense _ => []

/-- A hit holds a document: the identifier as the service keeps it, and else what the document has.
-/
structure WritesDocument (service : Service) (document : Document) (hit : Fields) : Prop where
  unique : hit.keys.Nodup
  id : Fields.get? hit service.idField = some (.string (service.storedId document.id))
  others : ∀ key, key ≠ "id" → key ≠ service.idField → key ∉ service.addedFields →
    Fields.get? hit key = Fields.get? document.fields key

/-- An answer says what a search has found. -/
inductive WritesAnswer : Service → Findings → Value → Prop where
  | algolia {service : Algolia.Service}
      (answer : Fields.get? outer "results" = some (.array [.object entries]))
      (hits : Fields.get? entries "hits" = some (.array (records.map .object)))
      (each : List.Forall₂ (Service.algolia service).WritesDocument findings.documents records)
      (found : Fields.get? entries "nbHits" = some (.ofNat findings.found))
      (page : Fields.get? entries "page" = some (.ofNat findings.page))
      (facets : FacetsRecord findings.facets (Fields.get? entries "facets")) :
      WritesAnswer (.algolia service) findings (.object outer)
  | meilisearch {service : Meilisearch.Service}
      (hits : Fields.get? entries "hits" = some (.array (records.map .object)))
      (each : List.Forall₂ (Service.meilisearch service).WritesDocument findings.documents records)
      (found : Fields.get? entries "totalHits" = some (.ofNat findings.found))
      (page : Fields.get? entries "page" = some (.ofNat (findings.page + 1)))
      (facets : FacetsRecord findings.facets (Fields.get? entries "facetDistribution")) :
      WritesAnswer (.meilisearch service) findings (.object entries)
  | typesense {service : Typesense.Service}
      (hits : Fields.get? entries "hits" = some (.array items))
      (wrapped : List.Forall₂ (fun record item => item.Has "document" (.object record))
        records items)
      (each : List.Forall₂ (Service.typesense service).WritesDocument findings.documents records)
      (found : Fields.get? entries "found" = some (.ofNat findings.found))
      (page : Fields.get? entries "page" = some (.ofNat (findings.page + 1)))
      (facets : FacetsList findings.facets (Fields.get? entries "facet_counts")) :
      WritesAnswer (.typesense service) findings (.object entries)

end Service

/-! ## Reading facets -/

theorem nat_of_nat (fits : FitsWord n) : (Value.ofNat n).nat? = some n := by
  have bounds : -9223372036854775808 ≤ (n : Int) ∧ (n : Int) < 18446744073709551616 := by
    have fits : n < 18446744073709551616 := fits
    omega
  have whole : Value.ofNat n = .number (.integer n bounds) := by
    rw [Value.ofNat, Value.ofInt, Number.ofInt?, dif_pos bounds]
  rw [whole, Value.nat?, Number.toUnsigned?, if_pos (Int.natCast_nonneg n), Int.toNat_natCast]

/-- A list is read where each of its items is. -/
theorem map_all_some {read : α → Option β} {items : List α} {outcomes : List β} :
    items.mapM read = some outcomes ↔
      List.Forall₂ (fun item outcome => read item = some outcome) items outcomes := by
  induction items generalizing outcomes with
  | nil => simp [eq_comm]
  | cons item rest ih =>
    simp only [List.mapM_cons, Option.bind_eq_bind, Option.bind_eq_some_iff, pure,
      Option.some.injEq, List.forall₂_cons_left_iff, ih]
    constructor
    · rintro ⟨first, here, others, later, rfl⟩
      exact ⟨first, others, here, later, rfl⟩
    · rintro ⟨first, others, here, later, rfl⟩
      exact ⟨first, here, others, later, rfl⟩

/-- What is listed item by item is read as the list. -/
theorem map_all_of_listed {read : β → Option α} (listed : List.Forall₂ writes items written)
    (each : ∀ item ∈ items, ∀ value, writes item value → read value = some item) :
    written.mapM read = some items := by
  rw [map_all_some]
  induction listed with
  | nil => exact .nil
  | cons here later ih =>
    obtain ⟨first, others⟩ := List.forall_mem_cons.mp each
    exact .cons (first _ here) (ih others)

/-- A map whose entries are listed in any order is read as the map. -/
theorem map_of_listed {map : KeyMap α} {read : β → Option (String × α)} (sorted : map.IsSorted)
    (order : List.Perm listed map) (each : List.Forall₂ writes listed written)
    (reads : ∀ item ∈ map, ∀ value, writes item value → read value = some item) :
    (do return KeyMap.ofEntries (← written.mapM read)) = some map := by
  have all := map_all_of_listed each fun item member => reads item (order.mem_iff.mp member)
  rw [all]
  exact congrArg some (KeyMap.of_entries_of_perm sorted order)

theorem counts_of_record (sorted : KeyMap.IsSorted counts)
    (fit : ∀ count ∈ counts, FitsWord count.2)
    (record : CountsRecord counts value) : Answer.counts? value = some counts := by
  cases record with
  | record order each =>
    refine map_of_listed sorted order each fun count member entry => ?_
    rintro ⟨key, number⟩
    rw [key, number, nat_of_nat (fit count member)]
    rfl

namespace Typesense

theorem read_count {entries : Fields} (text : Fields.get? entries "value" = some (.string s))
    (number : Fields.get? entries "count" = some told) (counts : told.nat? = some n) :
    readFacet?.readCount? (.object entries) = some (s, n) := by
  simp [readFacet?.readCount?, Record.fields?, Record.required, text, number, counts, Value.string?]

theorem counts_of_list (sorted : KeyMap.IsSorted counts)
    (fit : ∀ count ∈ counts, FitsWord count.2) (list : CountsList counts value) :
    (do return KeyMap.ofEntries (← Record.list readFacet?.readCount? value)) = some counts := by
  cases list with
  | list order each =>
    refine map_of_listed sorted order each fun count member item => ?_
    rintro ⟨⟨entries, rfl, text⟩, _, same, number⟩
    cases same
    exact read_count text number (nat_of_nat (fit count member))

theorem read_facet {entries : Fields}
    (name : Fields.get? entries "field_name" = some (.string field))
    (listed : Fields.get? entries "counts" = some value)
    (read : (do return KeyMap.ofEntries (← Record.list readFacet?.readCount? value)) =
      some counts) : readFacet? (.object entries) = some (field, counts) := by
  obtain ⟨texts, all, made⟩ := Option.bind_eq_some_iff.mp read
  cases made
  simp [readFacet?, Record.fields?, Record.required, Record.withDefault, name, listed,
    Value.string?, all]

end Typesense

namespace Findings

theorem read_facets_record (findings : Findings) (record : FacetsRecord findings.facets told) :
    Record.withDefault [] Answer.facets? told = some findings.facets := by
  obtain ⟨_, _, _, facets, _, _, _, _, sorted, counts_sorted, fit⟩ := findings
  cases record with
  | absent => rfl
  | record order each =>
    refine map_of_listed sorted order each fun facet member entry => ?_
    rintro ⟨key, counts⟩
    rw [key, counts_of_record (counts_sorted facet member) (fit facet member) counts]
    rfl

theorem read_facets_list (findings : Findings) (list : FacetsList findings.facets told) :
    (do return KeyMap.ofEntries (← Record.withDefault [] (Record.list Typesense.readFacet?) told)) =
      some findings.facets := by
  obtain ⟨_, _, _, facets, _, _, _, _, sorted, counts_sorted, fit⟩ := findings
  cases list with
  | absent => rfl
  | list order each =>
    refine map_of_listed sorted order each fun facet member item => ?_
    rintro ⟨⟨entries, rfl, name⟩, counts, ⟨_, same, listed⟩, written⟩
    cases same
    exact Typesense.read_facet name listed
      (Typesense.counts_of_list (counts_sorted facet member) (fit facet member) written)

end Findings

/-! ## Reading documents -/

theorem of_fields_of_id {fields : Fields} {id : String}
    (found : Fields.get? fields "id" = some (.string id)) :
    Document.ofFields fields = .ok ⟨id, fields, found⟩ := by
  unfold Document.ofFields
  split
  · rename_i other h
    cases h.symm.trans found
    rfl
  · rename_i other no_text h
    cases h.symm.trans found
    exact absurd rfl (no_text id)
  · rename_i h
    cases h.symm.trans found

/-- Fields that hold what a document has under each key spell the same document. -/
theorem same_of_get {document : Document} {fields : Fields} (unique : document.fields.keys.Nodup)
    (unique' : fields.keys.Nodup)
    (same : ∀ key, Fields.get? fields key = Fields.get? document.fields key) :
    ∃ record, Document.ofFields fields = .ok record ∧ document.Same record :=
  ⟨_, of_fields_of_id ((same "id").trans document.id_eq), rfl,
    (Fields.perm_of_get unique' unique same).symm⟩

namespace Algolia

theorem decode_written {service : Service} {document : Document} {hit : Fields}
    (written : (SearchIndex.Service.algolia service).WritesDocument document hit)
    (unique : document.fields.keys.Nodup)
    (unreserved : ∀ name ∈ reservedFields, name ∉ document.fields.keys) :
    ∃ record, decode hit = .ok record ∧ document.Same record := by
  have absent {name : String} (reserved : name ∈ reservedFields) :
      Fields.get? document.fields name = none := Fields.get_none_iff.mpr (unreserved name reserved)
  have restored := Fields.insert_unique (Fields.remove_unique written.unique idField) "id"
    (.string document.id)
  have named : Fields.get? hit idField = some (.string document.id) := written.id
  rw [decode, named]
  -- Key by key: what was added is taken out again, and the identifier goes back to its own name.
  refine same_of_get unique (Fields.remove_all_unique restored _) fun key => ?_
  rw [Fields.get_remove_all restored]
  by_cases added : key ∈ hitFields
  · rw [if_pos added, absent (List.mem_cons_of_mem _ added)]
  · rw [if_neg added]
    by_cases identifier : key = "id"
    · subst identifier
      rw [Fields.get?_insert_self, document.id_eq]
    · rw [Fields.get?_insert_of_ne _ _ (Ne.symm identifier), Fields.get_remove written.unique]
      by_cases object : key = idField
      · rw [if_pos object, object, absent List.mem_cons_self]
      · rw [if_neg object, written.others key identifier object added]

end Algolia

namespace Meilisearch

theorem decode_written {service : Service} {document : Document} {hit : Fields}
    (written : (SearchIndex.Service.meilisearch service).WritesDocument document hit)
    (unique : document.fields.keys.Nodup) :
    ∃ record, decode hit = .ok record ∧ document.Same record := by
  have named : Fields.get? hit "id" = some (.string (encodeId document.id)) := written.id
  have read : decode hit = .ok (Document.mapId ⟨encodeId document.id, hit, named⟩ decodeId) := by
    rw [decode, of_fields_of_id named]
    rfl
  refine ⟨_, read, (decode_encode_id document.id).symm, ?_⟩
  refine Fields.perm_of_get unique (Fields.insert_unique written.unique _ _) fun key => ?_
  change _ = Fields.get? (Fields.insert hit "id" (.string (decodeId (encodeId document.id)))) key
  by_cases identifier : key = "id"
  · rw [identifier, Fields.get?_insert_self, document.id_eq, decode_encode_id]
  · rw [Fields.get?_insert_of_ne _ _ (Ne.symm identifier),
      written.others key identifier identifier List.not_mem_nil]

end Meilisearch

namespace Service

/-- A hit is read as the document that it holds. -/
theorem decode_written {service : Service} {document : Document} {hit : Fields}
    (written : service.WritesDocument document hit) (unique : document.fields.keys.Nodup)
    (unreserved : ∀ name ∈ Algolia.reservedFields, name ∉ document.fields.keys) :
    ∃ record, service.decode hit = .ok record ∧ document.Same record := by
  cases service with
  | algolia service => exact Algolia.decode_written written unique unreserved
  | meilisearch service => exact Meilisearch.decode_written written unique
  | typesense service =>
    refine same_of_get unique written.unique fun key => ?_
    by_cases identifier : key = "id"
    · rw [identifier, document.id_eq]
      exact written.id
    · exact written.others key identifier identifier List.not_mem_nil

/-! ## Reading answers -/

end Service

theorem read_page {value : Value} (told : value.nat? = some page) :
    Record.optional Value.nat? (some value) = some (some page) := by
  cases value with
  | number number => exact congrArg (Option.map some) told
  | null | bool | string | array | object => cases told

theorem read_records (records : List Fields) :
    Record.withDefault [] (Record.list Value.object?) (some (.array (records.map .object))) =
      some records :=
  map_all_of_listed (List.forall₂_map_right_iff.mpr (List.forall₂_same.mpr fun _ _ => rfl))
    fun _ _ _ same => same ▸ rfl

section
variable {entries : Fields} {found page : Value} {count place : Nat} {facets : Facets}
  (counted : found.nat? = some count) (paged : page.nat? = some place)

include counted paged

theorem Algolia.read_answer
    (answer : Fields.get? outer "results" = some (.array [.object entries]))
    (hits : Fields.get? entries "hits" = some (.array (records.map .object)))
    (told : Fields.get? entries "nbHits" = some found)
    (placed : Fields.get? entries "page" = some page)
    (read : Record.withDefault [] Answer.facets? (Fields.get? entries "facets") = some facets) :
    readAnswer? (.object outer) = some ⟨records, count, some place, facets⟩ := by
  have parts : Record.fields? ["hits", "nbHits", "page", "facets"] (.object entries) =
      some [some (.array (records.map .object)), some found, some page,
        Fields.get? entries "facets"] := by
    simp only [Record.fields?, List.map_cons, List.map_nil, hits, told, placed]
  have query : readQuery? (.object entries) = some ⟨records, count, some place, facets⟩ := by
    rw [readQuery?, parts]
    simp only [Option.bind_eq_bind, Option.bind_some, read_records, read_page paged, read]
    simp only [Record.withDefault, counted]
    rfl
  have wrapper : Record.fields? ["results"] (.object outer) =
      some [some (.array [.object entries])] :=
    congrArg (fun found => some [found]) answer
  rw [readAnswer?, wrapper]
  simp only [Option.bind_eq_bind, Option.bind_some, Record.withDefault, Record.list,
    List.mapM_cons, List.mapM_nil, query]
  rfl

theorem Meilisearch.read_answer
    (hits : Fields.get? entries "hits" = some (.array (records.map .object)))
    (told : Fields.get? entries "totalHits" = some found)
    (placed : Fields.get? entries "page" = some page)
    (read : Record.withDefault [] Answer.facets? (Fields.get? entries "facetDistribution") =
      some facets) :
    readAnswer? (.object entries) = some ⟨records, count, some (place - 1), facets⟩ := by
  have parts : Record.fields? ["hits", "totalHits", "page", "facetDistribution"]
      (.object entries) = some [some (.array (records.map .object)), some found, some page,
        Fields.get? entries "facetDistribution"] := by
    simp only [Record.fields?, List.map_cons, List.map_nil, hits, told, placed]
  rw [readAnswer?, parts]
  simp only [Option.bind_eq_bind, Option.bind_some, read_records, read_page paged, read]
  simp only [Record.withDefault, counted]
  rfl

theorem Typesense.read_answer
    (hits : Fields.get? entries "hits" = some (.array items))
    (wrapped : List.Forall₂ (fun record item => item.Has "document" (.object record)) records items)
    (told : Fields.get? entries "found" = some found)
    (placed : Fields.get? entries "page" = some page)
    (read : (do return KeyMap.ofEntries (← Record.withDefault [] (Record.list readFacet?)
      (Fields.get? entries "facet_counts"))) = some facets) :
    readAnswer? (.object entries) = some ⟨records, count, some (place - 1), facets⟩ := by
  have parts : Record.fields? ["found", "page", "hits", "facet_counts"] (.object entries) =
      some [some found, some page, some (.array items), Fields.get? entries "facet_counts"] := by
    simp only [Record.fields?, List.map_cons, List.map_nil, hits, told, placed]
  have unwrapped : Record.withDefault [] (Record.list readHit?) (some (.array items)) =
      some records := by
    refine map_all_of_listed wrapped fun record _ item => ?_
    rintro ⟨fields, rfl, document⟩
    simp [readHit?, Record.fields?, Record.required, document, Value.object?]
  obtain ⟨listed, all, made⟩ := Option.bind_eq_some_iff.mp read
  replace made : KeyMap.ofEntries listed = facets := Option.some.inj made
  rw [readAnswer?, parts]
  simp only [Option.bind_eq_bind, Option.bind_some, unwrapped, read_page paged, all, made]
  simp only [Record.withDefault, counted]
  rfl

end

namespace Service

/-- An answer is read as what it says, with hits that hold the documents. -/
theorem read_written {service : Service} {findings : Findings}
    (written : service.WritesAnswer findings value) :
    ∃ hits, service.readAnswer? value =
        some ⟨hits, findings.found, some findings.page, findings.facets⟩ ∧
      List.Forall₂ service.WritesDocument findings.documents hits := by
  have counted := nat_of_nat findings.found_fits
  have fits : FitsWord (findings.page + 1) ∧ FitsWord findings.page := by
    have below := findings.page_fits
    unfold lastPage at below
    unfold FitsWord
    omega
  cases written with
  | algolia answer hits each found page facets =>
    exact ⟨_, Algolia.read_answer counted (nat_of_nat fits.2) answer hits found page
      (findings.read_facets_record facets), each⟩
  | meilisearch hits each found page facets =>
    exact ⟨_, Meilisearch.read_answer counted (nat_of_nat fits.1) hits found page
      (findings.read_facets_record facets), each⟩
  | typesense hits wrapped each found page facets =>
    exact ⟨_, Typesense.read_answer counted (nat_of_nat fits.1) hits wrapped found page
      (findings.read_facets_list facets), each⟩

/-- Hits that hold documents are read as the documents. -/
theorem documents_of_hits {service : Service} {documents : List Document} {hits : List Fields}
    (each : List.Forall₂ service.WritesDocument documents hits)
    (unique : ∀ document ∈ documents, document.fields.keys.Nodup)
    (unreserved : ∀ document ∈ documents, ∀ name ∈ Algolia.reservedFields,
      name ∉ document.fields.keys) :
    ∃ records, Answer.documents service.decode hits = .ok records ∧
      List.Forall₂ Document.Same documents records := by
  induction each with
  | nil => exact ⟨[], rfl, .nil⟩
  | cons here later ih =>
    obtain ⟨unique_here, unique_later⟩ := List.forall_mem_cons.mp unique
    obtain ⟨clear_here, clear_later⟩ := List.forall_mem_cons.mp unreserved
    obtain ⟨record, decoded, same⟩ := decode_written here unique_here clear_here
    obtain ⟨records, read, alike⟩ := ih unique_later clear_later
    refine ⟨record :: records, ?_, .cons same alike⟩
    rw [Answer.documents, decoded, read]
    rfl

/-- A total counts a page for each full or partly filled one; pages hold a document at least. -/
theorem total_eq (records size : Nat) :
    Total.ofRecords records size = ⟨records ⌈/⌉ max size 1, records⟩ := by
  have least : Total.ofRecords records size = Total.ofRecords records (max size 1) := by
    cases size with
    | zero => rfl
    | succ size => rw [max_eq_left (Nat.le_add_left 1 size)]
  rw [least, Engine.total_of_records records (lt_max_of_lt_right one_pos)]

/-! ## Main statement -/

/-- Whichever service is asked, what it answers is read as the same result: the documents that were
found, the page, the number of documents and of the pages that they fill, and the counts of facets.
-/
theorem search_finds {service : Service} {findings : Findings} {options : Options}
    {response : Response} (query : String) (reaches : service.client.Reaches service.searchPath)
    (sized : service.pageSize = size) (unsorted : options.sort = [])
    (compiles : service.language.compile options.filters = .ok compiled)
    (something : compiled ≠ .nothing) (success : response.isSuccess = true)
    (reads : Client.readValue response.body = .ok value)
    (written : service.WritesAnswer findings value) :
    (service.search query options).request?.isSome ∧
      ∃ records, List.Forall₂ Document.Same findings.documents records ∧
        (service.search query options).run (fun _ => .ok response) = .ok {
          query
          page := findings.page
          total := ⟨findings.found ⌈/⌉ max size 1, findings.found⟩
          sort := []
          records
          facets := findings.facets
          filters := options.filters.map .tree } := by
  obtain ⟨method, values, body, asks⟩ := search_of_compiled query compiles something
  obtain ⟨request, sent⟩ := Client.send_of_reaches reaches method values body fun response =>
    service.client.successValue response >>= service.readResult query options
  obtain ⟨hits, read, each⟩ := read_written written
  obtain ⟨records, decoded, same⟩ := documents_of_hits each findings.unique findings.unreserved
  have answered : service.answered options = options := by
    cases service with
    | algolia => rw [Service.answered, ← unsorted]
    | meilisearch | typesense => rfl
  have result : service.readResult query options value = .ok {
      query
      page := findings.page
      total := ⟨findings.found ⌈/⌉ max size 1, findings.found⟩
      sort := []
      records
      facets := findings.facets
      filters := options.filters.map .tree } := by
    rw [readResult, read, answered, sized, ← unsorted, ← total_eq]
    simp only [Answer.orFault, Answer.result, bind, Except.bind, decoded]
    rfl
  refine ⟨by rw [asks, sent]; rfl, records, same, ?_⟩
  rw [asks, sent, ← result]
  simp only [Call.run, bind, Except.bind, Client.success_value_ok.mpr ⟨success, reads⟩]

end Service

/-- One hat of eleven, on the second page. -/
private def hats : Findings where
  documents := [.ofId "a/b" [("title", .string "Hat")]]
  found := 11
  page := 1
  facets := [("tag", [("new", 2)])]
  unique := by decide
  unreserved := by decide
  found_fits := by decide
  page_fits := by decide
  facets_sorted := by decide +kernel
  counts_sorted := by decide +kernel
  counts_fit := by decide

/-- The hats at each service, with five documents on a page. -/
private def hatsAtAlgolia : Service :=
  .algolia ⟨⟨.algolia, "http://localhost:8080".toList, []⟩, "hats", 5⟩

private def hatsAtMeilisearch : Service :=
  .meilisearch ⟨⟨.meilisearch, "http://localhost:7700".toList, []⟩, "hats", 5⟩

private def hatsAtTypesense : Service :=
  .typesense ⟨⟨.typesense, "http://localhost:8108".toList, []⟩, "hats", 5, "title"⟩

/-- What each service answers to a search for hats. -/
private def algoliaHats : Response := ⟨200,
  "\x7b\"results\":[\x7b\"hits\":[\x7b\"title\":\"Hat\",\"objectID\":\"a/b\"," ++
  "\"_rankingInfo\":null\x7d],\"nbHits\":11,\"page\":1," ++
  "\"facets\":\x7b\"tag\":\x7b\"new\":2\x7d\x7d\x7d]\x7d"⟩

private def meilisearchHats : Response := ⟨200,
  "\x7b\"hits\":[\x7b\"id\":\"a--b\",\"title\":\"Hat\"\x7d],\"totalHits\":11,\"page\":2," ++
  "\"facetDistribution\":\x7b\"tag\":\x7b\"new\":2\x7d\x7d\x7d"⟩

private def typesenseHats : Response := ⟨200,
  "\x7b\"found\":11,\"page\":2," ++
  "\"hits\":[\x7b\"document\":\x7b\"id\":\"a/b\",\"title\":\"Hat\"\x7d\x7d]," ++
  "\"facet_counts\":[\x7b\"field_name\":\"tag\"," ++
  "\"counts\":[\x7b\"value\":\"new\",\"count\":2\x7d]\x7d]\x7d"⟩

private theorem hats_at_algolia :
    ∃ value, Client.readValue algoliaHats.body = .ok value ∧
      hatsAtAlgolia.WritesAnswer hats value := by
  have reads : Client.readValue algoliaHats.body = .ok (.object [("results", .array [.object [
      ("hits", .array [.object [("title", .string "Hat"), ("objectID", .string "a/b"),
        ("_rankingInfo", .null)]]),
      ("nbHits", .ofNat 11), ("page", .ofNat 1),
      ("facets", .object [("tag", .object [("new", .ofNat 2)])])]])]) :=
    Client.read_value_ok.mpr (by decide +kernel)
  have holds : hatsAtAlgolia.WritesDocument (.ofId "a/b" [("title", .string "Hat")])
      [("title", .string "Hat"), ("objectID", .string "a/b"), ("_rankingInfo", .null)] := by
    refine ⟨by decide, rfl, fun key identifier object added => ?_⟩
    have plain : "objectID" ≠ key ∧ "_rankingInfo" ≠ key :=
      ⟨Ne.symm object, fun same => added (same ▸ by decide)⟩
    simp [Document.ofId, Fields.insert, Fields.get?, plain, Ne.symm identifier]
  have tags : FacetsRecord hats.facets (some (.object [("tag", .object [("new", .ofNat 2)])])) :=
    .record (.refl _) (.cons ⟨rfl, .record (.refl _) (.cons ⟨rfl, rfl⟩ .nil)⟩ .nil)
  exact ⟨_, reads, .algolia rfl (List.map_singleton ▸ rfl) (.cons holds .nil) rfl rfl tags⟩

private theorem hats_at_meilisearch :
    ∃ value, Client.readValue meilisearchHats.body = .ok value ∧
      hatsAtMeilisearch.WritesAnswer hats value := by
  have reads : Client.readValue meilisearchHats.body = .ok (.object [
      ("hits", .array [.object [("id", .string "a--b"), ("title", .string "Hat")]]),
      ("totalHits", .ofNat 11), ("page", .ofNat 2),
      ("facetDistribution", .object [("tag", .object [("new", .ofNat 2)])])]) :=
    Client.read_value_ok.mpr (by decide +kernel)
  have holds : hatsAtMeilisearch.WritesDocument (.ofId "a/b" [("title", .string "Hat")])
      [("id", .string "a--b"), ("title", .string "Hat")] := by
    refine ⟨by decide, rfl, fun key identifier _ _ => ?_⟩
    simp [Document.ofId, Fields.insert, Fields.get?, Ne.symm identifier]
  have tags : FacetsRecord hats.facets (some (.object [("tag", .object [("new", .ofNat 2)])])) :=
    .record (.refl _) (.cons ⟨rfl, .record (.refl _) (.cons ⟨rfl, rfl⟩ .nil)⟩ .nil)
  exact ⟨_, reads, .meilisearch (List.map_singleton ▸ rfl) (.cons holds .nil) rfl rfl tags⟩

private theorem hats_at_typesense :
    ∃ value, Client.readValue typesenseHats.body = .ok value ∧
      hatsAtTypesense.WritesAnswer hats value := by
  have reads : Client.readValue typesenseHats.body = .ok (.object [
      ("found", .ofNat 11), ("page", .ofNat 2),
      ("hits", .array [.object [("document", .object [("id", .string "a/b"),
        ("title", .string "Hat")])]]),
      ("facet_counts", .array [.object [("field_name", .string "tag"),
        ("counts", .array [.object [("value", .string "new"), ("count", .ofNat 2)]])]])]) :=
    Client.read_value_ok.mpr (by decide +kernel)
  have holds : hatsAtTypesense.WritesDocument (.ofId "a/b" [("title", .string "Hat")])
      [("id", .string "a/b"), ("title", .string "Hat")] := by
    refine ⟨by decide, rfl, fun key identifier _ _ => ?_⟩
    simp [Document.ofId, Fields.insert, Fields.get?, Ne.symm identifier]
  have tags : FacetsList hats.facets (some (.array [.object [("field_name", .string "tag"),
      ("counts", .array [.object [("value", .string "new"), ("count", .ofNat 2)]])]])) :=
    .list (.refl _) (.cons ⟨⟨_, rfl, rfl⟩, _, ⟨_, rfl, rfl⟩,
      .list (.refl _) (.cons ⟨⟨_, rfl, rfl⟩, _, rfl, rfl⟩ .nil)⟩ .nil)
  exact ⟨_, reads, .typesense rfl (.cons ⟨_, rfl, rfl⟩ .nil) (.cons holds .nil) rfl rfl tags⟩

/-- The same hats are found at all three services. -/
theorem hats_found :
    (∃ records, List.Forall₂ Document.Same hats.documents records ∧
      (hatsAtAlgolia.search "hat" .initial).run (fun _ => .ok algoliaHats) =
        .ok ⟨"hat", 1, ⟨3, 11⟩, [], records, [("tag", [("new", 2)])], none⟩) ∧
    (∃ records, List.Forall₂ Document.Same hats.documents records ∧
      (hatsAtMeilisearch.search "hat" .initial).run (fun _ => .ok meilisearchHats) =
        .ok ⟨"hat", 1, ⟨3, 11⟩, [], records, [("tag", [("new", 2)])], none⟩) ∧
    ∃ records, List.Forall₂ Document.Same hats.documents records ∧
      (hatsAtTypesense.search "hat" .initial).run (fun _ => .ok typesenseHats) =
        .ok ⟨"hat", 1, ⟨3, 11⟩, [], records, [("tag", [("new", 2)])], none⟩ := by
  obtain ⟨_, reads, written⟩ := hats_at_algolia
  obtain ⟨_, reads', written'⟩ := hats_at_meilisearch
  obtain ⟨_, reads'', written''⟩ := hats_at_typesense
  have reaches : hatsAtAlgolia.client.Reaches hatsAtAlgolia.searchPath := ⟨by decide +kernel, rfl⟩
  have reaches' : hatsAtMeilisearch.client.Reaches hatsAtMeilisearch.searchPath :=
    ⟨by decide +kernel, rfl⟩
  have reaches'' : hatsAtTypesense.client.Reaches hatsAtTypesense.searchPath :=
    ⟨by decide +kernel, rfl⟩
  have all (service : Service) : service.language.compile Options.initial.filters =
      .ok .everything := rfl
  exact ⟨(Service.search_finds "hat" reaches rfl rfl (all _) nofun rfl reads written).2,
    (Service.search_finds "hat" reaches' rfl rfl (all _) nofun rfl reads' written').2,
    (Service.search_finds "hat" reaches'' rfl rfl (all _) nofun rfl reads'' written'').2⟩

end SearchIndex
