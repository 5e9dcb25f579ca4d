import Mathlib.Data.List.Induction
import Mathlib.Data.List.Nodup
import SearchIndex.Index

/-! An index in memory holds what its history says. The history is the list of all documents written
and erased since the beginning; it tells which document was written last under an identifier, and
since when there has been one. The store has a document for each identifier that is present, the one
written last, in the order in which the identifiers came in. -/
namespace SearchIndex

/-! ## Histories -/

/-- A change of the documents that an index holds. -/
inductive Change where
  | written (document : Document)
  | erased (id : String)
  | cleared

namespace Change

/-- A change puts a document under an identifier. -/
def Writes (id : String) : Change → Prop
  | .written document => document.id = id
  | .erased _ | .cleared => False

/-- A change leaves no document under an identifier. -/
def Removes (id : String) : Change → Prop
  | .written _ => False
  | .erased other => other = id
  | .cleared => True

end Change

/-- Something began with a change in the history, and no later change ended it. Whether a change is
a beginning may depend on what came before. -/
def Since (begins : List Change → Change → Prop) (ends : Change → Prop) (history : List Change) :
    Prop :=
  ∃ before change after, history = before ++ change :: after ∧ begins before change ∧
    ∀ later ∈ after, ¬ends later

theorem not_since_nil : ¬Since begins ends [] := by
  rintro ⟨before, change, after, same, -⟩
  simp at same

/-- What lasts after one more change began with it, or lasted before and did not end. -/
theorem since_concat :
    Since begins ends (history ++ [change]) ↔
      begins history change ∨ (Since begins ends history ∧ ¬ends change) := by
  constructor
  · rintro ⟨before, first, after, same, began, lasts⟩
    obtain rfl | ⟨after, last, rfl⟩ := after.eq_nil_or_concat'
    · obtain ⟨rfl, ⟨⟩⟩ := List.append_inj' same rfl
      exact .inl began
    · rw [← List.cons_append, ← List.append_assoc] at same
      obtain ⟨rfl, ⟨⟩⟩ := List.append_inj' same rfl
      have earlier (later) (member : later ∈ after) : ¬ends later := lasts later (by simp [member])
      exact .inr ⟨⟨before, first, after, rfl, began, earlier⟩, lasts _ (by simp)⟩
  · rintro (began | ⟨⟨before, first, after, rfl, began, lasts⟩, goes_on⟩)
    · exact ⟨history, change, [], rfl, began, nofun⟩
    · refine ⟨before, first, after ++ [change], by simp, began, ?_⟩
      simpa [or_imp, forall_and] using ⟨lasts, goes_on⟩

/-- There is a document under an identifier: one was written and has not been removed since. -/
def Present (history : List Change) (id : String) : Prop :=
  Since (fun _ change => change.Writes id) (Change.Removes id) history

/-- A document is the last that was written under its identifier, and it has not been removed. -/
def LastWritten (history : List Change) (document : Document) : Prop :=
  Since (fun _ change => change = .written document)
    (fun later => later.Writes document.id ∨ later.Removes document.id) history

/-- There has been a document under an identifier since a time, which is counted in changes: one was
written then, where there was none, and has not been removed since. -/
def PresentSince (history : List Change) (id : String) (time : Nat) : Prop :=
  Since (fun before change => change.Writes id ∧ ¬Present before id ∧ before.length = time)
    (Change.Removes id) history

variable {history : List Change} {change : Change} {id : String} {time : Nat} {document : Document}

theorem Change.not_removes_of_writes (writes : change.Writes id) : ¬change.Removes id := by
  cases change with
  | written document => exact False.elim
  | erased other | cleared => exact writes.elim

/-- A document is present under an identifier exactly while one is the last written under it. -/
theorem last_written_exists_iff :
    (∃ document, document.id = id ∧ LastWritten history document) ↔ Present history id := by
  -- The latest change decides, or else what was so before it; hence the induction from the end.
  induction history using List.reverseRecOn with
  | nil => simp [LastWritten, Present, not_since_nil]
  | append_singleton history change ih =>
    constructor
    · rintro ⟨document, rfl, last⟩
      obtain rfl | ⟨last, untouched⟩ := since_concat.mp last
      · exact since_concat.mpr (.inl rfl)
      · exact since_concat.mpr (.inr ⟨ih.mp ⟨document, rfl, last⟩, fun removes =>
          untouched (.inr removes)⟩)
    · intro present
      by_cases writes : change.Writes id
      · cases change with
        | written document => exact ⟨document, writes, since_concat.mpr (.inl rfl)⟩
        | erased other | cleared => exact writes.elim
      · obtain writes' | ⟨present, kept⟩ := since_concat.mp present
        · exact absurd writes' writes
        · obtain ⟨document, rfl, last⟩ := ih.mpr present
          exact ⟨document, rfl, since_concat.mpr (.inr ⟨last, not_or.mpr ⟨writes, kept⟩⟩)⟩

/-- A document is present under an identifier exactly if one has been since some time. -/
theorem present_since_exists_iff :
    (∃ time, PresentSince history id time) ↔ Present history id := by
  induction history using List.reverseRecOn with
  | nil => simp [PresentSince, Present, not_since_nil]
  | append_singleton history change ih =>
    constructor
    · rintro ⟨time, since⟩
      obtain ⟨writes, -, -⟩ | ⟨since, kept⟩ := since_concat.mp since
      · exact since_concat.mpr (.inl writes)
      · exact since_concat.mpr (.inr ⟨ih.mp ⟨time, since⟩, kept⟩)
    · intro present
      by_cases before : Present history id
      · obtain ⟨time, since⟩ := ih.mpr before
        have kept : ¬change.Removes id := by
          obtain writes | ⟨-, kept⟩ := since_concat.mp present
          · exact Change.not_removes_of_writes writes
          · exact kept
        exact ⟨time, since_concat.mpr (.inr ⟨since, kept⟩)⟩
      · obtain writes | ⟨present, -⟩ := since_concat.mp present
        · exact ⟨history.length, since_concat.mpr (.inl ⟨writes, before, rfl⟩)⟩
        · exact absurd present before

namespace PresentSince

theorem lt_length (since : PresentSince history id time) : time < history.length := by
  obtain ⟨before, change, after, rfl, ⟨-, -, rfl⟩, -⟩ := since
  simp

/-- A change does not alter since when a document has been present. -/
theorem of_concat (since : PresentSince (history ++ [change]) id time)
    (present : Present history id) : PresentSince history id time := by
  obtain ⟨-, absent, -⟩ | ⟨since, -⟩ := since_concat.mp since
  · exact absurd present absent
  · exact since

/-- A document that was not present before a change has been since this change. -/
theorem eq_length (since : PresentSince (history ++ [change]) id time)
    (absent : ¬Present history id) : time = history.length := by
  obtain ⟨-, -, now⟩ | ⟨since, -⟩ := since_concat.mp since
  · exact now.symm
  · exact absurd (present_since_exists_iff.mp ⟨time, since⟩) absent

end PresentSince

/-- The one identifier came in before the other. -/
def CameBefore (history : List Change) (first second : String) : Prop :=
  ∀ time time', PresentSince history first time → PresentSince history second time' → time < time'

/-! ## Changes of a store -/

namespace Store

/-- A document written over one keeps its place, and one under a new identifier comes last. -/
theorem put_entry_ids (document : Document) (entries : List (String × Document)) :
    (putEntry document entries).map Prod.fst =
      if document.id ∈ entries.map Prod.fst then entries.map Prod.fst
      else entries.map Prod.fst ++ [document.id] := by
  induction entries with
  | nil => rfl
  | cons first rest ih =>
    by_cases here : first.1 = document.id
    · simp [putEntry, here]
    · rw [putEntry, if_neg here, List.map_cons, ih, List.map_cons]
      by_cases behind : document.id ∈ rest.map Prod.fst
      · rw [if_pos behind, if_pos (List.mem_cons_of_mem _ behind)]
      · rw [if_neg behind, if_neg (List.not_mem_cons_of_ne_of_not_mem (Ne.symm here) behind)]
        rfl

theorem put_ids (store : Store) (document : Document) :
    (store.put document).ids =
      if document.id ∈ store.ids then store.ids else store.ids ++ [document.id] :=
  put_entry_ids document store.entries

theorem mem_put {store : Store} (distinct : store.ids.Nodup) {entry : String × Document} :
    entry ∈ (store.put document).entries ↔
      entry = (document.id, document) ∨ entry.1 ≠ document.id ∧ entry ∈ store.entries := by
  obtain ⟨entries⟩ := store
  simp only [put, ids] at distinct ⊢
  induction entries with
  | nil => simp [putEntry]
  | cons first rest ih =>
    rw [List.map_cons, List.nodup_cons] at distinct
    by_cases here : first.1 = document.id
    · have others (member : entry ∈ rest) : entry.1 ≠ document.id := by
        intro same
        exact distinct.1 (here.trans same.symm ▸ List.mem_map_of_mem member)
      rw [putEntry, if_pos here, here, List.mem_cons, List.mem_cons]
      constructor
      · rintro (now | member)
        · exact .inl now
        · exact .inr ⟨others member, .inr member⟩
      · rintro (now | ⟨other, rfl | member⟩)
        · exact .inl now
        · exact absurd here other
        · exact .inr member
    · rw [putEntry, if_neg here, List.mem_cons, ih distinct.2, List.mem_cons]
      constructor
      · rintro (rfl | now | ⟨other, member⟩)
        · exact .inr ⟨here, .inl rfl⟩
        · exact .inl now
        · exact .inr ⟨other, .inr member⟩
      · rintro (now | ⟨other, rfl | member⟩)
        · exact .inr (.inl now)
        · exact .inl rfl
        · exact .inr (.inr ⟨other, member⟩)

theorem erase_ids (store : Store) (id : String) : (store.erase id).ids = store.ids.erase id := by
  rw [ids, ids, List.erase_eq_eraseP', List.eraseP_map]
  rfl

theorem mem_erase {store : Store} (distinct : store.ids.Nodup) {entry : String × Document} :
    entry ∈ (store.erase id).entries ↔ entry.1 ≠ id ∧ entry ∈ store.entries := by
  constructor
  · intro member
    refine ⟨fun same => ?_, List.mem_of_mem_eraseP member⟩
    have left : entry.1 ∈ (store.erase id).ids := List.mem_map_of_mem member
    rw [erase_ids, same] at left
    exact distinct.not_mem_erase left
  · rintro ⟨other, member⟩
    exact (List.mem_eraseP_of_neg (by simpa using other)).mpr member

/-- The document under an identifier is the one that the store has an entry of. -/
theorem get_some_iff {store : Store} (distinct : store.ids.Nodup) :
    store.get? id = some document ↔ (id, document) ∈ store.entries := by
  obtain ⟨entries⟩ := store
  simp only [get?, ids] at distinct ⊢
  induction entries with
  | nil => simp
  | cons first rest ih =>
    obtain ⟨key, other⟩ := first
    rw [List.map_cons, List.nodup_cons] at distinct
    by_cases here : id = key
    · subst here
      have behind : (id, document) ∉ rest := fun member =>
        distinct.1 (List.mem_map.mpr ⟨_, member, rfl⟩)
      rw [List.lookup_cons_self]
      simp [behind, eq_comm]
    · have elsewhere : (id == key) = false := beq_false_of_ne here
      rw [List.lookup_cons, elsewhere, List.mem_cons]
      simp [ih distinct.2, here]

/-- The store after a change. -/
def apply (store : Store) : Change → Store
  | .written document => store.put document
  | .erased id => store.erase id
  | .cleared => empty

/-- The store after some changes. -/
def applyAll (store : Store) (history : List Change) : Store := history.foldl apply store

theorem apply_all_append (store : Store) (earlier later : List Change) :
    store.applyAll (earlier ++ later) = (store.applyAll earlier).applyAll later :=
  List.foldl_append

theorem apply_all_written (store : Store) (documents : List Document) :
    store.applyAll (documents.map .written) = store.putAll documents :=
  List.foldl_map

theorem of_documents_eq (documents : List Document) :
    ofDocuments documents = empty.applyAll (documents.map .written) :=
  (apply_all_written empty documents).symm

/-- A store is what its history says. -/
structure Reflects (store : Store) (history : List Change) : Prop where
  distinct : store.ids.Nodup
  held : ∀ id document, (id, document) ∈ store.entries ↔
    document.id = id ∧ LastWritten history document
  in_order : store.ids.Pairwise (CameBefore history)

namespace Reflects

variable {store : Store}

theorem mem_ids (reflects : store.Reflects history) : id ∈ store.ids ↔ Present history id := by
  rw [← last_written_exists_iff]
  simp [ids, reflects.held]

/-- What stays in a store stays in order. -/
theorem in_order_after (reflects : store.Reflects history) (change : Change)
    (stays : List.Sublist kept store.ids) : kept.Pairwise (CameBefore (history ++ [change])) := by
  refine (reflects.in_order.sublist stays).imp_of_mem ?_
  intro first second member member' before time time' since since'
  exact before _ _ (since.of_concat (reflects.mem_ids.mp (stays.subset member)))
    (since'.of_concat (reflects.mem_ids.mp (stays.subset member')))

theorem put (reflects : store.Reflects history) (document : Document) :
    (store.put document).Reflects (history ++ [.written document]) where
  distinct := by
    rw [put_ids]
    split
    · exact reflects.distinct
    · rename_i new
      rw [← List.concat_eq_append]
      exact reflects.distinct.concat new
  held id other := by
    rw [mem_put reflects.distinct, reflects.held]
    constructor
    · rintro (⟨⟨⟩⟩ | ⟨differs, rfl, last⟩)
      · exact ⟨rfl, since_concat.mpr (.inl rfl)⟩
      · refine ⟨rfl, since_concat.mpr (.inr ⟨last, ?_⟩)⟩
        rintro (same | ⟨⟨⟩⟩)
        exact differs same.symm
    · rintro ⟨rfl, last⟩
      obtain ⟨⟨⟩⟩ | ⟨last, untouched⟩ := since_concat.mp last
      · exact .inl rfl
      · exact .inr ⟨fun same => untouched (.inl same.symm), rfl, last⟩
  in_order := by
    rw [put_ids]
    split
    · exact reflects.in_order_after _ (List.Sublist.refl _)
    · rename_i new
      have absent : ¬Present history document.id := reflects.mem_ids.not.mp new
      refine List.pairwise_append.mpr ⟨reflects.in_order_after _ (List.Sublist.refl _),
        List.pairwise_singleton _ _, fun first member second last => ?_⟩
      obtain rfl := List.mem_singleton.mp last
      intro time time' since since'
      rw [since'.eq_length absent]
      exact (since.of_concat (reflects.mem_ids.mp member)).lt_length

theorem erase (reflects : store.Reflects history) (id : String) :
    (store.erase id).Reflects (history ++ [.erased id]) where
  distinct := by
    rw [erase_ids]
    exact reflects.distinct.erase id
  held other document := by
    rw [mem_erase reflects.distinct, reflects.held]
    constructor
    · rintro ⟨differs, rfl, last⟩
      refine ⟨rfl, since_concat.mpr (.inr ⟨last, ?_⟩)⟩
      rintro (⟨⟨⟩⟩ | same)
      exact differs same.symm
    · rintro ⟨rfl, last⟩
      obtain ⟨⟨⟩⟩ | ⟨last, untouched⟩ := since_concat.mp last
      exact ⟨fun same => untouched (.inr same.symm), rfl, last⟩
  in_order := by
    rw [erase_ids]
    exact reflects.in_order_after _ List.erase_sublist

theorem clear : (empty : Store).Reflects (history ++ [.cleared]) where
  distinct := List.nodup_nil
  held id document := by
    refine ⟨nofun, ?_⟩
    rintro ⟨rfl, last⟩
    obtain ⟨⟨⟩⟩ | ⟨-, untouched⟩ := since_concat.mp last
    exact absurd (.inr trivial) untouched
  in_order := .nil

/-- A change of a store belongs to its history. -/
theorem apply (reflects : store.Reflects history) (change : Change) :
    (store.apply change).Reflects (history ++ [change]) := by
  cases change with
  | written document => exact reflects.put document
  | erased id => exact reflects.erase id
  | cleared => exact clear

end Reflects

/-- A store after changes from the empty one is what they say. -/
theorem reflects_history (history : List Change) : (empty.applyAll history).Reflects history := by
  induction history using List.reverseRecOn with
  | nil =>
    exact ⟨List.nodup_nil, fun id document => by simp [applyAll, empty, LastWritten, not_since_nil],
      .nil⟩
  | append_singleton history change ih =>
    rw [apply_all_append]
    exact ih.apply change

-- A document written again keeps its place, unless it has been erased in between.
example : (empty.applyAll [.written (.ofId "a" []), .written (.ofId "b" []),
    .written (.ofId "c" []), .written (.ofId "b" []), .erased "a", .written (.ofId "a" [])]).ids =
      ["b", "c", "a"] := by
  decide

end Store

/-! ## Operations on an index -/

/-- An operation that callers ask of an index. -/
inductive Operation where
  | submit (documents : List Document)
  | delete (id : String)
  | swap (target : String)
  | clear
  | get (id : String)
  | search (query : String) (options : LooseOptions)

namespace Operation

/-- What an operation changes. -/
def changes : Operation → List Change
  | .submit documents => documents.map .written
  | .delete id => [.erased id]
  | .clear => [.cleared]
  | .swap _ | .get _ | .search _ _ => []

/-- The operation on an index, of which the outcome is the index after it. -/
def perform (index : Index) : Operation → Call Index
  | .submit documents => index.submit documents
  | .delete id => index.delete id
  | .swap target => index.swap target
  | .clear => index.clear
  | .get id => (index.get id).map fun _ => index
  | .search query options => (index.search query options).map fun _ => index

/-- What has been changed by operations on an index over some documents. -/
def historyOf (seed : List Document) (operations : List Operation) : List Change :=
  seed.map .written ++ operations.flatMap changes

end Operation

namespace Index

/-- The index after an operation; one that fails leaves the index as it is. -/
def after (send : Request → Except Error Response) (index : Index) (operation : Operation) :
    Index := ((operation.perform index).run send).toOption.getD index

/-- The index after some operations. -/
def afterAll (send : Request → Except Error Response) (index : Index)
    (operations : List Operation) : Index := operations.foldl (after send) index

theorem run_reading (send : Request → Except Error Response) (index : Index) (call : Call α) :
    ((call.map fun _ => index).run send).toOption.getD index = index := by
  cases call with
  | done outcome => cases outcome <;> rfl
  | ask request outcome =>
    simp only [Call.map, Call.run]
    cases send request with
    | error error => rfl
    | ok response =>
      change ((outcome response).map fun _ => index).toOption.getD index = index
      cases outcome response <;> rfl

/-- In memory an operation changes the store and nothing else. -/
theorem memory_after (send : Request → Except Error Response) (engine : Engine) (store : Store)
    (operation : Operation) : (memory engine store).after send operation =
      .memory engine (store.applyAll operation.changes) := by
  cases operation with
  | submit documents =>
    rw [Operation.changes, Store.apply_all_written, after, Operation.perform, submit]
    split
    · rename_i nothing
      rw [List.isEmpty_iff.mp nothing]
      rfl
    · rfl
  | delete id => rfl
  | swap target => rfl
  | clear => rfl
  | get id => exact run_reading send (memory engine store) (get id (memory engine store))
  | search query options =>
    exact run_reading send (memory engine store) (search (memory engine store) query options)

theorem memory_after_all (send : Request → Except Error Response) (engine : Engine) (store : Store)
    (operations : List Operation) : (memory engine store).afterAll send operations =
      .memory engine (store.applyAll (operations.flatMap Operation.changes)) := by
  induction operations generalizing store with
  | nil => rfl
  | cons operation rest ih =>
    rw [List.flatMap_cons, Store.apply_all_append, ← ih, ← memory_after]
    rfl

/-- An index in memory is at every point what its history says. Identifiers are stored once each,
with documents of their own; the document that is fetched under one is the last written, unless it
has been removed since; and they stand in the order in which they came in. What reads leaves the
index as it is, and written documents make the same index in however many batches they come. -/
theorem memory_reflects_history (settings : MemorySettings) (seed : List Document)
    (send : Request → Except Error Response) (operations : List Operation) :
    (∃ store : Store,
      (ofDocuments settings seed).afterAll send operations = .memory (engine settings) store ∧
      store.ids.Nodup ∧
      (∀ entry ∈ store.entries, entry.1 = entry.2.id) ∧
      (∀ id, ∃ found, ((memory (engine settings) store).get id).run send = .ok found ∧
        ∀ document, found = some document ↔
          document.id = id ∧ LastWritten (Operation.historyOf seed operations) document) ∧
      (∀ id, id ∈ store.ids ↔ ∃ time, PresentSince (Operation.historyOf seed operations) id time) ∧
      store.ids.Pairwise (CameBefore (Operation.historyOf seed operations)) ∧
      ∀ operation, operation.changes = [] →
        (memory (engine settings) store).after send operation = .memory (engine settings) store) ∧
    ∀ batches : List (List Document),
      (ofDocuments settings []).afterAll send (batches.map .submit) =
        ofDocuments settings batches.flatten := by
  constructor
  · have reflects := Store.reflects_history (Operation.historyOf seed operations)
    refine ⟨Store.empty.applyAll (Operation.historyOf seed operations), ?_, reflects.distinct,
      fun entry member => ?_, fun id => ⟨_, rfl, fun document => ?_⟩, fun id => ?_,
      reflects.in_order, fun operation reads => ?_⟩
    · rw [ofDocuments, Store.of_documents_eq, memory_after_all, Operation.historyOf,
        Store.apply_all_append]
    · exact ((reflects.held entry.1 entry.2).mp member).1.symm
    · rw [Store.get_some_iff reflects.distinct, reflects.held]
    · rw [reflects.mem_ids, present_since_exists_iff]
    · rw [memory_after, reads]
      rfl
  · intro batches
    have written : (batches.map Operation.submit).flatMap Operation.changes =
        batches.flatten.map Change.written := by
      rw [List.flatMap_map, List.map_flatten, List.flatMap_def]
      rfl
    rw [ofDocuments, memory_after_all, written, ofDocuments, Store.of_documents_eq,
      Store.of_documents_eq, List.map_nil]
    rfl

end Index

end SearchIndex
