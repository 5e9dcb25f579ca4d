import Mathlib.Data.List.Sort
import Mathlib.Data.String.Basic
import SearchIndex.Proofs.SortComparison
import SearchIndex.Proofs.StableSorting

/-! The order that sorting brings about. Documents whose fields sort as booleans, whole numbers of
the signed range, strings or not at all stand in the order of the first key that tells them apart,
those without a value last in either direction, and documents that no key tells apart stand as they
did. -/
namespace SearchIndex

/-! ## Values -/

namespace Value

/-- A boolean, a whole number of the signed range or a string. -/
inductive IsPlain : Value → Prop where
  | bool (p : Bool) : IsPlain (.bool p)
  | whole (small : x < 9223372036854775808) : IsPlain (.number (.integer x bounds))
  | string (s : String) : IsPlain (.string s)

/-- The first of two values comes before the second: booleans before numbers before strings, and
within a kind the one that is less. -/
inductive ComesBefore : Value → Value → Prop where
  | booleans : ComesBefore (.bool false) (.bool true)
  | numbers (less : x < y) :
      ComesBefore (.number (.integer x bounds)) (.number (.integer y bounds'))
  | strings (less : s < t) : ComesBefore (.string s) (.string t)
  | booleanNumber : ComesBefore (.bool p) (.number n)
  | booleanString : ComesBefore (.bool p) (.string s)
  | numberString : ComesBefore (.number n) (.string s)

end Value

/-- What a field sorts as. Nothing at all, null and records sort as nothing, and a list as its first
item that is not null. -/
inductive SortsAs : Option Value → Option Value → Prop where
  | absent : SortsAs none none
  | null : SortsAs (some .null) none
  | record : SortsAs (some (.object entries)) none
  | nulls (each : ∀ item ∈ items, item = .null) : SortsAs (some (.array items)) none
  | plain (plain : value.IsPlain) : SortsAs (some value) (some value)
  | first (nulls : ∀ item ∈ before, item = .null) (plain : value.IsPlain) :
      SortsAs (some (.array (before ++ value :: behind))) (some value)

/-- Plain values compare as they come. -/
theorem order_plain_cases (plain : v.IsPlain) (plain' : w.IsPlain) :
    orderByKind v w = .lt ∧ v.ComesBefore w ∨ orderByKind v w = .eq ∧ v = w ∨
      orderByKind v w = .gt ∧ w.ComesBefore v := by
  cases plain with
  | bool p =>
    cases plain' with
    | bool q =>
      cases p <;> cases q
      · exact .inr (.inl ⟨rfl, rfl⟩)
      · exact .inl ⟨rfl, .booleans⟩
      · exact .inr (.inr ⟨rfl, .booleans⟩)
      · exact .inr (.inl ⟨rfl, rfl⟩)
    | whole small => exact .inl ⟨rfl, .booleanNumber⟩
    | string t => exact .inl ⟨rfl, .booleanString⟩
  | @whole x _ small =>
    cases plain' with
    | bool q => exact .inr (.inr ⟨rfl, .booleanNumber⟩)
    | @whole y _ small' =>
      have exact_order : orderByKind (.number (.integer x ‹_›)) (.number (.integer y ‹_›)) =
          compare x y := by
        simp [orderByKind, rankOfKind, Value.order?, Number.order, Number.toSigned?, small, small',
          Number.order_int_eq]
      rw [exact_order]
      rcases lt_trichotomy x y with less | same | greater
      · exact .inl ⟨Int.compare_eq_lt.mpr less, .numbers less⟩
      · subst same
        exact .inr (.inl ⟨Int.compare_eq_eq.mpr rfl, rfl⟩)
      · exact .inr (.inr ⟨Int.compare_eq_gt.mpr greater, .numbers greater⟩)
    | string t => exact .inl ⟨rfl, .numberString⟩
  | string s =>
    cases plain' with
    | bool q => exact .inr (.inr ⟨rfl, .booleanString⟩)
    | whole small' => exact .inr (.inr ⟨rfl, .numberString⟩)
    | string t =>
      have by_codes : orderByKind (.string s) (.string t) = orderChars s.toList t.toList := rfl
      rw [by_codes]
      rcases order_chars_cases s.toList t.toList with ⟨found, less⟩ | ⟨found, same⟩ | ⟨found, less⟩
      · exact .inl ⟨found, .strings (String.lt_iff_toList_lt.mpr less)⟩
      · exact .inr (.inl ⟨found, congrArg Value.string (String.toList_injective same)⟩)
      · exact .inr (.inr ⟨found, .strings (String.lt_iff_toList_lt.mpr less)⟩)

/-- A plain value hides no difference between others. -/
theorem not_hides_of_plain (plain : v.IsPlain) : ¬ Hides v w w' := by
  intro hides
  cases hides with
  | rounding coarse =>
    cases plain with
    | whole small => simp [Number.toSigned?, small] at coarse
  | nesting other_kind no_text =>
    cases plain with
    | bool | whole => cases other_kind
    | string => cases no_text

/-! ## Documents -/

/-- What a field sorts as is what the sort takes from it. -/
theorem sortable_of_sorts_as {document : Document}
    (sorts : SortsAs (Fields.get? document.fields field) found) :
    sortable? (document.get? field) = found := by
  rw [Document.get?]
  generalize Fields.get? document.fields field = stored at sorts
  cases sorts with
  | absent | null | record => rfl
  | nulls each =>
    refine List.find?_eq_none.mpr fun item member => ?_
    rw [each item member]
    exact Bool.not_eq_true _ |>.mpr rfl
  | plain plain => cases plain <;> rfl
  | @first before value behind nulls plain =>
    change (before ++ value :: behind).find? _ = some value
    have skipped : before.find? (fun item => !item.isNull) = none :=
      List.find?_eq_none.mpr fun item member => by simp [nulls item member, Value.isNull]
    have taken : (!value.isNull) = true := by cases plain <;> rfl
    rw [List.find?_append, skipped, Option.none_or, List.find?_cons, taken]

/-- One field's value stands ahead of another's in a direction: it is there and the other is not,
or it comes first of the two. -/
inductive Direction.PutsAhead : Direction → Option Value → Option Value → Prop where
  | present (direction : Direction) : PutsAhead direction (some v) none
  | ascending (before : v.ComesBefore w) : PutsAhead .ascending (some v) (some w)
  | descending (before : w.ComesBefore v) : PutsAhead .descending (some v) (some w)

/-- The first of two documents stands ahead of the second under the first key that tells them
apart. -/
inductive AheadAtDifference : List SortKey → Document → Document → Prop where
  | here (sorts : SortsAs (Fields.get? a.fields key.field) v)
      (sorts' : SortsAs (Fields.get? b.fields key.field) w)
      (ahead : key.direction.PutsAhead v w) : AheadAtDifference (key :: rest) a b
  | later (sorts : SortsAs (Fields.get? a.fields key.field) v)
      (sorts' : SortsAs (Fields.get? b.fields key.field) v)
      (behind : AheadAtDifference rest a b) : AheadAtDifference (key :: rest) a b

/-- No key tells two documents apart. -/
def AlikeUnder (keys : List SortKey) (a b : Document) : Prop :=
  ∀ key ∈ keys, ∃ v, SortsAs (Fields.get? a.fields key.field) v ∧
    SortsAs (Fields.get? b.fields key.field) v

/-- What the document's field sorts as is known for each key. -/
def SortsUnder (keys : List SortKey) (document : Document) : Prop :=
  ∀ key ∈ keys, ∃ v, SortsAs (Fields.get? document.fields key.field) v

theorem plain_of_sorts_as (sorts : SortsAs found (some v)) : v.IsPlain := by
  cases sorts with
  | plain plain => exact plain
  | first nulls plain => exact plain

theorem direction_order_cases (direction : Direction) (plain : v.IsPlain) (plain' : w.IsPlain) :
    direction.apply (orderByKind v w) = .lt ∧ direction.PutsAhead (some v) (some w) ∨
      direction.apply (orderByKind v w) = .eq ∧ v = w ∨
      direction.apply (orderByKind v w) = .gt := by
  cases direction with
  | ascending =>
    rcases order_plain_cases plain plain' with ⟨found, before⟩ | ⟨found, same⟩ | ⟨found, -⟩
    · exact .inl ⟨found, .ascending before⟩
    · exact .inr (.inl ⟨found, same⟩)
    · exact .inr (.inr found)
  | descending =>
    simp only [Direction.apply]
    rcases order_plain_cases plain plain' with ⟨found, -⟩ | ⟨found, same⟩ | ⟨found, before⟩
    · exact .inr (.inr (by rw [found]; rfl))
    · exact .inr (.inl ⟨by rw [found]; rfl, same⟩)
    · exact .inl ⟨by rw [found]; rfl, .descending before⟩

/-- What one key finds of two documents. -/
theorem key_order_cases {key : SortKey} {a b : Document}
    (sorts : SortsAs (Fields.get? a.fields key.field) v)
    (sorts' : SortsAs (Fields.get? b.fields key.field) w) :
    key.order a b = .lt ∧ key.direction.PutsAhead v w ∨ key.order a b = .eq ∧ v = w ∨
      key.order a b = .gt := by
  rw [SortKey.order, sortable_of_sorts_as sorts, sortable_of_sorts_as sorts']
  cases v with
  | none =>
    cases w with
    | none => exact .inr (.inl ⟨rfl, rfl⟩)
    | some w => exact .inr (.inr rfl)
  | some v =>
    cases w with
    | none => exact .inl ⟨rfl, .present _⟩
    | some w =>
      rcases direction_order_cases key.direction (plain_of_sorts_as sorts)
        (plain_of_sorts_as sorts') with ⟨found, ahead⟩ | ⟨found, rfl⟩ | found
      · exact .inl ⟨found, ahead⟩
      · exact .inr (.inl ⟨found, rfl⟩)
      · exact .inr (.inr found)

/-- What all keys find of two documents. -/
theorem order_all_cases {keys : List SortKey} {a b : Document} (sorts : SortsUnder keys a)
    (sorts' : SortsUnder keys b) :
    SortKey.orderAll keys a b = .lt ∧ AheadAtDifference keys a b ∨
      SortKey.orderAll keys a b = .eq ∧ AlikeUnder keys a b ∨
      SortKey.orderAll keys a b = .gt := by
  induction keys with
  | nil => exact .inr (.inl ⟨rfl, nofun⟩)
  | cons key rest ih =>
    obtain ⟨⟨v, here⟩, later⟩ := List.forall_mem_cons.mp sorts
    obtain ⟨⟨w, here'⟩, later'⟩ := List.forall_mem_cons.mp sorts'
    rw [SortKey.order_all_cons]
    rcases key_order_cases here here' with ⟨found, ahead⟩ | ⟨found, rfl⟩ | found
    · exact .inl ⟨by rw [found]; rfl, .here here here' ahead⟩
    · rw [found, Ordering.then]
      rcases ih later later' with ⟨next, ahead⟩ | ⟨next, alike⟩ | next
      · exact .inl ⟨next, .later here here' ahead⟩
      · exact .inr (.inl ⟨next, List.forall_mem_cons.mpr ⟨⟨v, here, here'⟩, alike⟩⟩)
      · exact .inr (.inr next)
    · exact .inr (.inr (by rw [found]; rfl))

theorem sorts_total {keys : List SortKey} {documents : List Document}
    (sorts : ∀ document ∈ documents, SortsUnder keys document) :
    IsTotalAmong documents (SortKey.orderAll keys) := by
  refine SortKey.order_all_total fun key member => (key.order_total_iff documents).mpr ?_
  rintro ⟨x, -, y, middle, z, -, hides⟩
  obtain ⟨b, in_b, has_b⟩ := List.mem_filterMap.mp middle
  obtain ⟨v, known⟩ := sorts b in_b key member
  rw [SortKey.value?, sortable_of_sorts_as known] at has_b
  subst has_b
  exact not_hides_of_plain (plain_of_sorts_as known) hides

/-- A total preorder among some documents orders their places. -/
theorem places_ordered {documents : List Document} {compare : Document → Document → Ordering}
    (total : IsTotalAmong documents compare) (places : List (Fin documents.length)) :
    OrdersAmong places fun i j => compare (documents.get i) (documents.get j) == .lt := by
  -- The comparison is total among the documents only, not among all there may be.
  let at_place (i : Fin documents.length) : {document // document ∈ documents} :=
    ⟨documents.get i, List.get_mem ..⟩
  have swapped (i j : Fin documents.length) :
      compare (documents.get i) (documents.get j) =
        (compare (documents.get j) (documents.get i)).swap :=
    total.eq_swap (a := at_place i) (b := at_place j)
  have stays_iff (i j : Fin documents.length) :
      (compare (documents.get j) (documents.get i) == .lt) = false ↔
        (compare (documents.get i) (documents.get j)).isLE := by
    rw [swapped i j]
    cases compare (documents.get j) (documents.get i) <;> decide
  constructor
  · intro i _ j _ precedes
    rw [stays_iff, eq_of_beq precedes]
    rfl
  · intro i _ j _ k _ stays stays'
    rw [stays_iff] at stays stays' ⊢
    exact total.isLE_trans (a := at_place i) (b := at_place j) (c := at_place k) stays stays'

/-- Sorting, by whatever library, moves each document to a place of its own, so that of any two the
one in front is ahead under the first key that tells them apart, or stood in front before where no
key does. -/
theorem documents_sorted {keys : List SortKey} {documents : List Document}
    (sorts : ∀ document ∈ documents, SortsUnder keys document) :
    ∃ places : List (Fin documents.length), places.Perm (List.finRange documents.length) ∧
      (∀ sorter, SortKey.sortDocuments sorter keys documents = some (places.map documents.get)) ∧
      places.Pairwise fun i j =>
        AheadAtDifference keys (documents.get i) (documents.get j) ∨
          AlikeUnder keys (documents.get i) (documents.get j) ∧ i < j := by
  -- Places are sorted for documents, as the same document may stand at several.
  let precedes (i j : Fin documents.length) : Bool :=
    SortKey.orderAll keys (documents.get i) (documents.get j) == .lt
  have total := sorts_total sorts
  refine ⟨stableSort precedes (List.finRange documents.length), stable_sort_perm _ _,
    fun sorter => ?_, ?_⟩
  · rw [SortKey.sort_documents_total total, ← stable_sort_map
      (fun a b => SortKey.orderAll keys a b == .lt) documents.get, List.map_get_finRange]
  · have ordered := places_ordered total (List.finRange documents.length)
    refine (stable_sort_pairwise ordered (List.sortedLT_finRange _).pairwise).imp ?_
    intro i j ⟨stays, ahead⟩
    simp only [beq_iff_eq, beq_eq_false_iff_ne] at stays ahead
    have known (i : Fin documents.length) : SortsUnder keys (documents.get i) :=
      sorts _ (List.get_mem ..)
    rcases order_all_cases (known i) (known j) with ⟨-, found⟩ | ⟨equal, alike⟩ | behind
    · exact .inl found
    · exact .inr ⟨alike, ahead.resolve_left (by rw [equal]; decide)⟩
    · exact absurd (by rw [SortKey.order_all_swap, behind]; rfl) stays

/-- Four documents: two with the same price, one with none, and one with a text for it. -/
private def wares : List Document :=
  [.ofId "a" [("title", .string "Pants"), ("price", .ofNat 40)],
   .ofId "b" [("title", .string "Shirt"), ("price", .null)],
   .ofId "c" [("title", .array [.null, .string "Hat"]), ("price", .ofNat 40)],
   .ofId "d" [("title", .bool true), ("price", .string "sold")]]

/-- Falling by price and then rising by title. -/
private def dearestFirst : List SortKey :=
  [⟨"price", .descending⟩, ⟨"title", .ascending⟩]

/-- By falling price and then by title, the text comes first, then the equal prices by their titles,
and last the document without a price. -/
theorem wares_sorted :
    (∀ document ∈ wares, SortsUnder dearestFirst document) ∧
    (SortKey.sortDocuments .byInsertion dearestFirst wares).map (List.map Document.id) =
      some ["d", "c", "a", "b"] ∧
    ∃ places : List (Fin wares.length), places.Perm (List.finRange wares.length) ∧
      (∀ sorter, SortKey.sortDocuments sorter dearestFirst wares = some (places.map wares.get)) ∧
      places.Pairwise fun i j =>
        AheadAtDifference dearestFirst (wares.get i) (wares.get j) ∨
          AlikeUnder dearestFirst (wares.get i) (wares.get j) ∧ i < j := by
  have known : ∀ document ∈ wares, SortsUnder dearestFirst document := by
    have forty : (Value.ofNat 40).IsPlain := .whole (x := 40) (by decide)
    have hat : SortsAs (some (.array [.null, .string "Hat"])) (some (.string "Hat")) :=
      .first (List.forall_mem_singleton.mpr rfl) (.string "Hat")
    simp only [wares, dearestFirst, List.forall_mem_cons, SortsUnder]
    exact ⟨⟨⟨_, .plain forty⟩, ⟨_, .plain (.string "Pants")⟩, nofun⟩,
      ⟨⟨_, .null⟩, ⟨_, .plain (.string "Shirt")⟩, nofun⟩,
      ⟨⟨_, .plain forty⟩, ⟨_, hat⟩, nofun⟩,
      ⟨⟨_, .plain (.string "sold")⟩, ⟨_, .plain (.bool true)⟩, nofun⟩, nofun⟩
  exact ⟨known, by decide +kernel, documents_sorted known⟩

end SearchIndex
