import SearchIndex.Document
import SearchIndex.Search.Options
import SearchIndex.Value.Order

/-! Sorting documents. Documents without a value for a sort key come last in either direction;
values of different kinds are ordered by kind, so that documents of every kind find a place. The
sort itself is a standard library's. It is stable and in order where the sort keys order the
documents totally. Where they do not, as numbers that round alike may have it, it promises no order
and may stop without a result. -/
namespace SearchIndex

/-! ## Sorting by insertion -/

/-- An item put into its place among items in falling order: behind those that it precedes. -/
def insertFalling (precedes : α → α → Bool) (item : α) : List α → List α
  | [] => [item]
  | other :: rest =>
    if precedes item other then other :: insertFalling precedes item rest
    else item :: other :: rest

/-- Items in order, those of which neither precedes the other as they stood. -/
def stableSort (precedes : α → α → Bool) (items : List α) : List α :=
  (items.foldl (fun falling item => insertFalling precedes item falling) []).reverse

theorem insert_falling_perm (precedes : α → α → Bool) (item : α) (falling : List α) :
    (insertFalling precedes item falling).Perm (item :: falling) := by
  induction falling with
  | nil => exact .refl _
  | cons other rest ih =>
    rw [insertFalling]
    split
    · exact (ih.cons other).trans (.swap item other rest)
    · exact .refl _

theorem fold_falling_perm (precedes : α → α → Bool) (items falling : List α) :
    (items.foldl (fun falling item => insertFalling precedes item falling) falling).Perm
      (items ++ falling) := by
  induction items generalizing falling with
  | nil => exact .refl _
  | cons item rest ih =>
    have inserted := (insert_falling_perm precedes item falling).append_left rest
    exact (ih _).trans (inserted.trans List.perm_middle)

/-- Sorting loses nothing and adds nothing, whatever precedence is. -/
theorem stable_sort_perm (precedes : α → α → Bool) (items : List α) :
    (stableSort precedes items).Perm items := by
  have folded := fold_falling_perm precedes items []
  rw [List.append_nil] at folded
  exact (List.reverse_perm _).trans folded

/-! ## The sort of a standard library -/

/-- A comparison is a total preorder among some items. -/
def IsTotalAmong (items : List α) (compare : α → α → Ordering) : Prop :=
  Std.TransCmp fun a b : {item // item ∈ items} => compare a b

/-- A sort as a standard library has it. Items that the comparison orders totally come in its order,
those that compare equal as they stood. With another comparison the sort may stop, and if it does
not, the items come in some order. -/
structure Sorter where
  sort : {α : Type} → (α → α → Ordering) → List α → Option (List α)
  sort_total : ∀ {α : Type} {compare : α → α → Ordering} {items : List α},
    IsTotalAmong items compare →
      sort compare items = some (stableSort (fun a b => compare a b == .lt) items)
  sort_perm : ∀ {α : Type} {compare : α → α → Ordering} {items sorted : List α},
    sort compare items = some sorted → sorted.Perm items

/-- The sort by insertion, which never stops: each item moves up past those that it precedes and no
further, whatever the comparison is. -/
def Sorter.byInsertion : Sorter where
  sort compare items := some (stableSort (fun a b => compare a b == .lt) items)
  sort_total _ := rfl
  sort_perm := by
    rintro _ compare items _ ⟨⟩
    exact stable_sort_perm _ items

/-! ## The order of documents -/

/-- The value that a field sorts by: of a list the first item that is not null, of a record
nothing. -/
def sortable? : Option Value → Option Value
  | some (.array items) => items.find? fun item => !item.isNull
  | some (.object _) => none
  | found => found

/-- The rank of the kind of a value: booleans, then numbers, then all others. -/
def rankOfKind : Value → Nat
  | .bool _ => 0
  | .number _ => 1
  | _ => 2

/-- The order of two values of any kind. -/
def orderByKind (a b : Value) : Ordering :=
  if rankOfKind a < rankOfKind b then .lt
  else if rankOfKind b < rankOfKind a then .gt
  else (a.order? b).getD .eq

/-- An order in a direction. -/
def Direction.apply : Direction → Ordering → Ordering
  | .ascending, order => order
  | .descending, order => order.swap

namespace SortKey

/-- The order of two documents by one key. -/
def order (key : SortKey) (a b : Document) : Ordering :=
  match sortable? (a.get? key.field), sortable? (b.get? key.field) with
  | none, none => .eq
  | none, some _ => .gt
  | some _, none => .lt
  | some x, some y => key.direction.apply (orderByKind x y)

/-- The order of two documents by the first key that tells them apart. -/
def orderAll : List SortKey → Document → Document → Ordering
  | [], _, _ => .eq
  | key :: rest, a, b =>
    match key.order a b with
    | .eq => orderAll rest a b
    | order => order

/-- Documents sorted by some keys, if the sort does not stop. Without keys nothing is sorted. -/
def sortDocuments (sorter : Sorter) (keys : List SortKey) (documents : List Document) :
    Option (List Document) :=
  if keys.isEmpty then some documents else sorter.sort (orderAll keys) documents

theorem sort_by_insertion_some (keys : List SortKey) (documents : List Document) :
    (sortDocuments .byInsertion keys documents).isSome := by
  rw [sortDocuments]
  split <;> rfl

end SortKey

end SearchIndex
