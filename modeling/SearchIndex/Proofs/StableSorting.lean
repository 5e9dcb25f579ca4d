import Mathlib.Data.List.Induction
import SearchIndex.Search.SortOrder

/-! What sorting brings about. Where precedence is an order among the items, no item stands behind
one that it precedes, and items of which neither precedes the other stand as they did. Standard
libraries all sort like that where the comparison is a total preorder, and elsewhere each may stop.
-/
namespace SearchIndex

/-- Sorting puts the last item among the others sorted. -/
theorem stable_sort_concat (precedes : α → α → Bool) (items : List α) (item : α) :
    stableSort precedes (items ++ [item]) =
      (insertFalling precedes item (stableSort precedes items).reverse).reverse := by
  simp [stableSort]

/-- Where nothing precedes anything, sorting leaves all as it is. -/
theorem stable_sort_of_none (items : List α) : stableSort (fun _ _ => false) items = items := by
  induction items using List.reverseRecOn with
  | nil => rfl
  | append_singleton items item ih =>
    have in_front (falling : List α) :
        insertFalling (fun _ _ => false) item falling = item :: falling := by
      cases falling <;> rfl
    rw [stable_sort_concat, in_front, List.reverse_cons, List.reverse_reverse, ih]

/-! ## Items seen through a function -/

theorem insert_falling_map (precedes : α → α → Bool) (f : β → α) (item : β) (falling : List β) :
    insertFalling precedes (f item) (falling.map f) =
      (insertFalling (fun a b => precedes (f a) (f b)) item falling).map f := by
  induction falling with
  | nil => rfl
  | cons other rest ih =>
    simp only [List.map_cons, insertFalling, ih]
    split <;> rfl

/-- Sorting looks at items only through precedence. -/
theorem stable_sort_map (precedes : α → α → Bool) (f : β → α) (items : List β) :
    stableSort precedes (items.map f) =
      (stableSort (fun a b => precedes (f a) (f b)) items).map f := by
  induction items using List.reverseRecOn with
  | nil => rfl
  | append_singleton items item ih =>
    rw [List.map_append, List.map_singleton, stable_sort_concat, stable_sort_concat, ih,
      ← List.map_reverse, insert_falling_map, List.map_reverse]

/-! ## Order -/

/-- Among some items, precedence is a strict order, and to precede nothing of what stands ahead is
passed on: an item that does not precede a second one does not precede what that one does not. -/
structure OrdersAmong (items : List α) (precedes : α → α → Bool) : Prop where
  asymm : ∀ a ∈ items, ∀ b ∈ items, precedes a b = true → precedes b a = false
  trans : ∀ a ∈ items, ∀ b ∈ items, ∀ c ∈ items,
    precedes b a = false → precedes c b = false → precedes c a = false

theorem OrdersAmong.subset (order : OrdersAmong items precedes) (inside : some_items ⊆ items) :
    OrdersAmong some_items precedes where
  asymm a in_a b in_b := order.asymm a (inside in_a) b (inside in_b)
  trans a in_a b in_b c in_c := order.trans a (inside in_a) b (inside in_b) c (inside in_c)

/-- The first of two items may stand ahead of the second: it precedes that one, or neither precedes
the other and it stood ahead before. -/
def StandsAhead (precedes : α → α → Bool) (before : α → α → Prop) (a b : α) : Prop :=
  precedes b a = false ∧ (precedes a b = true ∨ before a b)

private theorem insert_falling_pairwise {before : α → α → Prop}
    (order : OrdersAmong (item :: falling) precedes)
    (sorted : falling.Pairwise fun later earlier => StandsAhead precedes before earlier later)
    (last : ∀ other ∈ falling, before other item) :
    (insertFalling precedes item falling).Pairwise fun later earlier =>
      StandsAhead precedes before earlier later := by
  induction falling with
  | nil => exact List.pairwise_singleton _ _
  | cons other rest ih =>
    obtain ⟨ahead, sorted_rest⟩ := List.pairwise_cons.mp sorted
    obtain ⟨here, later⟩ := List.forall_mem_cons.mp last
    rw [insertFalling]
    split
    · rename_i passes
      refine List.pairwise_cons.mpr ⟨fun earlier member => ?_,
        ih (order.subset (List.cons_subset_cons _ (List.subset_cons_self _ _))) sorted_rest later⟩
      rcases List.mem_cons.mp ((insert_falling_perm precedes item rest).mem_iff.mp member) with
        rfl | member
      · exact ⟨order.asymm _ (by simp) _ (by simp) passes, .inl passes⟩
      · exact ahead earlier member
    · rename_i stops
      have stops : precedes item other = false := by simpa using stops
      refine List.pairwise_cons.mpr ⟨fun earlier member => ?_, sorted⟩
      rcases List.mem_cons.mp member with rfl | member
      · exact ⟨stops, .inr here⟩
      · have behind := (ahead earlier member).1
        exact ⟨order.trans earlier (by simp [member]) other (by simp) item (by simp) behind stops,
          .inr (later earlier member)⟩

/-- Sorting is stable: where precedence is an order, each item of the sorted list stands ahead of
all behind it by precedence or, where neither precedes the other, because it did so before. -/
theorem stable_sort_pairwise {before : α → α → Prop} (order : OrdersAmong items precedes)
    (given : items.Pairwise before) :
    (stableSort precedes items).Pairwise (StandsAhead precedes before) := by
  induction items using List.reverseRecOn with
  | nil => exact List.Pairwise.nil
  | append_singleton items item ih =>
    obtain ⟨given_first, -, across⟩ := List.pairwise_append.mp given
    have placed : ∀ other, other ∈ (stableSort precedes items).reverse ↔ other ∈ items := by
      intro other
      rw [List.mem_reverse, (stable_sort_perm precedes items).mem_iff]
    have all : item :: (stableSort precedes items).reverse ⊆ items ++ [item] := by
      intro other member
      simpa [placed, or_comm] using member
    rw [stable_sort_concat, List.pairwise_reverse]
    refine insert_falling_pairwise (order.subset all) ?_ fun other member =>
      across other ((placed other).mp member) item (List.mem_singleton_self item)
    rw [List.pairwise_reverse]
    exact ih (order.subset (List.subset_append_left items [item])) given_first

/-! ## The sorts of standard libraries -/

theorem IsTotalAmong.subset {compare : α → α → Ordering} (total : IsTotalAmong items compare)
    (inside : some_items ⊆ items) : IsTotalAmong some_items compare := by
  have among (a : {item // item ∈ some_items}) : a.val ∈ items := inside a.property
  have transitive (a b c : {item // item ∈ some_items}) :
      (compare a b).isLE → (compare b c).isLE → (compare a c).isLE :=
    total.isLE_trans (a := ⟨a, among a⟩) (b := ⟨b, among b⟩) (c := ⟨c, among c⟩)
  exact {
    eq_swap := fun {a b} => total.eq_swap (a := ⟨a, among a⟩) (b := ⟨b, among b⟩)
    isLE_trans := transitive _ _ _ }

/-- A list without items is ordered totally by every comparison. -/
theorem is_total_among_nil (compare : α → α → Ordering) : IsTotalAmong [] compare where
  eq_swap {a} := absurd a.property List.not_mem_nil
  isLE_trans {a} := absurd a.property List.not_mem_nil

open Classical in
/-- The sort of a library that stops whenever it may. -/
noncomputable def Sorter.strictest : Sorter where
  sort compare items :=
    if IsTotalAmong items compare then some (stableSort (fun a b => compare a b == .lt) items)
    else none
  sort_total total := if_pos total
  sort_perm sorted := by
    split at sorted
    · cases sorted
      exact stable_sort_perm _ _
    · cases sorted

/-- Some library's sort stops exactly where the comparison is no total preorder. -/
theorem may_stop_iff {compare : α → α → Ordering} {items : List α} :
    (∃ sorter : Sorter, sorter.sort compare items = none) ↔ ¬ IsTotalAmong items compare := by
  constructor
  · rintro ⟨sorter, stops⟩ total
    cases stops.symm.trans (sorter.sort_total total)
  · exact fun not_total => ⟨.strictest, if_neg not_total⟩

namespace SortKey

/-- Documents that the keys order totally are sorted by every library alike. -/
theorem sort_documents_total {keys : List SortKey} {documents : List Document}
    (total : IsTotalAmong documents (orderAll keys)) (sorter : Sorter) :
    sortDocuments sorter keys documents =
      some (stableSort (fun a b => orderAll keys a b == .lt) documents) := by
  rw [sortDocuments]
  split
  · rename_i unsorted
    rw [List.isEmpty_iff.mp unsorted]
    exact congrArg some (stable_sort_of_none documents).symm
  · exact sorter.sort_total total

theorem sort_documents_nil (sorter : Sorter) (keys : List SortKey) :
    sortDocuments sorter keys [] = some [] :=
  sort_documents_total (is_total_among_nil _) sorter

end SortKey

end SearchIndex
