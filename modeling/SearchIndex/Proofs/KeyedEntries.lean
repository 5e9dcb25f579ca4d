import Mathlib.Data.List.Induction
import Mathlib.Data.List.Sort
import Mathlib.Data.String.Basic
import SearchIndex.Document
import SearchIndex.KeyMap
import SearchIndex.Proofs.NumberOrder

/-! Lists of entries as maps from their keys. A record is known up to the order of its entries by
what it has under each key. A map that is held in the order of its keys is made up again from its
entries in any order. -/
namespace SearchIndex

namespace Fields

section
variable {fields : Fields}

theorem get_none_iff : get? fields key = none ↔ key ∉ fields.keys := by
  induction fields with
  | nil => simp [get?, keys]
  | cons entry rest ih =>
    obtain ⟨first, value⟩ := entry
    by_cases same : first = key
    · simp [get?, keys, same]
    · simp only [get?, if_neg same, ih]
      simp [keys, Ne.symm same]

theorem get_some_iff (unique : fields.keys.Nodup) :
    get? fields key = some value ↔ (key, value) ∈ fields := by
  induction fields with
  | nil => simp [get?]
  | cons entry rest ih =>
    obtain ⟨first, found⟩ := entry
    obtain ⟨new, unique⟩ := List.nodup_cons.mp unique
    by_cases same : first = key
    · subst same
      have behind : (first, value) ∉ rest := fun member =>
        new (List.mem_map.mpr ⟨_, member, rfl⟩)
      simp [get?, behind, eq_comm]
    · simp [get?, same, ih unique, Ne.symm same]

/-- Records that have the same under each key are the same up to the order of their entries. -/
theorem perm_of_get {other : Fields} (unique : fields.keys.Nodup) (unique' : other.keys.Nodup)
    (same : ∀ key, get? fields key = get? other key) : fields.Perm other := by
  have listed := List.Nodup.of_map _ unique
  refine (List.perm_ext_iff_of_nodup listed (List.Nodup.of_map _ unique')).mpr ?_
  rintro ⟨key, value⟩
  rw [← get_some_iff unique, ← get_some_iff unique', same]

theorem get_of_perm {other : Fields} (unique : fields.keys.Nodup) (order : fields.Perm other)
    (key : String) : get? other key = get? fields key := by
  have unique' : other.keys.Nodup := (order.map Prod.fst).nodup_iff.mp unique
  refine Option.ext fun value => ?_
  rw [get_some_iff unique, get_some_iff unique', order.mem_iff]

/-- The entries under some keys hold what the record has under them. -/
theorem get_filter (fields : Fields) (kept : String → Bool) (key : String) :
    get? (fields.filter fun entry => kept entry.1) key =
      if kept key then get? fields key else none := by
  induction fields with
  | nil => simp [get?]
  | cons entry rest ih =>
    obtain ⟨other, value⟩ := entry
    rw [List.filter_cons]
    by_cases same : other = key
    · subst same
      by_cases keeps : kept other = true
      · simp [get?, keeps]
      · simp [keeps, ih]
    · split
      · simp [get?, same, ih]
      · simp [get?, same, ih]

theorem insert_keys (fields : Fields) (key : String) (value : Value) :
    (insert fields key value).keys =
      if key ∈ fields.keys then fields.keys else fields.keys ++ [key] := by
  induction fields with
  | nil => rfl
  | cons entry rest ih =>
    obtain ⟨first, found⟩ := entry
    by_cases same : first = key
    · simp [insert, keys, same]
    · have step : keys ((first, found) :: insert rest key value) =
          first :: keys (insert rest key value) := rfl
      have whole : keys ((first, found) :: rest) = first :: keys rest := rfl
      rw [insert, if_neg same, step, ih, whole]
      by_cases behind : key ∈ keys rest
      · rw [if_pos behind, if_pos (List.mem_cons_of_mem _ behind)]
      · rw [if_neg behind, if_neg (List.not_mem_cons_of_ne_of_not_mem (Ne.symm same) behind)]
        rfl

/-- What is written to a key last stays under it. -/
theorem insert_insert (fields : Fields) (key : String) (first second : Value) :
    insert (insert fields key first) key second = insert fields key second := by
  induction fields with
  | nil => simp [insert]
  | cons entry rest ih =>
    obtain ⟨other, found⟩ := entry
    by_cases same : other = key
    · simp [insert, same]
    · simp only [insert, if_neg same, ih]

/-- To write what a key has already changes nothing. -/
theorem insert_of_get (found : get? fields key = some value) :
    insert fields key value = fields := by
  induction fields with
  | nil => cases found
  | cons entry rest ih =>
    obtain ⟨other, old⟩ := entry
    by_cases same : other = key
    · rw [get?, if_pos same] at found
      rw [insert, if_pos same, ← same, Option.some.inj found]
    · rw [get?, if_neg same] at found
      rw [insert, if_neg same, ih found]

theorem insert_unique (unique : fields.keys.Nodup) (key : String) (value : Value) :
    (insert fields key value).keys.Nodup := by
  rw [insert_keys]
  split
  · exact unique
  · rename_i new
    exact List.concat_eq_append ▸ unique.concat new

/-- Taking a key out leaves the other entries, with the last one in its place. -/
theorem remove_perm (unique : fields.keys.Nodup) (key : String) :
    (remove fields key).Perm (fields.filter fun entry => entry.1 ≠ key) := by
  induction fields with
  | nil => exact .refl _
  | cons entry rest ih =>
    obtain ⟨first, value⟩ := entry
    obtain ⟨new, unique⟩ := List.nodup_cons.mp unique
    by_cases same : first = key
    · subst same
      have kept : (rest.filter fun entry => entry.1 ≠ first) = rest := by
        refine List.filter_eq_self.mpr fun entry member => ?_
        exact decide_eq_true fun equal => new (List.mem_map.mpr ⟨entry, member, equal⟩)
      rw [remove, if_pos rfl, List.filter_cons_of_neg (by simp), kept]
      cases ends : rest.getLast? with
      | none => rw [List.getLast?_eq_none_iff.mp ends]
      | some last =>
        obtain ⟨front, rfl⟩ := List.getLast?_eq_some_iff.mp ends
        rw [List.dropLast_concat]
        exact (List.perm_append_singleton last front).symm
    · rw [remove, if_neg same, List.filter_cons_of_pos (by simpa using same)]
      exact (ih unique).cons _

theorem remove_unique (unique : fields.keys.Nodup) (key : String) :
    (remove fields key).keys.Nodup := by
  have left : (keys (fields.filter fun entry => entry.1 ≠ key)).Nodup :=
    unique.sublist (List.filter_sublist.map _)
  exact ((remove_perm unique key).map _).nodup_iff.mpr left

theorem get_remove (unique : fields.keys.Nodup) (key other : String) :
    get? (remove fields key) other = if other = key then none else get? fields other := by
  refine Option.ext fun value => ?_
  rw [get_some_iff (remove_unique unique key), (remove_perm unique key).mem_iff, List.mem_filter]
  by_cases same : other = key
  · simp [same]
  · simp [same, get_some_iff unique]

theorem remove_all_unique (unique : fields.keys.Nodup) (names : List String) :
    (names.foldl remove fields).keys.Nodup := by
  induction names generalizing fields with
  | nil => exact unique
  | cons name rest ih => exact ih (remove_unique unique name)

theorem get_remove_all (unique : fields.keys.Nodup) (names : List String) (other : String) :
    get? (names.foldl remove fields) other = if other ∈ names then none else get? fields other := by
  induction names generalizing fields with
  | nil => rfl
  | cons name rest ih =>
    rw [List.foldl_cons, ih (remove_unique unique name), get_remove unique]
    by_cases here : other = name
    · simp [here]
    · simp [here]

end

end Fields

namespace KeyMap

/-- The entries stand in rising order of their keys. -/
def IsSorted (map : KeyMap α) : Prop := map.Pairwise fun a b => a.1 < b.1

instance (map : KeyMap α) : Decidable map.IsSorted :=
  inferInstanceAs (Decidable (map.Pairwise fun a b => a.1 < b.1))

theorem alter_cons (f : Option α → α) (key : String) (entry : String × α) (rest : KeyMap α) :
    alter f key (entry :: rest) = if key < entry.1 then (key, f none) :: entry :: rest
      else if key = entry.1 then (key, f (some entry.2)) :: rest
      else entry :: alter f key rest := by
  obtain ⟨other, old⟩ := entry
  rw [alter]
  simp only [String.lt_iff_toList_lt]
  rcases order_chars_cases key.toList other.toList with
    ⟨found, less⟩ | ⟨found, same⟩ | ⟨found, more⟩
  · rw [found, if_pos less]
  · obtain rfl := String.toList_injective same
    rw [found, if_neg (lt_irrefl _), if_pos rfl]
  · have different : key ≠ other := by
      rintro rfl
      exact lt_irrefl _ more
    rw [found, if_neg more.asymm, if_neg different]

theorem put_cons (key : String) (value : α) (entry : String × α) (rest : KeyMap α) :
    put key value (entry :: rest) = if key < entry.1 then (key, value) :: entry :: rest
      else if key = entry.1 then (key, value) :: rest else entry :: put key value rest :=
  alter_cons _ key entry rest

theorem get_some_iff {map : KeyMap α} (sorted : map.IsSorted) :
    get? map key = some value ↔ (key, value) ∈ map := by
  induction map with
  | nil => simp [get?]
  | cons entry rest ih =>
    obtain ⟨first, found⟩ := entry
    obtain ⟨ahead, sorted_rest⟩ := List.pairwise_cons.mp sorted
    by_cases same : first = key
    · subst same
      have behind : (first, value) ∉ rest := fun member => lt_irrefl first (ahead _ member)
      simp [get?, behind, eq_comm]
    · simp [get?, same, ih sorted_rest, Ne.symm same]

/-- A new key takes its place among the others. -/
theorem put_new {map : KeyMap α} (sorted : map.IsSorted) (new : key ∉ map.map Prod.fst)
    (value : α) :
    (put key value map).IsSorted ∧ (put key value map).Perm ((key, value) :: map) := by
  induction map with
  | nil => exact ⟨List.pairwise_singleton _ _, .refl _⟩
  | cons entry rest ih =>
    obtain ⟨ahead, sorted_rest⟩ := List.pairwise_cons.mp sorted
    rw [List.map_cons, List.mem_cons, not_or] at new
    rw [put_cons, if_neg new.1]
    split
    · rename_i less
      refine ⟨List.pairwise_cons.mpr ⟨?_, sorted⟩, .refl _⟩
      exact List.forall_mem_cons.mpr ⟨less, fun other member => less.trans (ahead other member)⟩
    · rename_i behind
      obtain ⟨sorted', perm⟩ := ih sorted_rest new.2
      have more : entry.1 < key := lt_of_le_of_ne (not_lt.mp behind) (Ne.symm new.1)
      refine ⟨List.pairwise_cons.mpr ⟨fun other member => ?_, sorted'⟩,
        (perm.cons entry).trans (.swap _ _ _)⟩
      rcases List.mem_cons.mp (perm.mem_iff.mp member) with rfl | member
      · exact more
      · exact ahead other member

/-- A map is made up again from its entries in any order. -/
theorem of_entries_of_perm {map : KeyMap α} (sorted : map.IsSorted)
    (perm : List.Perm entries map) : ofEntries entries = map := by
  have unique : (entries.map Prod.fst).Nodup := by
    refine (perm.map _).nodup_iff.mpr (List.pairwise_map.mpr ?_)
    exact sorted.imp fun less => ne_of_lt less
  have made : (ofEntries entries).IsSorted ∧ (ofEntries entries).Perm entries := by
    clear perm
    -- From the end, since the last entry is put into what the others have made.
    induction entries using List.reverseRecOn with
    | nil => exact ⟨.nil, .refl _⟩
    | append_singleton entries entry ih =>
      rw [List.map_append, List.map_singleton, List.nodup_append] at unique
      obtain ⟨sorted, perm⟩ := ih unique.1
      have new : entry.1 ∉ (ofEntries entries).map Prod.fst := by
        rw [(perm.map _).mem_iff]
        exact fun member => unique.2.2 _ member _ (List.mem_singleton_self _) rfl
      obtain ⟨sorted', perm'⟩ := put_new sorted new entry.2
      rw [ofEntries, List.foldl_concat]
      exact ⟨sorted', (perm'.trans (perm.cons entry)).trans
        (List.perm_append_singleton entry entries).symm⟩
  exact List.Perm.eq_of_pairwise (fun a b _ _ less more => absurd more less.asymm) made.1 sorted
    (made.2.trans perm)

end KeyMap

end SearchIndex
