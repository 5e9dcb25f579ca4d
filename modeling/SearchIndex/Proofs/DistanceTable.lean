import Mathlib.Data.List.Induction
import Mathlib.Order.Bounds.Defs
import SearchIndex.Proofs.TypingErrors
import SearchIndex.Text.Distance

/-! The table of distances holds, for the beginnings of two words, the least number of typing errors
between them. Each entry follows from those above and to its left; no entry is more than any strokes
need, since a stroke never adds more than its errors, and none is less, since each entry comes from
one that is smaller by the errors of some stroke. -/
namespace SearchIndex.Distance

/-! ## Last places -/

/-- The number of the next place and the last place of `c`, after one more character. -/
def placesAfter (c : Char) (places : Nat × Nat) (d : Char) : Nat × Nat :=
  (places.1 + 1, if d = c then places.1 else places.2)

theorem places_eq (c : Char) (word : List Char) :
    word.foldl (placesAfter c) (1, 0) = (word.length + 1, lastPlace c word) := by
  refine Prod.ext ?_ rfl
  induction word using List.reverseRecOn with
  | nil => rfl
  | append_singleton word d ih =>
    rw [List.foldl_append, List.length_append, List.length_singleton]
    exact congrArg (· + 1) ih

theorem last_place_concat (c : Char) (word : List Char) (d : Char) :
    lastPlace c (word ++ [d]) = if d = c then word.length + 1 else lastPlace c word := by
  have last := congrArg Prod.snd (places_eq c (word ++ [d]))
  rw [List.foldl_append, places_eq] at last
  exact last.symm

theorem last_place_le (c : Char) (word : List Char) : lastPlace c word ≤ word.length := by
  induction word using List.reverseRecOn with
  | nil => exact le_rfl
  | append_singleton word d ih =>
    rw [last_place_concat, List.length_append, List.length_singleton]
    split <;> omega

/-- No occurrence stands behind the last place. -/
theorem le_last_place (front rest : List Char) (c : Char) :
    front.length + 1 ≤ lastPlace c (front ++ c :: rest) := by
  induction rest using List.reverseRecOn with
  | nil => rw [last_place_concat, if_pos rfl]
  | append_singleton rest d ih =>
    rw [← List.cons_append, ← List.append_assoc, last_place_concat]
    split
    · simp
    · exact ih

/-- At the last place, if there is one, the character stands. -/
theorem last_place_split {word : List Char} (occurs : lastPlace c word ≠ 0) :
    ∃ front rest, word = front ++ c :: rest ∧ lastPlace c word = front.length + 1 := by
  induction word using List.reverseRecOn with
  | nil => exact absurd rfl occurs
  | append_singleton word d ih =>
    rw [last_place_concat] at occurs ⊢
    split at occurs
    · rename_i same
      exact ⟨word, [], by rw [same], by rw [if_pos same]⟩
    · rename_i other
      obtain ⟨front, rest, rfl, place⟩ := ih occurs
      exact ⟨front, rest ++ [d], by simp, by rw [if_neg other, place]⟩

/-! ## Rows and the table -/

/-- A row with the places for its next entry, after one more character of the second word. -/
def rowAfter (table : Table) (i : Nat) (before : List Char) (c : Char)
    (row : Array Nat × Nat × Nat) (d : Char) : Array Nat × Nat × Nat :=
  (row.1.push (nextEntry table row.1 i row.2.1 c d (lastPlace d before) row.2.2),
    placesAfter c row.2 d)

theorem rows_eq (table : Table) (i : Nat) (before : List Char) (c : Char) (second : List Char) :
    second.foldl (rowAfter table i before c) (#[i], 1, 0) =
      (nextRow table i before c second, second.length + 1, lastPlace c second) := by
  have places : (second.foldl (rowAfter table i before c) (#[i], 1, 0)).2 =
      second.foldl (placesAfter c) (1, 0) := (List.foldl_hom Prod.snd fun _ _ => rfl).symm
  rw [places_eq] at places
  exact Prod.ext rfl places

theorem next_row_concat (table : Table) (i : Nat) (before : List Char) (c : Char)
    (second : List Char) (d : Char) :
    nextRow table i before c (second ++ [d]) =
      (nextRow table i before c second).push (nextEntry table (nextRow table i before c second) i
        (second.length + 1) c d (lastPlace d before) (lastPlace c second)) := by
  have row := congrArg Prod.fst (rows_eq table i before c (second ++ [d]))
  rw [List.foldl_append, rows_eq] at row
  exact row.symm

/-- A table with the number and the word in front of its next row, after one more character of the
first word. -/
def tableAfter (second : List Char) (table : Table × Nat × List Char) (c : Char) :
    Table × Nat × List Char :=
  (table.1.push (nextRow table.1 table.2.1 table.2.2 c second), table.2.1 + 1, table.2.2 ++ [c])

/-- The table for two words. -/
def tableOf (first second : List Char) : Table :=
  (first.foldl (tableAfter second) (#[Array.range (second.length + 1)], 1, [])).1

theorem between_eq (first second : List Char) :
    between first second = entry (tableOf first second) first.length second.length := rfl

theorem tables_eq (first second : List Char) :
    first.foldl (tableAfter second) (#[Array.range (second.length + 1)], 1, []) =
      (tableOf first second, first.length + 1, first) := by
  refine Prod.ext rfl ?_
  induction first using List.reverseRecOn with
  | nil => rfl
  | append_singleton first c ih =>
    rw [List.foldl_append, List.length_append, List.length_singleton, List.foldl_cons,
      List.foldl_nil, tableAfter, ih]

theorem table_concat (first : List Char) (c : Char) (second : List Char) :
    tableOf (first ++ [c]) second = (tableOf first second).push
      (nextRow (tableOf first second) (first.length + 1) first c second) := by
  have table := congrArg Prod.fst (tables_eq (first ++ [c]) second)
  rw [List.foldl_append, tables_eq] at table
  exact table.symm

theorem next_row_size (table : Table) (i : Nat) (before : List Char) (c : Char)
    (second : List Char) : (nextRow table i before c second).size = second.length + 1 := by
  induction second using List.reverseRecOn with
  | nil => rfl
  | append_singleton second d ih => rw [next_row_concat, Array.size_push, ih]; simp

theorem table_size (first second : List Char) : (tableOf first second).size = first.length + 1 := by
  induction first using List.reverseRecOn with
  | nil => rfl
  | append_singleton first c ih => rw [table_concat, Array.size_push, ih]; simp

private theorem getD_push_lt {entries : Array α} (inside : i < entries.size) (last default : α) :
    (entries.push last).getD i default = entries.getD i default := by
  simp [Array.getD_eq_getD_getElem?, Array.getElem?_push, inside.ne, inside]

private theorem getD_push_size {entries : Array α} (ends : entries.size = i) (last default : α) :
    (entries.push last).getD i default = last := by
  simp [Array.getD_eq_getD_getElem?, ← ends]

/-- What a row holds in front of a place does not depend on the characters behind it. -/
theorem next_row_append (table : Table) (i : Nat) (before : List Char) (c : Char)
    (second rest : List Char) (inside : j ≤ second.length) :
    (nextRow table i before c (second ++ rest)).getD j 0 =
      (nextRow table i before c second).getD j 0 := by
  induction rest using List.reverseRecOn with
  | nil => rw [List.append_nil]
  | append_singleton rest d ih =>
    have in_front : j < (nextRow table i before c (second ++ rest)).size := by
      rw [next_row_size, List.length_append]
      omega
    rw [← List.append_assoc, next_row_concat, getD_push_lt in_front, ih]

/-- What a table holds in a row does not depend on the characters behind it. -/
theorem table_append (first rest second : List Char) (inside : i ≤ first.length) :
    entry (tableOf (first ++ rest) second) i = entry (tableOf first second) i := by
  induction rest using List.reverseRecOn with
  | nil => rw [List.append_nil]
  | append_singleton rest c ih =>
    have in_front : i < (tableOf (first ++ rest) second).size := by
      rw [table_size, List.length_append]
      omega
    funext j
    rw [← ih, ← List.append_assoc, table_concat, entry, entry, getD_push_lt in_front]

/-! ## Entries -/

section
variable {first second : List Char}

theorem entry_first (inside : j ≤ second.length) : entry (tableOf first second) 0 j = j := by
  have start := table_append [] first second (Nat.zero_le 0)
  rw [List.nil_append] at start
  rw [start]
  have small : j < second.length + 1 := by omega
  simp [entry, tableOf, Array.getD_eq_getD_getElem?, small]

/-- The row of a character is made from the rows above it. -/
theorem entry_row (front : List Char) (c : Char) (rest second : List Char) :
    entry (tableOf (front ++ c :: rest) second) (front.length + 1) =
      fun j => (nextRow (tableOf front second) (front.length + 1) front c second).getD j 0 := by
  have split : front ++ c :: rest = (front ++ [c]) ++ rest := by simp
  rw [split, table_append _ _ _ (by simp), table_concat]
  funext j
  rw [entry, getD_push_size (table_size front second)]

theorem exists_cut {word : List Char} (inside : i < word.length) :
    ∃ front c rest, word = front ++ c :: rest ∧ front.length = i :=
  ⟨word.take i, word[i], word.drop (i + 1), by simp, by simp; omega⟩

theorem entry_left (inside : i ≤ first.length) : entry (tableOf first second) i 0 = i := by
  cases i with
  | zero => exact entry_first (Nat.zero_le _)
  | succ i =>
    obtain ⟨front, c, rest, rfl, rfl⟩ := exists_cut inside
    rw [entry_row]
    exact next_row_append (tableOf front second) (front.length + 1) front c [] second (Nat.zero_le 0)

/-- An entry behind two characters is the least of what comes from its neighbours and, where the
second character occurs in front of the first and the first in front of the second, from an
exchange of the two. -/
theorem entry_next (front rest front' rest' : List Char) (c d : Char) :
    let errors := entry (tableOf (front ++ c :: rest) (front' ++ d :: rest'))
    let least := min (min (errors front.length front'.length + if c = d then 0 else 1)
      (errors front.length (front'.length + 1) + 1)) (errors (front.length + 1) front'.length + 1)
    errors (front.length + 1) (front'.length + 1) =
      if lastPlace d front = 0 ∨ lastPlace c front' = 0 then least
      else min least (errors (lastPlace d front - 1) (lastPlace c front' - 1) +
        (front.length - lastPlace d front) + 1 + (front'.length - lastPlace c front')) := by
  intro errors least
  let second := front' ++ d :: rest'
  let above := tableOf front second
  let row := nextRow above (front.length + 1) front c
  have rows_above (i : Nat) (inside : i ≤ front.length) : errors i = entry above i :=
    table_append front (c :: rest) second inside
  have row_left : errors (front.length + 1) front'.length = (row front').getD front'.length 0 := by
    simp only [errors, entry_row]
    exact next_row_append above (front.length + 1) front c front' (d :: rest') le_rfl
  have row_next : errors (front.length + 1) (front'.length + 1) =
      nextEntry above (row front') (front.length + 1) (front'.length + 1) c d (lastPlace d front)
        (lastPlace c front') := by
    have split : front' ++ d :: rest' = (front' ++ [d]) ++ rest' := by simp
    have size : (row front').size = front'.length + 1 := next_row_size ..
    have in_front : front'.length + 1 ≤ (front' ++ [d]).length := by simp
    have short := next_row_append above (front.length + 1) front c (front' ++ [d]) rest' in_front
    rw [next_row_concat, getD_push_size size, ← split] at short
    simp only [errors, entry_row]
    exact short
  have last := last_place_le d front
  have between : front.length + 1 - lastPlace d front - 1 = front.length - lastPlace d front := by
    omega
  have between' : front'.length + 1 - lastPlace c front' - 1 =
      front'.length - lastPlace c front' := by omega
  rw [row_next, nextEntry]
  simp only [least, rows_above _ le_rfl, rows_above (lastPlace d front - 1) (by omega), row_left,
    Nat.add_sub_cancel, between, between', min_def]

/-- Where both characters occur in front of each other, an exchange bounds the entry. -/
theorem entry_exchanged (front rest front' rest' : List Char) {c d : Char}
    (occurs : 0 < lastPlace d front) (occurs' : 0 < lastPlace c front') :
    let errors := entry (tableOf (front ++ c :: rest) (front' ++ d :: rest'))
    errors (front.length + 1) (front'.length + 1) ≤
      errors (lastPlace d front - 1) (lastPlace c front' - 1) +
        (front.length - lastPlace d front) + 1 + (front'.length - lastPlace c front') := by
  have some_places : ¬ (lastPlace d front = 0 ∨ lastPlace c front' = 0) := by omega
  have next := entry_next front rest front' rest' c d
  dsimp only at next
  rw [if_neg some_places] at next
  exact next.le.trans (min_le_right _ _)

/-! ## No entry is too large -/

/-- A step down or to the right is one more error at most. -/
theorem entry_steps (first second : List Char) (i j : Nat) :
    (i < first.length → j ≤ second.length →
      entry (tableOf first second) (i + 1) j ≤ entry (tableOf first second) i j + 1) ∧
    (i ≤ first.length → j < second.length →
      entry (tableOf first second) i (j + 1) ≤ entry (tableOf first second) i j + 1) := by
  constructor
  · intro inside inside'
    cases j with
    | zero => rw [entry_left inside, entry_left inside.le]
    | succ j =>
      obtain ⟨front, c, rest, rfl, rfl⟩ := exists_cut inside
      obtain ⟨front', d, rest', rfl, rfl⟩ := exists_cut inside'
      rw [entry_next]
      split <;> omega
  · intro inside inside'
    cases i with
    | zero => rw [entry_first inside', entry_first inside'.le]
    | succ i =>
      obtain ⟨front, c, rest, rfl, rfl⟩ := exists_cut inside
      obtain ⟨front', d, rest', rfl, rfl⟩ := exists_cut inside'
      rw [entry_next]
      split <;> omega

/-- Entries grow by no more than the way between them. -/
theorem entry_further (first second : List Char) (i j m n : Nat) (inside : i + m ≤ first.length)
    (inside' : j + n ≤ second.length) :
    entry (tableOf first second) (i + m) (j + n) ≤ entry (tableOf first second) i j + m + n := by
  induction n with
  | zero =>
    induction m with
    | zero => exact le_rfl
    | succ m ih =>
      have here := ih (by omega)
      have next := (entry_steps first second (i + m) j).1 inside inside'
      simp only [Nat.add_zero, ← Nat.add_assoc] at here next ⊢
      omega
  | succ n ih =>
    have here := ih (by omega)
    have next := (entry_steps first second (i + m) (j + n)).2 inside inside'
    simp only [← Nat.add_assoc] at here next ⊢
    omega

/-- The entry behind an exchange, with what stood and what stands between the two, is larger than the
entry in front of it by no more than their number and one. -/
theorem entry_exchange (front rest front' rest' lost put : List Char) (c d : Char) :
    let errors := entry (tableOf (front ++ (c :: (lost ++ [d]) ++ rest))
      (front' ++ (d :: (put ++ [c]) ++ rest')))
    errors (front ++ c :: (lost ++ [d])).length (front' ++ d :: (put ++ [c])).length ≤
      errors front.length front'.length + (lost.length + 1 + put.length) := by
  -- The last places before the exchanged characters may lie behind those of this exchange, but
  -- what is lost and put in between shrinks by as much as the way to them is longer.
  have place := le_last_place front lost c
  have place' := le_last_place front' put d
  have few := last_place_le c (front ++ c :: lost)
  have few' := last_place_le d (front' ++ d :: put)
  have next := entry_exchanged (front ++ c :: lost) rest (front' ++ d :: put) rest'
    (Nat.zero_lt_of_lt place) (Nat.zero_lt_of_lt place')
  generalize lastPlace c (front ++ c :: lost) = last at next place few
  generalize lastPlace d (front' ++ d :: put) = last' at next place' few'
  have covers : front ++ c :: lost ++ d :: rest = front ++ (c :: (lost ++ [d]) ++ rest) := by simp
  have typing : front' ++ d :: put ++ c :: rest' = front' ++ (d :: (put ++ [c]) ++ rest') := by
    simp
  rw [covers, typing] at next
  have further := entry_further (front ++ (c :: (lost ++ [d]) ++ rest))
    (front' ++ (d :: (put ++ [c]) ++ rest')) front.length front'.length
    (last - 1 - front.length) (last' - 1 - front'.length) (by simp_all; omega) (by simp_all; omega)
  rw [Nat.add_sub_of_le (by omega), Nat.add_sub_of_le (by omega)] at further
  have ends : (front ++ c :: (lost ++ [d])).length = (front ++ c :: lost).length + 1 := by simp; omega
  have ends' : (front' ++ d :: (put ++ [c])).length = (front' ++ d :: put).length + 1 := by
    simp; omega
  dsimp only
  rw [ends, ends']
  have size : (front ++ c :: lost).length = front.length + 1 + lost.length := by simp; omega
  have size' : (front' ++ d :: put).length = front'.length + 1 + put.length := by simp; omega
  omega

/-- The entry behind a stroke is larger by no more than the errors of the stroke. -/
theorem entry_stroke (stroke : Stroke) (front rest front' rest' : List Char) :
    let errors := entry (tableOf (front ++ (stroke.intended ++ rest))
      (front' ++ (stroke.typed ++ rest')))
    errors (front ++ stroke.intended).length (front' ++ stroke.typed).length ≤
      errors front.length front'.length + stroke.errors := by
  cases stroke with
  | kept c =>
    have next := entry_next front rest front' rest' c c
    simp only [Stroke.intended, Stroke.typed, Stroke.errors, List.length_append,
      List.length_singleton, List.singleton_append, next, ↓reduceIte]
    split <;> omega
  | replaced c d =>
    have next := entry_next front rest front' rest' c d
    simp only [Stroke.intended, Stroke.typed, Stroke.errors, List.length_append,
      List.length_singleton, List.singleton_append, next]
    split <;> split <;> omega
  | dropped c =>
    simpa [Stroke.intended, Stroke.typed, Stroke.errors] using
      (entry_steps (front ++ c :: rest) (front' ++ rest') front.length front'.length).1
        (by simp) (by simp)
  | added c =>
    simpa [Stroke.intended, Stroke.typed, Stroke.errors] using
      (entry_steps (front ++ rest) (front' ++ c :: rest') front.length front'.length).2
        (by simp) (by simp)
  | exchanged c d lost put => exact entry_exchange front rest front' rest' lost put c d

/-- No entry is more than the errors of strokes that lead to its place. -/
theorem entry_le (strokes : List Stroke) (rest rest' : List Char) :
    entry (tableOf (strokes.flatMap Stroke.intended ++ rest) (strokes.flatMap Stroke.typed ++ rest'))
        (strokes.flatMap Stroke.intended).length (strokes.flatMap Stroke.typed).length ≤
      (strokes.map Stroke.errors).sum := by
  induction strokes using List.reverseRecOn generalizing rest rest' with
  | nil => exact (entry_first (Nat.zero_le _)).le
  | append_singleton strokes stroke ih =>
    have here := ih (stroke.intended ++ rest) (stroke.typed ++ rest')
    have next := entry_stroke stroke (strokes.flatMap Stroke.intended) rest
      (strokes.flatMap Stroke.typed) rest'
    simp only [List.flatMap_append, List.flatMap_singleton, List.append_assoc, List.map_append,
      List.map_singleton, List.sum_append, List.sum_singleton]
    omega

/-! ## No entry is too small -/

/-- Strokes with as many errors as an entry tells lead to its place. -/
theorem entry_types (front rest front' rest' : List Char) :
    Types (entry (tableOf (front ++ rest) (front' ++ rest')) front.length front'.length)
      front front' := by
  -- An exchange reaches back to an entry further up and to the left, so the induction is on the
  -- lengths of both words together.
  induction size : front.length + front'.length using Nat.strong_induction_on
    generalizing front rest front' rest' with
  | _ size ih =>
  subst size
  rcases front.eq_nil_or_concat' with rfl | ⟨front, c, rfl⟩
  · rw [List.length_nil, entry_first (by simp)]
    exact types_adding front'
  · rcases front'.eq_nil_or_concat' with rfl | ⟨front', d, rfl⟩
    · rw [List.length_nil, entry_left (by simp)]
      exact types_dropping (front ++ [c])
    · have replacing := ih _ (by simp; omega) front (c :: rest) front' (d :: rest') rfl
      have dropping := ih _ (by simp) front (c :: rest) (front' ++ [d]) rest' rfl
      have adding := ih _ (by simp) (front ++ [c]) rest front' (d :: rest') rfl
      simp only [List.append_assoc, List.singleton_append, List.length_append, List.length_singleton]
        at dropping adding ⊢
      rw [entry_next]
      have replaced := replacing.append (Stroke.replaced c d).types
      have dropped := dropping.append (Stroke.dropped c).types
      have added := adding.append (Stroke.added d).types
      simp only [Stroke.intended, Stroke.typed, Stroke.errors, List.append_nil] at dropped added
      have kept_or_replaced : Types (entry (tableOf (front ++ c :: rest) (front' ++ d :: rest'))
          front.length front'.length + if c = d then 0 else 1) (front ++ [c]) (front' ++ [d]) := by
        split
        · rename_i same
          subst same
          exact replacing.append (Stroke.kept c).types
        · exact replaced
      have least := min_rec' (Types · (front ++ [c]) (front' ++ [d]))
        (min_rec' (Types · (front ++ [c]) (front' ++ [d])) kept_or_replaced dropped) added
      split
      · exact least
      · rename_i some_places
        obtain ⟨before, lost, rfl, place⟩ := last_place_split fun none => some_places (.inl none)
        obtain ⟨before', put, rfl, place'⟩ := last_place_split fun none => some_places (.inr none)
        have exchanging := ih _ (by simp; omega) before (d :: lost ++ c :: rest) before'
          (c :: put ++ d :: rest') rfl
        have exchanged := exchanging.append (Stroke.exchanged d c lost put).types
        refine min_rec' (Types · _ _) least ?_
        rw [place, place']
        refine Types.mono (by simpa [Stroke.intended, Stroke.typed] using exchanged) ?_
        simp [Stroke.errors]
        omega

/-- The distance between two words is the least number of slips that turn one into the other. -/
theorem between_least (first second : List Char) :
    IsLeast {count | Slips count first second} (between first second) := by
  have lower {count : Nat} (types : Types count first second) : between first second ≤ count := by
    obtain ⟨strokes, rfl, rfl, few⟩ := types
    have entries := entry_le strokes [] []
    rw [List.append_nil, List.append_nil] at entries
    rw [between_eq]
    exact entries.trans few
  have reached : Types (between first second) first second := by
    have types := entry_types first [] second []
    rwa [List.append_nil, List.append_nil, ← between_eq] at types
  obtain ⟨count, few, slips⟩ := slips_of_types reached
  refine ⟨?_, fun count slips => lower (types_of_slips slips)⟩
  rw [le_antisymm (lower (types_of_slips slips)) few]
  exact slips

end

end SearchIndex.Distance
