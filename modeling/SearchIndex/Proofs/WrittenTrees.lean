import SearchIndex.Proofs.CriteriaReading

/-! Which filter trees survive being written and read. A part that is null counts as absent, so a
comparison with null is written in a form that lacks its value; reading stops at the first of these,
and every tree without one comes back as it was. -/
namespace SearchIndex.Filter

/-- The comparison of the first part, in the order of writing, that has null for its literal. -/
inductive FirstNull (comparison : Comparison) : Filter → Prop where
  | here : FirstNull comparison (.compare field comparison .null)
  | condition (clean : ∀ other ∈ front, other.ComparesNoNull)
      (first : FirstNull comparison condition) :
      FirstNull comparison (.group combinator (front ++ condition :: rest))
  | negation (first : FirstNull comparison condition) : FirstNull comparison (.not condition)

/-- Of conditions that are not all clean there is a first that is not. -/
private theorem first_unclean {conditions : List Filter}
    (unclean : ¬ ∀ condition ∈ conditions, condition.ComparesNoNull) :
    ∃ front condition rest, conditions = front ++ condition :: rest ∧
      (∀ other ∈ front, other.ComparesNoNull) ∧ ¬ condition.ComparesNoNull := by
  induction conditions with
  | nil => exact absurd (fun _ member => nomatch member) unclean
  | cons first others ih =>
    by_cases clean : first.ComparesNoNull
    · have later : ¬ ∀ condition ∈ others, condition.ComparesNoNull :=
        fun each => unclean (List.forall_mem_cons.mpr ⟨clean, each⟩)
      obtain ⟨front, condition, rest, rfl, before, found⟩ := ih later
      exact ⟨first :: front, condition, rest, rfl, List.forall_mem_cons.mpr ⟨clean, before⟩, found⟩
    · exact ⟨[], first, others, rfl, nofun, clean⟩

theorem first_null_exists {filter : Filter} (unclean : ¬ filter.ComparesNoNull) :
    ∃ comparison, FirstNull comparison filter := by
  induction filter with
  | compare field comparison value =>
    obtain rfl : value = .null := not_not.mp (mt compares_no_null_compare.mpr unclean)
    exact ⟨comparison, .here⟩
  | oneOf field values => exact absurd compares_no_null_one_of unclean
  | between field low high => exact absurd compares_no_null_between unclean
  | group combinator conditions ih =>
    obtain ⟨front, condition, rest, rfl, clean, found⟩ :=
      first_unclean (mt compares_no_null_group.mpr unclean)
    obtain ⟨comparison, first⟩ := ih condition (by simp) found
    exact ⟨comparison, .condition clean first⟩
  | not condition ih =>
    obtain ⟨comparison, first⟩ := ih (mt compares_no_null_not.mpr unclean)
    exact ⟨comparison, .negation first⟩

/-- A record of an operator and one other part is at fault as that part is. -/
theorem read_operator_and_fault
    (part : readPart { Node.empty with op := some op } name value = .error fault) :
    read (.object [("op", .string op), (name, value)]) = .error fault := by
  refine except_bind_error.mpr (.inl ?_)
  rw [read_entries_cons]
  refine except_bind_error.mpr (.inr ⟨{ Node.empty with op := some op }, rfl, ?_⟩)
  rw [read_entries_cons]
  exact except_bind_error.mpr (.inl part)

/-- Reading stops at the first comparison with null, whose value is missing. -/
theorem read_first_null {filter : Filter} (first : FirstNull comparison filter) :
    read filter.toValue = .error (.missing comparison.symbol "value") := by
  induction first with
  | here => cases comparison <;> rfl
  | @condition front condition combinator rest clean _ ih =>
    have all : readAll (toValues (front ++ condition :: rest)) =
        .error (.missing comparison.symbol "value") := by
      refine (each_error read readAll rfl fun _ _ => rfl).mpr
        ⟨front.map toValue, condition.toValue, rest.map toValue, ?_, ?_, ih⟩
      · rw [to_values_map, List.map_append, List.map_cons]
      · intro written member
        obtain ⟨other, listed, rfl⟩ := List.mem_map.mp member
        exact ⟨other, read_written (clean other listed)⟩
    have listed : readConditions (.array (toValues (front ++ condition :: rest))) =
        .error (.missing comparison.symbol "value") := except_bind_error.mpr (.inl all)
    exact read_operator_and_fault (except_bind_error.mpr (.inl listed))
  | @negation condition _ ih =>
    refine read_operator_and_fault ?_
    rw [readPart, if_neg (by simp), if_pos rfl, if_neg (by simp [written_not_null])]
    exact except_bind_error.mpr (.inl ih)

/-- A tree is read back from what is written of it exactly when it compares nothing with null.
Otherwise reading fails, at the first such comparison for want of its value. So every tree that was
read is read back. -/
theorem written_tree_reads_back (filter : Filter) :
    (read filter.toValue = .ok filter ↔ filter.ComparesNoNull) ∧
    (¬ filter.ComparesNoNull → ∃ comparison, FirstNull comparison filter ∧
      read filter.toValue = .error (.missing comparison.symbol "value")) ∧
    ∀ value, read value = .ok filter → read filter.toValue = .ok filter := by
  refine ⟨⟨read_compares_no_null, read_written⟩, fun unclean => ?_, fun value done => ?_⟩
  · obtain ⟨comparison, first⟩ := first_null_exists unclean
    exact ⟨comparison, first, read_first_null first⟩
  · exact read_written (read_compares_no_null done)

end SearchIndex.Filter
