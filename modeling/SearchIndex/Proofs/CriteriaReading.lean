import SearchIndex.Index
import SearchIndex.Proofs.CompileInversion

/-! How filters are read from what callers wrote, and read again from what is written of them. There
are two readers. Whatever the one that looks for an operator accepts, the one that tries the forms in
turn reads alike, and a tree that only the latter takes for a mapping never resolves. What either
reader gives is written in a form that both take for the same filters. -/
namespace SearchIndex

namespace Filter

/-! ## Trees without null to compare with -/

/-- No comparison in the filter has null for its literal. -/
def ComparesNoNull (filter : Filter) : Prop :=
  ∀ (part : Filter) above reversed, part.Stands above reversed filter →
    ∀ field comparison, part ≠ .compare field comparison .null

theorem compares_no_null_compare :
    (Filter.compare field comparison value).ComparesNoNull ↔ value ≠ .null := by
  rw [ComparesNoNull, forall_stands_test rfl]
  constructor
  · rintro none rfl
    exact none field comparison rfl
  · rintro some _ _ same
    cases same
    exact some rfl

theorem compares_no_null_one_of : (Filter.oneOf field values).ComparesNoNull := by
  rw [ComparesNoNull, forall_stands_test rfl]
  exact nofun

theorem compares_no_null_between : (Filter.between field low high).ComparesNoNull := by
  rw [ComparesNoNull, forall_stands_test rfl]
  exact nofun

theorem compares_no_null_group :
    (Filter.group combinator conditions).ComparesNoNull ↔
      ∀ condition ∈ conditions, condition.ComparesNoNull := by
  simp only [ComparesNoNull, forall_stands_group]
  exact and_iff_right nofun

theorem compares_no_null_not :
    (Filter.not condition).ComparesNoNull ↔ condition.ComparesNoNull := by
  simp only [ComparesNoNull, forall_stands_not]
  exact and_iff_right nofun

/-! ## Reading a written tree -/

/-- The node with one more part read. -/
def readPart (node : Node) (name : String) (value : Value) : Except NodeFault Node :=
  if name = "conditions" then do return { node with conditions := ← readConditions value }
  else if name = "condition" then
    if value.isNull then .ok node else do return { node with condition := some (← read value) }
  else node.withPart name value

theorem read_entries_cons (node : Node) (name : String) (value : Value)
    (rest : List (String × Value)) :
    readEntries node ((name, value) :: rest) =
      (readPart node name value >>= fun next => readEntries next rest) := by
  rw [readEntries, readPart]
  split
  · simp
  · split
    · split
      · rfl
      · simp
    · rfl

theorem read_items_cons (node : Node) (name : String) (names : List String) (value : Value)
    (rest : List Value) :
    readItems (name :: names) node (value :: rest) =
      (readPart node name value >>= fun next => readItems names next rest) := by
  rw [readItems, readPart]
  split
  · simp
  · split
    · split
      · rfl
      · simp
    · rfl

theorem read_all_ok {items : List Value} {filters : List Filter} :
    readAll items = .ok filters ↔
      List.Forall₂ (fun item filter => read item = .ok filter) items filters :=
  each_ok read readAll rfl fun _ _ => rfl

theorem read_conditions_some {value : Value} {conditions : List Filter} :
    readConditions value = .ok (some conditions) ↔
      ∃ items, value = .array items ∧ readAll items = .ok conditions := by
  cases value with
  | array items => simp [readConditions, except_bind_ok, pure, Except.pure]
  | null | bool | number | string | object => simp [readConditions]

theorem need_ok {part : Option α} : Node.need op name part = .ok found ↔ part = some found := by
  cases part <;> simp [Node.need]

/-! ### The operator -/

theorem with_part_op {node next : Node} (other : name ≠ "op")
    (done : node.withPart name value = .ok next) : next.op = node.op := by
  unfold Node.withPart at done
  rw [if_neg other] at done
  split at done
  · cases value <;> cases done <;> rfl
  · split at done
    · cases value <;> cases done <;> rfl
    · split at done
      · cases value <;> cases done <;> rfl
      · cases done
        rfl

theorem read_part_op {node next : Node} (other : name ≠ "op")
    (done : readPart node name value = .ok next) : next.op = node.op := by
  unfold readPart at done
  split at done
  · obtain ⟨conditions, -, made⟩ := except_bind_ok.mp done
    cases made
    rfl
  · split at done
    · split at done
      · cases done
        rfl
      · obtain ⟨condition, -, made⟩ := except_bind_ok.mp done
        cases made
        rfl
    · exact with_part_op other done

/-- The operator that is read first has to be a text. -/
theorem read_op_text {node next : Node} (done : readPart node "op" value = .ok next) :
    ∃ op, value = .string op := by
  cases value with
  | string op => exact ⟨op, rfl⟩
  | null | bool | number | array | object => cases done

theorem filter_has_op {node : Node} (done : node.filter = .ok filter) : node.op ≠ none := by
  intro absent
  simp [Node.filter, absent] at done

/-- A record that spells a tree has a text for its operator. -/
theorem read_object_op {entries : Fields} (done : read (.object entries) = .ok filter) :
    ∃ op, Fields.get? entries "op" = some (.string op) := by
  obtain ⟨node, parts, made⟩ := except_bind_ok.mp done
  have written : Node.empty.op ≠ none ∨ ∃ op, Fields.get? entries "op" = some (.string op) := by
    clear done
    generalize Node.empty = start at parts ⊢
    induction entries generalizing start with
    | nil =>
      cases parts
      exact .inl (filter_has_op made)
    | cons entry rest ih =>
      obtain ⟨name, value⟩ := entry
      rw [read_entries_cons] at parts
      obtain ⟨next, part, others⟩ := except_bind_ok.mp parts
      by_cases same : name = "op"
      · subst same
        obtain ⟨op, rfl⟩ := read_op_text part
        exact .inr ⟨op, by simp [Fields.get?]⟩
      · rw [← read_part_op same part]
        simpa only [Fields.get?, same, ↓reduceIte] using ih next others
  exact written.resolve_left (fun present => present rfl)

/-- A list that spells a tree starts with a text. -/
theorem read_array_head (done : read (.array items) = .ok filter) :
    ∃ op rest, items = .string op :: rest := by
  obtain ⟨node, parts, made⟩ := except_bind_ok.mp done
  cases items with
  | nil =>
    cases parts
    cases made
  | cons item rest =>
    rw [partNames, read_items_cons] at parts
    obtain ⟨next, part, -⟩ := except_bind_ok.mp parts
    obtain ⟨op, rfl⟩ := read_op_text part
    exact ⟨op, rest, rfl⟩

/-! ### Null -/

/-- A node with which no tree that compares with null can be made. -/
structure Node.IsClean (node : Node) : Prop where
  value : node.value ≠ some .null
  conditions : ∀ conditions, node.conditions = some conditions →
    ∀ condition ∈ conditions, condition.ComparesNoNull
  condition : ∀ condition, node.condition = some condition → condition.ComparesNoNull

theorem Node.empty_clean : Node.empty.IsClean := ⟨nofun, nofun, nofun⟩

/-- Trees that the value or its items spell do not compare with null. -/
def ReadsClean (value : Value) : Prop :=
  (∀ filter, read value = .ok filter → filter.ComparesNoNull) ∧
    ∀ conditions, readConditions value = .ok (some conditions) →
      ∀ condition ∈ conditions, condition.ComparesNoNull

theorem with_part_clean {node next : Node} (clean : node.IsClean)
    (done : node.withPart name value = .ok next) : next.IsClean := by
  obtain ⟨literal, conditions, condition⟩ := clean
  unfold Node.withPart at done
  split at done
  · cases value <;> cases done
    exact ⟨literal, conditions, condition⟩
  · split at done
    · cases value <;> cases done <;> exact ⟨literal, conditions, condition⟩
    · split at done
      · cases value with
        | null =>
          cases done
          exact ⟨literal, conditions, condition⟩
        | bool | number | string | array | object =>
          cases done
          exact ⟨nofun, conditions, condition⟩
      · split at done
        · cases value <;> cases done <;> exact ⟨literal, conditions, condition⟩
        · cases done
          exact ⟨literal, conditions, condition⟩

theorem read_part_clean {node next : Node} (clean : node.IsClean) (known : ReadsClean value)
    (done : readPart node name value = .ok next) : next.IsClean := by
  unfold readPart at done
  split at done
  · obtain ⟨conditions, read, made⟩ := except_bind_ok.mp done
    cases made
    refine ⟨clean.value, ?_, clean.condition⟩
    rintro conditions rfl
    exact known.2 conditions read
  · split at done
    · split at done
      · cases done
        exact clean
      · obtain ⟨condition, read, made⟩ := except_bind_ok.mp done
        cases made
        refine ⟨clean.value, clean.conditions, ?_⟩
        rintro condition ⟨⟩
        exact known.1 condition read
    · exact with_part_clean clean done

theorem read_entries_clean {node next : Node} {entries : Fields}
    (known : ∀ entry ∈ entries, ReadsClean entry.2) (clean : node.IsClean)
    (done : readEntries node entries = .ok next) : next.IsClean := by
  induction entries generalizing node with
  | nil =>
    cases done
    exact clean
  | cons entry rest ih =>
    obtain ⟨here, later⟩ := List.forall_mem_cons.mp known
    rw [read_entries_cons] at done
    obtain ⟨middle, part, others⟩ := except_bind_ok.mp done
    exact ih later (read_part_clean clean here part) others

theorem read_items_clean {node next : Node} {items : List Value}
    (known : ∀ item ∈ items, ReadsClean item) (clean : node.IsClean)
    (done : readItems names node items = .ok next) : next.IsClean := by
  induction items generalizing names node with
  | nil =>
    cases done
    exact clean
  | cons item rest ih =>
    obtain ⟨here, later⟩ := List.forall_mem_cons.mp known
    cases names with
    | nil => cases done
    | cons name names =>
      rw [read_items_cons] at done
      obtain ⟨middle, part, others⟩ := except_bind_ok.mp done
      exact ih later (read_part_clean clean here part) others

theorem filter_clean {node : Node} (clean : node.IsClean) (done : node.filter = .ok filter) :
    filter.ComparesNoNull := by
  simp only [Node.filter] at done
  split at done
  · cases done
  · split at done
    · obtain ⟨field, -, later⟩ := except_bind_ok.mp done
      obtain ⟨value, found, made⟩ := except_bind_ok.mp later
      cases made
      rw [compares_no_null_compare]
      rintro rfl
      exact clean.value (need_ok.mp found)
    · split at done
      · obtain ⟨field, -, later⟩ := except_bind_ok.mp done
        obtain ⟨values, -, made⟩ := except_bind_ok.mp later
        cases made
        exact compares_no_null_one_of
      · split at done
        · obtain ⟨field, -, later⟩ := except_bind_ok.mp done
          obtain ⟨values, -, made⟩ := except_bind_ok.mp later
          split at made <;> cases made
          exact compares_no_null_between
        · split at done
          · obtain ⟨condition, found, made⟩ := except_bind_ok.mp done
            cases made
            exact compares_no_null_not.mpr (clean.condition condition (need_ok.mp found))
          · split at done
            · obtain ⟨conditions, found, made⟩ := except_bind_ok.mp done
              cases made
              exact compares_no_null_group.mpr (clean.conditions conditions (need_ok.mp found))
            · cases done

theorem reads_clean (value : Value) : ReadsClean value := by
  induction value using Value.by_parts with
  | null | bool | number | string => exact ⟨nofun, nofun⟩
  | array items ih =>
    constructor
    · intro filter done
      obtain ⟨node, parts, made⟩ := except_bind_ok.mp done
      exact filter_clean (read_items_clean ih Node.empty_clean parts) made
    · intro conditions done condition member
      obtain ⟨_, ⟨⟩, all⟩ := read_conditions_some.mp done
      have each := (List.forall₂_and_left items conditions).mpr ⟨ih, read_all_ok.mp all⟩
      exact forall₂_right (each.imp fun item filter known => known.1.1 filter known.2) condition member
  | object entries ih =>
    refine ⟨fun filter done => ?_, nofun⟩
    obtain ⟨node, parts, made⟩ := except_bind_ok.mp done
    exact filter_clean (read_entries_clean ih Node.empty_clean parts) made

/-- No tree that is read compares with null. -/
theorem read_compares_no_null (done : read value = .ok filter) : filter.ComparesNoNull :=
  (reads_clean value).1 filter done

/-! ### Reading what was written -/

theorem to_values_map (filters : List Filter) : toValues filters = filters.map toValue := by
  induction filters with
  | nil => rfl
  | cons filter rest ih => rw [toValues, ih, List.map_cons]

theorem written_not_null (filter : Filter) : filter.toValue.isNull = false := by
  cases filter <;> rfl

/-- A record of an operator and one other part spells what that part makes of it. -/
theorem read_operator_and_part {node : Node}
    (part : readPart { Node.empty with op := some op } name value = .ok node)
    (made : node.filter = .ok filter) :
    read (.object [("op", .string op), (name, value)]) = .ok filter := by
  have both : readEntries .empty [("op", .string op), (name, value)] = .ok node := by
    rw [read_entries_cons]
    refine except_bind_ok.mpr ⟨{ Node.empty with op := some op }, rfl, ?_⟩
    rw [read_entries_cons]
    exact except_bind_ok.mpr ⟨node, part, rfl⟩
  exact except_bind_ok.mpr ⟨node, both, made⟩

/-- A tree that does not compare with null is read back from what is written of it. -/
theorem read_written {filter : Filter} (clean : filter.ComparesNoNull) :
    read filter.toValue = .ok filter := by
  induction filter with
  | compare field comparison value =>
    have present := compares_no_null_compare.mp clean
    cases comparison <;> cases value <;> first | exact absurd rfl present | rfl
  | oneOf field values => rfl
  | between field low high => rfl
  | group combinator conditions ih =>
    have each := compares_no_null_group.mp clean
    have all : readAll (toValues conditions) = .ok conditions := by
      rw [read_all_ok, to_values_map, List.forall₂_map_left_iff, List.forall₂_same]
      exact fun condition member => ih condition member (each condition member)
    have listed : readConditions (.array (toValues conditions)) = .ok (some conditions) :=
      read_conditions_some.mpr ⟨_, rfl, all⟩
    refine read_operator_and_part (except_bind_ok.mpr ⟨some conditions, listed, rfl⟩) ?_
    cases combinator <;> rfl
  | not condition ih =>
    have inside := ih (compares_no_null_not.mp clean)
    have part : readPart { Node.empty with op := some "not" } "condition" condition.toValue =
        .ok { Node.empty with op := some "not", condition := some condition } := by
      rw [readPart, if_neg (by decide), if_pos rfl, if_neg (by simp [written_not_null]), inside]
      rfl
    exact read_operator_and_part part rfl

end Filter

namespace Criteria

/-- Induction over filters as callers give them. A list may use the fact for each member. -/
@[elab_as_elim, induction_eliminator]
theorem by_parts {motive : Criteria → Prop} (tree : ∀ filter, motive (.tree filter))
    (list : ∀ members, (∀ member ∈ members, motive member) → motive (.list members))
    (mapping : ∀ entries, motive (.mapping entries)) (criteria : Criteria) : motive criteria :=
  Criteria.rec (motive_1 := motive) (motive_2 := fun members => ∀ member ∈ members, motive member)
    tree list mapping (fun _ member => nomatch member)
    (fun _ _ head tail => List.forall_mem_cons.mpr ⟨head, tail⟩) criteria

theorem of_values_ok {items : List Value} {inputs : List Criteria} :
    ofValues items = .ok inputs ↔
      List.Forall₂ (fun item input => ofValue item = .ok input) items inputs :=
  each_ok ofValue ofValues rfl fun _ _ => rfl

theorem read_all_some {items : List Value} {inputs : List Criteria} :
    readAll? items = some inputs ↔
      List.Forall₂ (fun item input => read? item = some input) items inputs := by
  induction items generalizing inputs with
  | nil => simp [readAll?, eq_comm]
  | cons item rest ih =>
    simp only [readAll?, Option.bind_eq_bind, Option.bind_eq_some_iff, pure, Option.some.injEq,
      List.forall₂_cons_left_iff, ih]
    constructor
    · rintro ⟨first, here, others, later, rfl⟩
      exact ⟨first, others, here, later, rfl⟩
    · rintro ⟨first, others, here, later, rfl⟩
      exact ⟨first, here, others, later, rfl⟩

theorem to_values_map (members : List Criteria) : toValues members = members.map toValue := by
  induction members with
  | nil => rfl
  | cons member rest ih => rw [toValues, ih, List.map_cons]

/-- A record that spells a tree is that tree for both readers. -/
theorem read_tree {entries : Fields} (tree : Filter.read (.object entries) = .ok filter) :
    read? (.object entries) = some (.tree filter) ∧
      ofValue (.object entries) = .ok (.tree filter) := by
  obtain ⟨op, found⟩ := Filter.read_object_op tree
  exact ⟨by simp [read?, tree], by simp [ofValue, tree, found]⟩

/-- Any other record is a mapping for the reader that tries the forms in turn, and for the other if
it has no operator. -/
theorem read_mapping {entries : Fields} (other : Filter.read (.object entries) = .error fault) :
    read? (.object entries) = some (.mapping entries) ∧
      (Fields.get? entries "op" = none → ofValue (.object entries) = .ok (.mapping entries)) :=
  ⟨by simp [read?, other], fun absent => by simp [ofValue, absent]⟩

/-- What the reader that looks for an operator accepts of a record. -/
theorem of_value_object {entries : Fields} (done : ofValue (.object entries) = .ok input) :
    (∃ filter, Filter.read (.object entries) = .ok filter ∧ input = .tree filter) ∨
      (Fields.get? entries "op" = none ∧ input = .mapping entries) := by
  simp only [ofValue] at done
  split at done
  · split at done
    · rename_i filter tree
      cases done
      exact .inl ⟨filter, tree, rfl⟩
    · cases done
  · rename_i absent
    cases done
    exact .inr ⟨by simpa using absent, rfl⟩

/-- A list that does not start with a text is taken item by item. -/
theorem read_list {items : List Value} (head : ∀ op rest, items ≠ .string op :: rest)
    (each : List.Forall₂ (fun item input => read? item = some input) items inputs) :
    read? (.array items) = some (.list inputs) := by
  cases tree : Filter.read (.array items) with
  | ok filter =>
    obtain ⟨op, rest, starts⟩ := Filter.read_array_head tree
    exact absurd starts (head op rest)
  | error fault => simp [read?, tree, read_all_some.mpr each]

theorem of_value_array {items : List Value} (done : ofValue (.array items) = .ok input) :
    ∃ inputs, input = .list inputs ∧
      List.Forall₂ (fun item input => ofValue item = .ok input) items inputs := by
  obtain ⟨inputs, all, made⟩ := except_bind_ok.mp done
  cases made
  exact ⟨inputs, rfl, of_values_ok.mp all⟩

/-- Whatever the reader that looks for an operator accepts, the other reads alike. -/
theorem read_of_value {value : Value} (done : ofValue value = .ok input) :
    read? value = some input := by
  induction value using Value.by_parts generalizing input with
  | null | bool | number | string => cases done
  | object entries _ =>
    rcases of_value_object done with ⟨filter, tree, rfl⟩ | ⟨absent, rfl⟩
    · exact (read_tree tree).1
    · cases tree : Filter.read (.object entries) with
      | ok filter =>
        obtain ⟨op, found⟩ := Filter.read_object_op tree
        exact absurd (absent.symm.trans found) nofun
      | error fault => exact (read_mapping tree).1
  | array items ih =>
    obtain ⟨inputs, rfl, each⟩ := of_value_array done
    refine read_list ?_ ?_
    · rintro op rest rfl
      obtain ⟨_, _, ⟨⟩, -⟩ := List.forall₂_cons_left_iff.mp each
    · have known := (List.forall₂_and_left items inputs).mpr ⟨ih, each⟩
      exact known.imp fun item input both => both.1 both.2

/-! ## Reading an echo -/

/-- The reader that looks for an operator takes what is written of a tree for a tree. -/
theorem written_tree (filter : Filter) : ∃ entries, filter.toValue = .object entries := by
  cases filter <;> exact ⟨_, rfl⟩

theorem written_not_text (input : Criteria) (op : String) : input.toValue ≠ .string op := by
  cases input with
  | tree filter =>
    obtain ⟨entries, record⟩ := written_tree filter
    simp [toValue, record]
  | list | mapping => exact nofun

/-- A tree that was read is read back by both readers. -/
theorem tree_reads_back (done : Filter.read value = .ok filter) :
    read? filter.toValue = some (.tree filter) ∧ ofValue filter.toValue = .ok (.tree filter) := by
  have back := Filter.read_written (Filter.read_compares_no_null done)
  obtain ⟨entries, record⟩ := written_tree filter
  rw [record] at back ⊢
  exact read_tree back

/-- Lists are written member by member, and no member is written as a text. -/
theorem list_reads_back {members : List Criteria}
    (each : ∀ member ∈ members, read? member.toValue = some member) :
    read? (Criteria.list members).toValue = some (.list members) := by
  rw [toValue, to_values_map]
  refine read_list ?_ ?_
  · intro op rest starts
    cases members with
    | nil => cases starts
    | cons member others => exact written_not_text member op (List.cons.inj starts).1
  · rw [List.forall₂_map_left_iff, List.forall₂_same]
    exact each

theorem read_back {value : Value} (done : read? value = some input) :
    read? input.toValue = some input := by
  induction value using Value.by_parts generalizing input with
  | null | bool | number | string => cases done
  | object entries _ =>
    cases tree : Filter.read (.object entries) with
    | ok filter =>
      cases (read_tree tree).1.symm.trans done
      exact (tree_reads_back tree).1
    | error fault =>
      cases (read_mapping tree).1.symm.trans done
      exact (read_mapping tree).1
  | array items ih =>
    cases tree : Filter.read (.array items) with
    | ok filter =>
      obtain rfl : Criteria.tree filter = input := by simpa [read?, tree] using done
      exact (tree_reads_back tree).1
    | error fault =>
      obtain ⟨inputs, all, rfl⟩ : ∃ inputs, readAll? items = some inputs ∧ .list inputs = input := by
        simpa [read?, tree, Option.bind_eq_some_iff] using done
      have known := (List.forall₂_and_left items inputs).mpr ⟨ih, read_all_some.mp all⟩
      exact list_reads_back (forall₂_right (known.imp fun item input both => both.1 both.2))

theorem of_value_back {value : Value} (done : ofValue value = .ok input) :
    ofValue input.toValue = .ok input := by
  induction value using Value.by_parts generalizing input with
  | null | bool | number | string => cases done
  | object entries _ =>
    rcases of_value_object done with ⟨filter, tree, rfl⟩ | ⟨absent, rfl⟩
    · exact (tree_reads_back tree).2
    · exact done
  | array items ih =>
    obtain ⟨inputs, rfl, each⟩ := of_value_array done
    have known := (List.forall₂_and_left items inputs).mpr ⟨ih, each⟩
    have back := forall₂_right (known.imp fun item input both => both.1 both.2)
    refine except_bind_ok.mpr ⟨inputs, of_values_ok.mpr ?_, rfl⟩
    rw [to_values_map, List.forall₂_map_left_iff, List.forall₂_same]
    exact back

end Criteria

/-! ## Main statement -/

theorem run_map (send : Request → Except Error Response) (f : α → β) (call : Call α) :
    (call.map f).run send = (call.run send).map f := by
  cases call with
  | done outcome => rfl
  | ask request outcome =>
    simp only [Call.map, Call.run]
    cases send request <;> rfl

/-- A result repeats the filters as the caller gave them. -/
theorem search_echoes {index : Index} {options : LooseOptions}
    (found : (index.search query options).run send = .ok result) :
    result.filters = options.filters := by
  unfold Index.search at found
  split at found
  · cases found
  · rename_i resolved _
    rw [run_map] at found
    cases outcome : (index.searchOptions query resolved).run send with
    | error error =>
      rw [outcome] at found
      cases found
    | ok answer =>
      rw [outcome] at found
      cases found
      rfl

/-- What either reader gives is written in a form that it reads as the same filters, and so does the
other where both accept. So a search can be repeated with the filters that its result echoes: they
resolve to the same tree, and the index does exactly the same. -/
theorem Criteria.echo_reads_back (value : Value) :
    (∀ input, read? value = some input → read? input.toValue = some input) ∧
    (∀ input, ofValue value = .ok input →
      ofValue input.toValue = .ok input ∧ read? input.toValue = some input) ∧
    ∀ input, (read? value = some input ∨ ofValue value = .ok input) →
      ∀ (index : Index) query (options : LooseOptions) send result,
        options.filters = some input → (index.search query options).run send = .ok result →
        ∃ echo again, result.filters = some echo ∧ read? echo.toValue = some again ∧
          again.resolve = input.resolve ∧
          index.search query { options with filters := some again } = index.search query options := by
  refine ⟨fun input => read_back, fun input done => ?_, ?_⟩
  · exact ⟨of_value_back done, read_back (read_of_value done)⟩
  · intro input accepted index query options send result given found
    have read : read? value = some input := accepted.elim id read_of_value
    refine ⟨input, input, (search_echoes found).trans given, read_back read, rfl, ?_⟩
    rw [← given]

end SearchIndex
