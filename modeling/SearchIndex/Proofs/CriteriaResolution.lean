import SearchIndex.Proofs.CriteriaReading
import SearchIndex.Proofs.CriteriaRules

/-! What the filters that callers give resolve to. An input resolves exactly when the rules accept
it, to a tree with its meaning, and whatever fails is a fault of the filters. With this a record
that was meant for a tree and is none never counts for anything else. -/
namespace SearchIndex

/-! ## Inputs inside mappings -/

namespace Mapping

theorem nested_all_ok {items : List Value} {filters : List Filter} :
    nestedAll items = .ok filters ↔
      List.Forall₂ (fun item filter => nested item = .ok filter) items filters :=
  each_ok nested nestedAll rfl fun _ _ => rfl

/-- What one entry of a mapping asks for. -/
def clause (entry : String × Value) : Except Error (List Filter) :=
  if entry.1 = "and" then (conditions entry.1 entry.2).map fun parts => [.group .and parts]
  else if entry.1 = "or" then (conditions entry.1 entry.2).map fun parts => [.group .or parts]
  else if entry.1 = "not" then (nested entry.2).map fun part => [.not part]
  else spec entry.1 entry.2

theorem clauses_cons (entry : String × Value) (rest : List (String × Value)) :
    clauses (entry :: rest) = (do
      let first ← clause entry
      let others ← clauses rest
      return first ++ others) := by
  rw [clauses, clause]
  split
  · rfl
  · split
    · rfl
    · split <;> rfl

/-- A mapping asks for what its entries ask for. -/
theorem clauses_ok {entries : List (String × Value)} {filters : List Filter} :
    clauses entries = .ok filters ↔
      ∃ parts, List.Forall₂ (fun entry part => clause entry = .ok part) entries parts ∧
        parts.flatten = filters := by
  induction entries generalizing filters with
  | nil => simp [clauses, eq_comm]
  | cons entry rest ih =>
    simp only [clauses_cons, except_bind_ok, pure, Except.pure, Except.ok.injEq,
      List.forall₂_cons_left_iff, ih]
    constructor
    · rintro ⟨first, here, _, ⟨others, later, rfl⟩, rfl⟩
      exact ⟨first :: others, ⟨first, others, here, later, rfl⟩, rfl⟩
    · rintro ⟨_, ⟨first, others, here, later, rfl⟩, rfl⟩
      exact ⟨first, here, _, ⟨others, later, rfl⟩, rfl⟩

end Mapping

namespace Criteria

theorem resolve_all_ok {members : List Criteria} {filters : List Filter} :
    resolveAll members = .ok filters ↔
      List.Forall₂ (fun member filter => member.resolve = .ok filter) members filters :=
  each_ok resolve resolveAll rfl fun _ _ => rfl

/-- Inputs in a list that is read resolve as they do on their own. -/
private theorem nested_all_eq {items : List Value}
    (each : ∀ item ∈ items, Mapping.nested item = ofValue item >>= resolve)
    (read : ofValues items = .ok inputs) : Mapping.nestedAll items = resolveAll inputs := by
  have known := of_values_ok.mp read
  clear read
  induction known with
  | nil => rfl
  | cons head _ ih =>
    obtain ⟨here, later⟩ := List.forall_mem_cons.mp each
    rw [Mapping.nestedAll, resolveAll, here, head, ih later]
    rfl

/-- Inputs inside a mapping are read on their own and then resolved. -/
theorem nested_eq (value : Value) : Mapping.nested value = ofValue value >>= resolve := by
  induction value using Value.by_parts with
  | null | bool | number | string => rfl
  | object entries _ =>
    rw [Mapping.nested]
    cases read : ofValue (.object entries) with
    | error error => rfl
    | ok input =>
      rcases of_value_object read with ⟨filter, -, rfl⟩ | ⟨-, rfl⟩ <;> rfl
  | array items ih =>
    rw [Mapping.nested, ofValue]
    cases read : ofValues items with
    | error error => rfl
    | ok inputs =>
      exact congrArg (· >>= fun filters => (Filter.allOf filters).checked) (nested_all_eq ih read)

/-- What resolves has passed its check. -/
theorem resolve_checked {input : Criteria} (done : input.resolve = .ok filter) :
    filter.check = .ok () := by
  cases input with
  | tree tree =>
    obtain ⟨valid, rfl⟩ := checked_ok.mp done
    exact valid
  | list members =>
    obtain ⟨filters, -, checked⟩ := except_bind_ok.mp done
    obtain ⟨valid, rfl⟩ := checked_ok.mp checked
    exact valid
  | mapping entries =>
    obtain ⟨filters, -, checked⟩ := except_bind_ok.mp done
    obtain ⟨valid, rfl⟩ := checked_ok.mp checked
    exact valid

/-! ## What resolves is well formed -/

theorem well_formed_of_list
    (known : ∀ member ∈ members, ∀ filter, resolve member = .ok filter → member.IsWellFormed)
    (done : (Criteria.list members).resolve = .ok filter) :
    (Criteria.list members).IsWellFormed := by
  obtain ⟨filters, all, -⟩ := except_bind_ok.mp done
  refine .list fun member inside => ?_
  obtain ⟨filter, -, resolved⟩ := mem_of_forall₂ (resolve_all_ok.mp all) member inside
  exact known member inside filter resolved

/-- Inputs that values spell are well formed if they resolve, and so are those that the items of a
list spell. -/
def ResolvesWellFormed (value : Value) : Prop :=
  (∀ input filter, ofValue value = .ok input → input.resolve = .ok filter → input.IsWellFormed) ∧
    ∀ items, value = .array items → ∀ item ∈ items, ∀ input filter,
      ofValue item = .ok input → input.resolve = .ok filter → input.IsWellFormed

theorem well_formed_of_conditions (known : ResolvesWellFormed value)
    (combines : key = "and" ∨ key = "or") (made : Mapping.conditions key value = .ok parts) :
    IsWellFormedEntry key value := by
  cases value with
  | null | bool | number | string | object => cases made
  | array items =>
    have each : ∀ item ∈ items, ∃ input, ofValue item = .ok input ∧ input.IsWellFormed := by
      intro item member
      obtain ⟨part, -, resolved⟩ := mem_of_forall₂ (Mapping.nested_all_ok.mp made) item member
      rw [nested_eq] at resolved
      obtain ⟨input, read, done⟩ := except_bind_ok.mp resolved
      exact ⟨input, read, known.2 items rfl item member input part read done⟩
    obtain ⟨inputs, all⟩ := exists_forall₂_iff.mpr each
    exact .group combines (of_values_ok.mpr (all.imp fun _ _ one => one.1))
      (forall₂_right (all.imp fun _ _ one => one.2))

theorem well_formed_of_clause {entry : String × Value} (known : ResolvesWellFormed entry.2)
    (made : Mapping.clause entry = .ok part) (valid : ∀ filter ∈ part, filter.check = .ok ()) :
    IsWellFormedEntry entry.1 entry.2 := by
  obtain ⟨key, value⟩ := entry
  simp only [Mapping.clause] at made
  split at made
  · rename_i word
    obtain ⟨parts, listed, -⟩ := except_map_ok.mp made
    exact well_formed_of_conditions known (.inl word) listed
  · rename_i notAnd
    split at made
    · rename_i word
      obtain ⟨parts, listed, -⟩ := except_map_ok.mp made
      exact well_formed_of_conditions known (.inr word) listed
    · rename_i notOr
      split at made
      · rename_i word
        obtain ⟨condition, inside, -⟩ := except_map_ok.mp made
        rw [nested_eq] at inside
        obtain ⟨input, read, done⟩ := except_bind_ok.mp inside
        subst word
        exact .negation read (known.1 input condition read done)
      · rename_i notNot
        exact .field ⟨notAnd, notOr, notNot⟩ (Mapping.well_formed_of_spec made valid)

theorem well_formed_of_mapping {entries : List (String × Value)}
    (known : ∀ entry ∈ entries, ResolvesWellFormed entry.2)
    (done : (Criteria.mapping entries).resolve = .ok filter) :
    (Criteria.mapping entries).IsWellFormed := by
  obtain ⟨conditions, made, checked⟩ := except_bind_ok.mp done
  obtain ⟨valid, -⟩ := checked_ok.mp checked
  rw [check_all_of_ok] at valid
  obtain ⟨parts, each, rfl⟩ := Mapping.clauses_ok.mp made
  refine .mapping fun entry member => ?_
  obtain ⟨part, inside, here⟩ := mem_of_forall₂ each entry member
  exact well_formed_of_clause (known entry member) here fun filter among =>
    valid filter (List.mem_flatten.mpr ⟨part, inside, among⟩)

theorem resolves_well_formed (value : Value) : ResolvesWellFormed value := by
  induction value using Value.by_parts with
  | null | bool | number | string => exact ⟨nofun, nofun⟩
  | object entries ih =>
    refine ⟨fun input filter read done => ?_, nofun⟩
    rcases of_value_object read with ⟨tree, -, rfl⟩ | ⟨-, rfl⟩
    · exact .tree (checked_ok.mp done).1
    · exact well_formed_of_mapping ih done
  | array items ih =>
    have each : ∀ item ∈ items, ∀ input filter, ofValue item = .ok input →
        input.resolve = .ok filter → input.IsWellFormed := fun item member => (ih item member).1
    refine ⟨fun input filter read done => ?_, ?_⟩
    · obtain ⟨inputs, rfl, all⟩ := of_value_array read
      have members := forall₂_right (((List.forall₂_and_left items inputs).mpr ⟨each, all⟩).imp
        fun item input both filter => both.1 input filter both.2)
      exact well_formed_of_list members done
    · rintro _ ⟨⟩
      exact each

/-- Whatever resolves is well formed. -/
theorem well_formed_of_resolve {input : Criteria} (done : input.resolve = .ok filter) :
    input.IsWellFormed := by
  induction input generalizing filter with
  | tree tree => exact .tree (checked_ok.mp done).1
  | list members ih => exact well_formed_of_list (fun member inside _ => ih member inside) done
  | mapping entries => exact well_formed_of_mapping (fun _ _ => resolves_well_formed _) done

/-! ## What is well formed resolves -/

theorem meets_each_map (document : Document) (items : List Value) :
    meetsEach document items = items.map (meets document) := by
  induction items with
  | nil => rfl
  | cons item rest ih => rw [meetsEach, ih, List.map_cons]

theorem meets_entries_map (document : Document) (entries : List (String × Value)) :
    meetsEntries document entries = entries.map (meetsEntry document) := by
  induction entries with
  | nil => rfl
  | cons entry rest ih => rw [meetsEntries, ih, List.map_cons]

theorem holds_each_map (document : Document) (members : List Criteria) :
    holdsEach document members = members.map (holds document) := by
  induction members with
  | nil => rfl
  | cons member rest ih => rw [holdsEach, ih, List.map_cons]

/-- A value asks for the same as the input that it spells. -/
theorem meets_of_value {value : Value} (read : ofValue value = .ok input) (document : Document) :
    meets document value = input.holds document := by
  induction value using Value.by_parts generalizing input with
  | null | bool | number | string => cases read
  | object entries _ =>
    rw [meets, read]
    rcases of_value_object read with ⟨filter, -, rfl⟩ | ⟨-, rfl⟩ <;> rfl
  | array items ih =>
    obtain ⟨inputs, rfl, all⟩ := of_value_array read
    have each := (List.forall₂_and_left items inputs).mpr ⟨ih, all⟩
    rw [meets, holds, meets_each_map, holds_each_map]
    rw [map_eq_of_forall₂ (each.imp fun item input both => (both.1 both.2).symm)]

/-- The input resolves to a tree with its meaning. -/
def Resolves (input : Criteria) : Prop :=
  ∃ filter, input.resolve = .ok filter ∧ ∀ document, filter.holds document = input.holds document

/-- The entry asks for valid conditions with its meaning. -/
def ClauseResolves (entry : String × Value) : Prop :=
  ∃ part, Mapping.clause entry = .ok part ∧ (∀ condition ∈ part, condition.check = .ok ()) ∧
    ∀ document, (part.map (Filter.holds document)).all id = meetsEntry document entry

theorem resolves_list (each : ∀ member ∈ members, Resolves member) :
    Resolves (.list members) := by
  obtain ⟨filters, known⟩ := exists_forall₂_iff.mpr each
  have all := resolve_all_ok.mpr (known.imp fun _ _ one => one.1)
  have valid : ∀ filter ∈ filters, filter.check = .ok () :=
    forall₂_right (known.imp fun _ _ one => resolve_checked one.1)
  refine ⟨.allOf filters, ?_, fun document => ?_⟩
  · exact except_bind_ok.mpr ⟨filters, all, checked_ok.mpr ⟨check_all_of_ok.mpr valid, rfl⟩⟩
  · rw [all_of_holds, holds, holds_each_map,
      map_eq_of_forall₂ (known.imp fun _ _ one => one.2 document)]

theorem resolves_mapping {entries : List (String × Value)}
    (each : ∀ entry ∈ entries, ClauseResolves entry) : Resolves (.mapping entries) := by
  obtain ⟨parts, known⟩ := exists_forall₂_iff.mpr each
  have all := Mapping.clauses_ok.mpr ⟨parts, known.imp fun _ _ one => one.1, rfl⟩
  have valid : ∀ filter ∈ parts.flatten, filter.check = .ok () := by
    intro filter member
    obtain ⟨part, inside, among⟩ := List.mem_flatten.mp member
    exact forall₂_right (known.imp fun _ _ one => one.2.1) part inside filter among
  refine ⟨.allOf parts.flatten, ?_, fun document => ?_⟩
  · exact except_bind_ok.mpr ⟨_, all, checked_ok.mpr ⟨check_all_of_ok.mpr valid, rfl⟩⟩
  · have asked := map_eq_of_forall₂ (known.imp fun _ _ one => one.2.2 document)
    rw [all_of_holds, holds, meets_entries_map, ← asked, List.map_flatten, List.all_flatten,
      List.all_map, List.all_map]
    rfl

/-- The inputs listed under a combinator become its conditions. -/
theorem conditions_of_inputs {items : List Value} (accepted : ofValues items = .ok inputs)
    (each : ∀ input ∈ inputs, Resolves input) (key : String) :
    ∃ parts, Mapping.conditions key (.array items) = .ok parts ∧
      (∀ condition ∈ parts, condition.check = .ok ()) ∧
      ∀ document, parts.map (Filter.holds document) = meetsEach document items := by
  obtain ⟨parts, known⟩ := exists_forall₂_iff.mpr each
  have all := resolve_all_ok.mpr (known.imp fun _ _ one => one.1)
  refine ⟨parts, ?_, forall₂_right (known.imp fun _ _ one => resolve_checked one.1), ?_⟩
  · rw [Mapping.conditions, nested_all_eq (fun item _ => nested_eq item) accepted, all]
  · intro document
    have spelled := (of_values_ok.mp accepted).imp fun _ _ read => (meets_of_value read document).symm
    rw [meets_each_map, ← map_eq_of_forall₂ spelled,
      map_eq_of_forall₂ (known.imp fun _ _ one => one.2 document)]

theorem clause_of_group (combines : key = "and" ∨ key = "or")
    (accepted : ofValues items = .ok inputs) (each : ∀ input ∈ inputs, Resolves input) :
    ClauseResolves (key, .array items) := by
  obtain ⟨parts, made, valid, asked⟩ := conditions_of_inputs accepted each key
  have grouped (combinator : Combinator) :
      ∀ condition ∈ [Filter.group combinator parts], condition.check = .ok () :=
    List.forall_mem_singleton.mpr ((Filter.check_all_ok parts).mpr valid)
  rcases combines with rfl | rfl
  · refine ⟨[.group .and parts], except_map_ok.mpr ⟨parts, made, rfl⟩, grouped .and, fun document => ?_⟩
    simp [meetsEntry, meetsGroup, group_holds, asked]
  · refine ⟨[.group .or parts], except_map_ok.mpr ⟨parts, made, rfl⟩, grouped .or, fun document => ?_⟩
    simp [meetsEntry, meetsGroup, group_holds, asked]

theorem clause_of_negation (accepted : ofValue value = .ok input) (inside : Resolves input) :
    ClauseResolves ("not", value) := by
  obtain ⟨filter, done, asked⟩ := inside
  have nested : Mapping.nested value = .ok filter := by
    rw [nested_eq, accepted]
    exact done
  have valid : (Filter.not filter).check = .ok () := by
    rw [Filter.check]
    exact resolve_checked done
  refine ⟨[.not filter], except_map_ok.mpr ⟨filter, nested, rfl⟩,
    List.forall_mem_singleton.mpr valid, fun document => ?_⟩
  simp [meetsEntry, Filter.holds, asked, meets_of_value accepted]

theorem clause_of_field (plain : key ≠ "and" ∧ key ≠ "or" ∧ key ≠ "not")
    (given : Mapping.IsSpec value) : ClauseResolves (key, value) := by
  obtain ⟨filters, made, valid, asked⟩ := Mapping.spec_of_well_formed given key
  refine ⟨filters, ?_, valid, fun document => ?_⟩
  · simpa [Mapping.clause, plain] using made
  · simpa [meetsEntry, plain] using asked document

/-- Whatever is well formed resolves to a tree with its meaning. -/
theorem resolves_of_well_formed (formed : IsWellFormed input) : Resolves input :=
  IsWellFormed.rec (motive_1 := fun input _ => Resolves input)
    (motive_2 := fun key value _ => ClauseResolves (key, value))
    (fun valid => ⟨_, checked_ok.mpr ⟨valid, rfl⟩, fun _ => rfl⟩)
    (fun _ each => resolves_list each)
    (fun _ each => resolves_mapping fun entry member => each entry member)
    (fun combines accepted _ each => clause_of_group combines accepted each)
    (fun accepted _ inside => clause_of_negation accepted inside)
    (fun plain given => clause_of_field plain given)
    formed

/-! ## Failures -/

theorem require_literal_blames (operator field : String) (value : Value) :
    BlamesFilter (Filter.requireLiteral operator field value) := by
  cases value with
  | null | array | object => exact blames_fault _
  | bool | number | string => exact blames_ok _

theorem require_literals_blame (operator field : String) (values : List Value) :
    BlamesFilter (Filter.requireLiterals operator field values) := by
  induction values with
  | nil => exact blames_ok _
  | cons value rest ih =>
    exact blames_bind (require_literal_blames operator field value) fun _ => ih

theorem check_blames (filter : Filter) : BlamesFilter filter.check := by
  induction filter with
  | compare field comparison value => exact require_literal_blames _ field value
  | oneOf field values =>
    rw [Filter.check]
    split
    · exact blames_fault _
    · exact require_literals_blame _ field values
  | between field low high =>
    exact blames_bind (require_literal_blames _ field low) fun _ =>
      require_literal_blames _ field high
  | group combinator conditions ih =>
    rw [Filter.check]
    induction conditions with
    | nil => exact blames_ok _
    | cons condition rest more =>
      obtain ⟨here, later⟩ := List.forall_mem_cons.mp ih
      exact blames_bind here fun _ => more later
  | not condition ih => exact ih

theorem checked_blames (filter : Filter) : BlamesFilter filter.checked :=
  blames_bind (check_blames filter) fun _ => blames_ok _

theorem requirement_blames (field operator : String) (value : Value) :
    BlamesFilter (Mapping.requirement field operator value) := by
  unfold Mapping.requirement
  split
  · exact blames_fault _
  · split
    · exact blames_ok _
    · split
      · split
        · exact blames_ok _
        · exact blames_fault _
      · split
        · split
          · exact blames_ok _
          · exact blames_fault _
        · exact blames_fault _

theorem spec_blames (field : String) (value : Value) : BlamesFilter (Mapping.spec field value) := by
  unfold Mapping.spec
  split
  · exact blames_fault _
  · exact each_blames (Mapping.requirements field) rfl (fun _ _ => rfl)
      fun entry _ => requirement_blames field entry.1 entry.2
  · exact blames_fault _

theorem of_value_blames (value : Value) : BlamesFilter (ofValue value) := by
  induction value using Value.by_parts with
  | null | bool | number | string => exact blames_fault _
  | object entries _ =>
    rw [ofValue]
    split
    · split
      · exact blames_ok _
      · exact blames_fault _
    · exact blames_ok _
  | array items ih =>
    exact blames_bind (each_blames ofValues rfl (fun _ _ => rfl) ih) fun _ => blames_ok _

/-- Inside a mapping nothing else can go wrong, neither with a value as an input nor with the inputs
that it lists. -/
def BlamesInside (value : Value) : Prop :=
  BlamesFilter (Mapping.nested value) ∧ ∀ key, BlamesFilter (Mapping.conditions key value)

theorem clause_blames {entry : String × Value} (inside : BlamesInside entry.2) :
    BlamesFilter (Mapping.clause entry) := by
  unfold Mapping.clause
  split
  · exact blames_map _ (inside.2 _)
  · split
    · exact blames_map _ (inside.2 _)
    · split
      · exact blames_map _ inside.1
      · exact spec_blames _ _

theorem clauses_blame {entries : List (String × Value)}
    (each : ∀ entry ∈ entries, BlamesInside entry.2) :
    BlamesFilter (Mapping.clauses entries) := by
  induction entries with
  | nil => exact blames_ok _
  | cons entry rest ih =>
    obtain ⟨here, later⟩ := List.forall_mem_cons.mp each
    rw [Mapping.clauses_cons]
    exact blames_bind (clause_blames here) fun _ => blames_bind (ih later) fun _ => blames_ok _

theorem inside_blames (value : Value) : BlamesInside value := by
  induction value using Value.by_parts with
  | null | bool | number | string => exact ⟨blames_fault _, fun key => blames_fault _⟩
  | object entries ih =>
    refine ⟨?_, fun key => blames_fault _⟩
    have checks : BlamesFilter (do (Filter.allOf (← Mapping.clauses entries)).checked) :=
      blames_bind (clauses_blame ih) fun _ => checked_blames _
    rw [Mapping.nested]
    refine blames_bind (of_value_blames _) fun input => ?_
    cases input with
    | tree filter => exact checked_blames filter
    | list | mapping => exact checks
  | array items ih =>
    have all : BlamesFilter (Mapping.nestedAll items) :=
      each_blames Mapping.nestedAll rfl (fun _ _ => rfl) fun item member => (ih item member).1
    have read : BlamesFilter (ofValues items) :=
      each_blames ofValues rfl (fun _ _ => rfl) fun item _ => of_value_blames item
    have checks : BlamesFilter (do (Filter.allOf (← Mapping.nestedAll items)).checked) :=
      blames_bind all fun _ => checked_blames _
    exact ⟨blames_bind read fun _ => checks, fun key => all⟩

/-- Whatever does not resolve has a fault as a filter. -/
theorem resolve_blames (input : Criteria) : BlamesFilter input.resolve := by
  induction input with
  | tree filter => exact checked_blames filter
  | list members ih =>
    have all : BlamesFilter (resolveAll members) :=
      each_blames resolveAll rfl (fun _ _ => rfl) ih
    exact blames_bind all fun _ => checked_blames _
  | mapping entries =>
    exact blames_bind (clauses_blame fun _ _ => inside_blames _) fun _ => checked_blames _

/-! ## Main statements -/

/-- A text is no match spec. -/
theorem text_ill_formed (plain : key ≠ "not") : ¬ IsWellFormedEntry key (.string text) := by
  intro formed
  cases formed with
  | negation => exact plain rfl
  | field _ spec => cases spec

/-- The rules for inputs are exact: what they accept resolves to one tree, whose predicate accepts
the documents that the input itself asks for, and what they leave out is refused as a fault of the
configuration. -/
theorem resolution (input : Criteria) :
    ((∃ filter, input.resolve = .ok filter) ↔ input.IsWellFormed) ∧
    (∀ error, input.resolve = .error error → ∃ fault, error = .config fault) ∧
    ∀ filter, input.resolve = .ok filter → ∃ accepts, filter.predicate = .ok accepts ∧
      ∀ document, accepts document = input.holds document := by
  refine ⟨⟨?_, ?_⟩, ?_, ?_⟩
  · rintro ⟨filter, done⟩
    exact well_formed_of_resolve done
  · intro formed
    obtain ⟨filter, done, -⟩ := resolves_of_well_formed formed
    exact ⟨filter, done⟩
  · intro error failed
    obtain ⟨fault, rfl⟩ := resolve_blames input error failed
    exact ⟨.filter fault, rfl⟩
  · intro filter done
    obtain ⟨same, again, asked⟩ := resolves_of_well_formed (well_formed_of_resolve done)
    cases done.symm.trans again
    exact ⟨_, Filter.predicate_of_check (resolve_checked done), asked⟩

/-- Whatever the reader that looks for an operator accepts, the one that tries the forms in turn
reads alike. Where the operator is a text, that one has nothing more to offer: what it reads is what
the other accepts or does not resolve. -/
theorem readings_agree (value : Value) :
    (∀ input, ofValue value = .ok input → read? value = some input) ∧
    ∀ entries op input, value = .object entries →
      Fields.get? entries "op" = some (.string op) → read? value = some input →
      ofValue value = .ok input ∨ ∃ fault, input.resolve = .error (.config fault) := by
  refine ⟨fun input => read_of_value, ?_⟩
  rintro entries op input rfl written read
  cases tree : Filter.read (.object entries) with
  | ok filter =>
    obtain ⟨first, second⟩ := read_tree tree
    cases first.symm.trans read
    exact .inl second
  | error fault =>
    cases (read_mapping tree).1.symm.trans read
    refine .inr ?_
    cases outcome : (Criteria.mapping entries).resolve with
    | ok filter =>
      cases well_formed_of_resolve outcome with
      | mapping each =>
        have plain : "op" ≠ "not" := by decide
        exact absurd (each _ (Fields.get_some_mem written)) (text_ill_formed plain)
    | error error =>
      obtain ⟨fault, rfl⟩ := resolve_blames _ error outcome
      exact ⟨.filter fault, rfl⟩

end Criteria

end SearchIndex
