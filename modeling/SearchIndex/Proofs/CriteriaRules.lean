import SearchIndex.Filter.Criteria
import SearchIndex.Proofs.CompileMeaning
import SearchIndex.Proofs.CompileSuccess

/-! What callers may write for filters, and what that asks of a document. Both are said over the
forms in which filters are given, without resolving them. The match specs that the rules accept are
those that turn into valid conditions, and these have the meaning of the spec. -/
namespace SearchIndex

/-! ## What may be written -/

/-- The values that stand for literals. -/
inductive Value.IsLiteral : Value → Prop
  | bool (value : Bool) : IsLiteral (.bool value)
  | number (value : Number) : IsLiteral (.number value)
  | string (text : String) : IsLiteral (.string text)

/-- The operators of match specs with what they may be given: a literal to compare with, one or more
literals to choose from, or two literals as bounds. -/
inductive Mapping.IsRequirement : String → Value → Prop
  | comparison (name : operator ∈ ["eq", "neq", "lt", "lte", "gt", "gte"])
      (literal : value.IsLiteral) : IsRequirement operator value
  | choices (inhabited : values ≠ []) (each : ∀ value ∈ values, value.IsLiteral) :
      IsRequirement "in" (.array values)
  | bounds (least : low.IsLiteral) (greatest : high.IsLiteral) :
      IsRequirement "between" (.array [low, high])

/-- A match spec is a record of one operator or more. -/
inductive Mapping.IsSpec : Value → Prop
  | operators (inhabited : operators ≠ [])
      (each : ∀ entry ∈ operators, Mapping.IsRequirement entry.1 entry.2) :
      IsSpec (.object operators)

mutual

/-- Inputs that stand for a tree: trees that pass their check, lists of such inputs, and mappings
whose entries are well formed. -/
inductive Criteria.IsWellFormed : Criteria → Prop
  | tree (valid : filter.check = .ok ()) : IsWellFormed (.tree filter)
  | list (each : ∀ member ∈ members, IsWellFormed member) : IsWellFormed (.list members)
  | mapping (each : ∀ entry ∈ entries, IsWellFormedEntry entry.1 entry.2) :
      IsWellFormed (.mapping entries)

/-- Entries of a mapping: a list of inputs under `and` or `or`, one input under `not`, and a match
spec under any other key. -/
inductive Criteria.IsWellFormedEntry : String → Value → Prop
  | group (combines : key = "and" ∨ key = "or") (accepted : Criteria.ofValues items = .ok inputs)
      (each : ∀ input ∈ inputs, IsWellFormed input) : IsWellFormedEntry key (.array items)
  | negation (accepted : Criteria.ofValue value = .ok input) (inside : IsWellFormed input) :
      IsWellFormedEntry "not" value
  | field (plain : key ≠ "and" ∧ key ≠ "or" ∧ key ≠ "not") (spec : Mapping.IsSpec value) :
      IsWellFormedEntry key value

end

/-! ## What is asked of a document -/

namespace Mapping

/-- Whether what a field holds meets an operator with its operand. -/
def meetsRequirement (found : Option Value) : String → Value → Bool
  | "eq", literal => Comparison.eq.holds literal found
  | "neq", literal => Comparison.ne.holds literal found
  | "lt", literal => Comparison.lt.holds literal found
  | "lte", literal => Comparison.le.holds literal found
  | "gt", literal => Comparison.gt.holds literal found
  | "gte", literal => Comparison.ge.holds literal found
  | "in", .array values => holdsOneOf values found
  | "between", .array [low, high] => holdsBetween low high found
  | _, _ => false

/-- Whether what a field holds meets all operators of a match spec. -/
def meetsSpec (found : Option Value) : Value → Bool
  | .object operators => operators.all fun entry => meetsRequirement found entry.1 entry.2
  | _ => false

end Mapping

namespace Criteria

mutual

/-- Whether a document meets what a value asks for on its own. -/
def meets (document : Document) : Value → Bool
  | .object entries =>
    match ofValue (.object entries) with
    | .ok (.tree filter) => filter.holds document
    | _ => (meetsEntries document entries).all id
  | .array items => (meetsEach document items).all id
  | _ => false

/-- Which of some values a document meets. -/
def meetsEach (document : Document) : List Value → List Bool
  | [] => []
  | item :: rest => meets document item :: meetsEach document rest

/-- Whether a document meets the values in a list, joined by a combinator. -/
def meetsGroup (document : Document) (combinator : Combinator) : Value → Bool
  | .array items => combinator.join (meetsEach document items)
  | _ => false

/-- Whether a document meets an entry of a mapping. -/
def meetsEntry (document : Document) : String × Value → Bool
  | (key, value) =>
    if key = "and" then meetsGroup document .and value
    else if key = "or" then meetsGroup document .or value
    else if key = "not" then !meets document value
    else Mapping.meetsSpec (document.get? key) value

/-- Which of some entries of a mapping a document meets. -/
def meetsEntries (document : Document) : List (String × Value) → List Bool
  | [] => []
  | entry :: rest => meetsEntry document entry :: meetsEntries document rest

end

mutual

/-- Whether a document meets an input. A list and a mapping ask for all that they hold. -/
def holds (document : Document) : Criteria → Bool
  | .tree filter => filter.holds document
  | .list members => (holdsEach document members).all id
  | .mapping entries => (meetsEntries document entries).all id

/-- Which of some inputs a document meets. -/
def holdsEach (document : Document) : List Criteria → List Bool
  | [] => []
  | member :: rest => member.holds document :: holdsEach document rest

end

end Criteria

/-! ## Match specs -/

theorem require_literal_ok {value : Value} :
    Filter.requireLiteral operator field value = .ok () ↔ value.IsLiteral := by
  cases value with
  | null | array | object => exact ⟨nofun, nofun⟩
  | bool value => exact ⟨fun _ => .bool value, fun _ => rfl⟩
  | number value => exact ⟨fun _ => .number value, fun _ => rfl⟩
  | string text => exact ⟨fun _ => .string text, fun _ => rfl⟩

theorem check_one_of_ok :
    (Filter.oneOf field values).check = .ok () ↔
      values ≠ [] ∧ ∀ value ∈ values, value.IsLiteral := by
  cases values with
  | nil => simp [Filter.check]
  | cons value rest => simp [Filter.check, Filter.requireLiterals, except_then_ok,
      Filter.require_literals_ok, require_literal_ok]

theorem check_between_ok :
    (Filter.between field low high).check = .ok () ↔ low.IsLiteral ∧ high.IsLiteral := by
  rw [Filter.check, except_then_ok, require_literal_ok, require_literal_ok]

namespace Mapping

/-- What a well-formed operator asks of a field is a valid filter with that meaning. -/
theorem requirement_of_well_formed (given : IsRequirement operator value) (field : String) :
    ∃ filter, requirement field operator value = .ok filter ∧ filter.check = .ok () ∧
      ∀ document, filter.holds document =
        meetsRequirement (document.get? field) operator value := by
  cases given with
  | comparison name literal =>
    simp only [List.mem_cons, List.not_mem_nil, or_false] at name
    rcases name with rfl | rfl | rfl | rfl | rfl | rfl <;> cases literal <;>
      exact ⟨_, rfl, rfl, fun _ => rfl⟩
  | choices inhabited each =>
    exact ⟨_, rfl, check_one_of_ok.mpr ⟨inhabited, each⟩, fun _ => rfl⟩
  | bounds least greatest =>
    exact ⟨_, rfl, check_between_ok.mpr ⟨least, greatest⟩, fun _ => rfl⟩

theorem comparison_name (known : comparison? operator = some comparison) :
    operator ∈ ["eq", "neq", "lt", "lte", "gt", "gte"] := by
  by_contra other
  simp only [List.mem_cons, List.not_mem_nil, or_false, not_or] at other
  simp [comparison?, other] at known

theorem well_formed_of_requirement (made : requirement field operator value = .ok filter)
    (valid : filter.check = .ok ()) : IsRequirement operator value := by
  unfold requirement at made
  split at made
  · cases made
  · split at made
    · rename_i known
      cases made
      exact .comparison (comparison_name known) (require_literal_ok.mp valid)
    · split at made
      · rename_i name
        subst name
        split at made <;> cases made
        obtain ⟨inhabited, each⟩ := check_one_of_ok.mp valid
        exact .choices inhabited each
      · split at made
        · rename_i name
          subst name
          split at made <;> cases made
          obtain ⟨least, greatest⟩ := check_between_ok.mp valid
          exact .bounds least greatest
        · cases made

theorem requirements_ok {operators : List (String × Value)} {filters : List Filter} :
    requirements field operators = .ok filters ↔
      List.Forall₂ (fun entry filter => requirement field entry.1 entry.2 = .ok filter)
        operators filters :=
  each_ok (fun entry => requirement field entry.1 entry.2) (requirements field) rfl fun _ _ => rfl

theorem spec_of_well_formed (given : IsSpec value) (field : String) :
    ∃ filters, spec field value = .ok filters ∧ (∀ filter ∈ filters, filter.check = .ok ()) ∧
      ∀ document, (filters.map (Filter.holds document)).all id =
        meetsSpec (document.get? field) value := by
  cases given with
  | operators inhabited each =>
    rename_i operators
    have made : ∀ entry ∈ operators, ∃ filter, requirement field entry.1 entry.2 = .ok filter ∧
        filter.check = .ok () ∧ ∀ document, filter.holds document =
          meetsRequirement (document.get? field) entry.1 entry.2 :=
      fun entry member => requirement_of_well_formed (each entry member) field
    obtain ⟨filters, known⟩ := exists_forall₂_iff.mpr made
    refine ⟨filters, ?_, forall₂_right (known.imp fun _ _ one => one.2.1), fun document => ?_⟩
    · cases operators with
      | nil => exact absurd rfl inhabited
      | cons entry rest => exact requirements_ok.mpr (known.imp fun _ _ one => one.1)
    · rw [map_eq_of_forall₂ (known.imp fun _ _ one => one.2.2 document), List.all_map]
      rfl

theorem well_formed_of_spec (made : spec field value = .ok filters)
    (valid : ∀ filter ∈ filters, filter.check = .ok ()) : IsSpec value := by
  unfold spec at made
  split at made
  · cases made
  · rename_i operators inhabited
    refine .operators inhabited fun entry member => ?_
    obtain ⟨filter, inside, asked⟩ := mem_of_forall₂ (requirements_ok.mp made) entry member
    exact well_formed_of_requirement asked (valid filter inside)
  · cases made

end Mapping

/-! ## Checked trees -/

theorem checked_ok {filter outcome : Filter} :
    filter.checked = .ok outcome ↔ filter.check = .ok () ∧ filter = outcome := by
  simp [Filter.checked, except_then_ok, pure, Except.pure]

/-- A conjunction passes its check when all conditions do. -/
theorem check_all_of_ok {conditions : List Filter} :
    (Filter.allOf conditions).check = .ok () ↔
      ∀ condition ∈ conditions, condition.check = .ok () := by
  match conditions with
  | [] => exact ⟨nofun, fun _ => rfl⟩
  | [condition] => simp [Filter.allOf]
  | first :: second :: rest => exact Filter.check_all_ok _

theorem all_of_holds (document : Document) (conditions : List Filter) :
    (Filter.allOf conditions).holds document =
      (conditions.map (Filter.holds document)).all id := by
  match conditions with
  | [] => rfl
  | [condition] => simp [Filter.allOf]
  | first :: second :: rest => exact group_holds document .and (first :: second :: rest)

end SearchIndex
