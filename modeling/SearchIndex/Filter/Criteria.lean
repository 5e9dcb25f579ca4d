import SearchIndex.Filter.Written

/-! Filters as callers give them: a tree, a list of which every member has to hold, or a mapping
from fields to what is asked of them. Each form resolves to one checked tree. -/
namespace SearchIndex

/-- A filter in one of the forms that callers use. -/
inductive Criteria where
  | tree (filter : Filter)
  | list (members : List Criteria)
  | mapping (entries : List (String × Value))

namespace Criteria

mutual

/-- The input that a value spells inside typed options: a tree if it reads as one, else a list
whose members all read, else a mapping. -/
def read? : Value → Option Criteria
  | .object entries =>
    match Filter.read (.object entries) with
    | .ok filter => some (.tree filter)
    | .error _ => some (.mapping entries)
  | .array items =>
    match Filter.read (.array items) with
    | .ok filter => some (.tree filter)
    | .error _ => do return .list (← readAll? items)
  | _ => none

/-- The inputs that the items of a list spell. -/
def readAll? : List Value → Option (List Criteria)
  | [] => some []
  | item :: rest => do
    let input ← read? item
    let inputs ← readAll? rest
    return input :: inputs

end

mutual

/-- The input that a value spells on its own: an object with an operator has to be a tree, any
other object is a mapping, and a list is taken member by member. -/
def ofValue : Value → Except Error Criteria
  | .object entries =>
    if (Fields.get? entries "op").isSome then
      match Filter.read (.object entries) with
      | .ok filter => .ok (.tree filter)
      | .error fault => .error (.ofFilter (.malformed fault))
    else .ok (.mapping entries)
  | .array items => do return .list (← ofValues items)
  | found => .error (.ofFilter (.notFilters found))

/-- The inputs that values spell on their own. -/
def ofValues : List Value → Except Error (List Criteria)
  | [] => .ok []
  | item :: rest => do
    let input ← ofValue item
    let inputs ← ofValues rest
    return input :: inputs

end

mutual

/-- The written form. -/
def toValue : Criteria → Value
  | .tree filter => filter.toValue
  | .list members => .array (toValues members)
  | .mapping entries => .object entries

/-- The written forms of inputs. -/
def toValues : List Criteria → List Value
  | [] => []
  | member :: rest => member.toValue :: toValues rest

end

end Criteria

namespace Mapping

/-- The comparison with a name in a mapping. -/
def comparison? (operator : String) : Option Comparison :=
  if operator = "eq" then some .eq
  else if operator = "neq" then some .ne
  else if operator = "lt" then some .lt
  else if operator = "lte" then some .le
  else if operator = "gt" then some .gt
  else if operator = "gte" then some .ge
  else none

/-- What one operator asks of a field. -/
def requirement (field operator : String) (value : Value) : Except Error Filter :=
  if value.isNull then .error (.ofFilter (.noLiteral operator field))
  else
    match comparison? operator with
    | some comparison => .ok (.compare field comparison value)
    | none =>
      if operator = "in" then
        match value with
        | .array values => .ok (.oneOf field values)
        | _ => .error (.ofFilter (.notChoices field))
      else if operator = "between" then
        match value with
        | .array [low, high] => .ok (.between field low high)
        | _ => .error (.ofFilter (.notBounds field))
      else .error (.ofFilter (.unknownOperator operator field))

/-- What the operators of a match spec ask of a field, in order. -/
def requirements (field : String) : List (String × Value) → Except Error (List Filter)
  | [] => .ok []
  | (operator, value) :: rest => do
    let filter ← requirement field operator value
    let filters ← requirements field rest
    return filter :: filters

/-- The filters that a match spec asks of a field. -/
def spec (field : String) : Value → Except Error (List Filter)
  | .object [] => .error (.ofFilter (.emptySpec field))
  | .object operators => requirements field operators
  | _ => .error (.ofFilter (.notSpec field))

mutual

/-- The clauses of a mapping, in order: `and` and `or` take a list of inputs, `not` takes one
input, and any other key is a field with a match spec. -/
def clauses : List (String × Value) → Except Error (List Filter)
  | [] => .ok []
  | (key, value) :: rest => do
    let first ←
      if key = "and" then (conditions key value).map fun parts => [.group .and parts]
      else if key = "or" then (conditions key value).map fun parts => [.group .or parts]
      else if key = "not" then (nested value).map fun part => [.not part]
      else spec key value
    let others ← clauses rest
    return first ++ others

/-- The conditions in the list under a combinator. -/
def conditions (key : String) : Value → Except Error (List Filter)
  | .array items => nestedAll items
  | _ => .error (.ofFilter (.notConditions key))

/-- The checked filter that an input inside a mapping stands for. The members of a list are all
read before the first is resolved. -/
def nested : Value → Except Error Filter
  | .object entries => do
    match ← Criteria.ofValue (.object entries) with
    | .tree filter => filter.checked
    | _ => (Filter.allOf (← clauses entries)).checked
  | .array items => do
    let _ ← Criteria.ofValues items
    (Filter.allOf (← nestedAll items)).checked
  | found => .error (.ofFilter (.notFilters found))

/-- The checked filters that inputs inside a mapping stand for. -/
def nestedAll : List Value → Except Error (List Filter)
  | [] => .ok []
  | item :: rest => do
    let filter ← nested item
    let filters ← nestedAll rest
    return filter :: filters

end

end Mapping

namespace Criteria

mutual

/-- The one checked tree that an input stands for. A list or a mapping asks for all that it
holds. -/
def resolve : Criteria → Except Error Filter
  | .tree filter => filter.checked
  | .list members => do (Filter.allOf (← resolveAll members)).checked
  | .mapping entries => do (Filter.allOf (← Mapping.clauses entries)).checked

/-- The trees that inputs stand for. -/
def resolveAll : List Criteria → Except Error (List Filter)
  | [] => .ok []
  | member :: rest => do
    let filter ← member.resolve
    let filters ← resolveAll rest
    return filter :: filters

end

end Criteria

end SearchIndex
