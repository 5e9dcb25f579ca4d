import SearchIndex.Filter.Basic

/-! The written form of a filter tree. A node is a record of six parts, of which each operator
uses some; parts may be given by name or in order, and a null part counts as absent. Writing names
the parts that the operator uses. -/
namespace SearchIndex.Filter

/-- The parts of a written node, in order. -/
def partNames : List String := ["op", "field", "value", "values", "conditions", "condition"]

/-- A written node as far as it has been read. -/
structure Node where
  op : Option String
  field : Option String
  value : Option Value
  values : Option (List Value)
  conditions : Option (List Filter)
  condition : Option Filter

namespace Node

/-- A node without parts. -/
def empty : Node := ⟨none, none, none, none, none, none⟩

/-- The node with a part that holds no filters. Other names are ignored. -/
def withPart (node : Node) (name : String) (value : Value) : Except NodeFault Node :=
  if name = "op" then
    match value with
    | .string op => .ok { node with op := some op }
    | _ => .error .shape
  else if name = "field" then
    match value with
    | .null => .ok node
    | .string field => .ok { node with field := some field }
    | _ => .error .shape
  else if name = "value" then
    match value with
    | .null => .ok node
    | value => .ok { node with value := some value }
  else if name = "values" then
    match value with
    | .null => .ok node
    | .array values => .ok { node with values := some values }
    | _ => .error .shape
  else .ok node

/-- A part that the operator needs. -/
def need (op name : String) : Option α → Except NodeFault α
  | some part => .ok part
  | none => .error (.missing op name)

/-- The filter that the parts of a node make up. -/
def filter (node : Node) : Except NodeFault Filter :=
  match node.op with
  | none => .error .shape
  | some op =>
    match Comparison.ofSymbol? op with
    | some comparison => do
      let field ← need op "field" node.field
      let value ← need op "value" node.value
      return .compare field comparison value
    | none =>
      if op = "in" then do
        let field ← need op "field" node.field
        let values ← need op "values" node.values
        return .oneOf field values
      else if op = "between" then do
        let field ← need op "field" node.field
        let values ← need op "values" node.values
        match values with
        | [low, high] => return .between field low high
        | _ => .error (.boundCount field values.length)
      else if op = "not" then do
        return .not (← need op "condition" node.condition)
      else
        match Combinator.ofName? op with
        | some combinator => do
          return .group combinator (← need op "conditions" node.conditions)
        | none => .error (.unknownOp op)

end Node

mutual

/-- The filter that a value spells. Faults are found in the order in which parts are written, and
those of the node as a whole after those of its parts. -/
def read : Value → Except NodeFault Filter
  | .object entries => do (← readEntries .empty entries).filter
  | .array items => do (← readItems partNames .empty items).filter
  | _ => .error .shape

/-- The filters that the items of a list spell. -/
def readAll : List Value → Except NodeFault (List Filter)
  | [] => .ok []
  | item :: rest => do
    let filter ← read item
    let filters ← readAll rest
    return filter :: filters

/-- The filters in a list, or none in place of null. -/
def readConditions : Value → Except NodeFault (Option (List Filter))
  | .null => .ok none
  | .array items => do return some (← readAll items)
  | _ => .error .shape

/-- A node with the parts that entries name. -/
def readEntries (node : Node) : List (String × Value) → Except NodeFault Node
  | [] => .ok node
  | (name, value) :: rest =>
    if name = "conditions" then do
      let conditions ← readConditions value
      readEntries { node with conditions } rest
    else if name = "condition" then
      if value.isNull then readEntries node rest
      else do
        let condition ← read value
        readEntries { node with condition := some condition } rest
    else do
      let node ← node.withPart name value
      readEntries node rest

/-- A node with the parts that items give, in the order of the names. -/
def readItems (names : List String) (node : Node) : List Value → Except NodeFault Node
  | [] => .ok node
  | value :: rest =>
    match names with
    | [] => .error .shape
    | name :: names =>
      if name = "conditions" then do
        let conditions ← readConditions value
        readItems names { node with conditions } rest
      else if name = "condition" then
        if value.isNull then readItems names node rest
        else do
          let condition ← read value
          readItems names { node with condition := some condition } rest
      else do
        let node ← node.withPart name value
        readItems names node rest

end

mutual

/-- The written form, as a record of the parts that the operator uses. -/
def toValue : Filter → Value
  | .compare field comparison value =>
    .object [("op", .string comparison.symbol), ("field", .string field), ("value", value)]
  | .oneOf field values =>
    .object [("op", .string "in"), ("field", .string field), ("values", .array values)]
  | .between field low high =>
    .object [("op", .string "between"), ("field", .string field), ("values", .array [low, high])]
  | .group combinator conditions =>
    .object [("op", .string combinator.name), ("conditions", .array (toValues conditions))]
  | .not condition => .object [("op", .string "not"), ("condition", condition.toValue)]

/-- The written forms of filters. -/
def toValues : List Filter → List Value
  | [] => []
  | filter :: rest => filter.toValue :: toValues rest

end

end SearchIndex.Filter
