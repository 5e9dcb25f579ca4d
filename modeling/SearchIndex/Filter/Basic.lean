import SearchIndex.Error

/-! Filters over documents: comparisons of a field with a literal, membership in a list, ranges
with both ends included, and their combinations. A filter may hold any value where a literal is
meant; `check` says whether each place holds a string, a number or a boolean. -/
namespace SearchIndex

/-- How a field is compared with a literal. -/
inductive Comparison where
  | eq
  | ne
  | lt
  | le
  | gt
  | ge
deriving DecidableEq, Repr

namespace Comparison

/-- The written form. -/
def symbol : Comparison → String
  | .eq => "="
  | .ne => "!="
  | .lt => "<"
  | .le => "<="
  | .gt => ">"
  | .ge => ">="

/-- The comparison with a written form. -/
def ofSymbol? (text : String) : Option Comparison :=
  [eq, ne, lt, le, gt, ge].find? fun comparison => comparison.symbol == text

/-- The comparison that accepts exactly the present values which this one rejects. -/
def complement : Comparison → Comparison
  | .eq => .ne
  | .ne => .eq
  | .lt => .ge
  | .le => .gt
  | .gt => .le
  | .ge => .lt

end Comparison

/-- How filters are combined. -/
inductive Combinator where
  | and
  | or
deriving DecidableEq, Repr

namespace Combinator

/-- The written form. -/
def name : Combinator → String
  | .and => "and"
  | .or => "or"

/-- The combinator with a written form. -/
def ofName? (text : String) : Option Combinator :=
  [and, or].find? fun combinator => combinator.name == text

/-- The combinator that negation turns this one into. -/
def dual : Combinator → Combinator
  | .and => .or
  | .or => .and

end Combinator

/-- A filter. A conjunction of nothing accepts every document and a disjunction of nothing
accepts none. -/
inductive Filter where
  | compare (field : String) (comparison : Comparison) (value : Value)
  | oneOf (field : String) (values : List Value)
  | between (field : String) (low high : Value)
  | group (combinator : Combinator) (conditions : List Filter)
  | not (condition : Filter)

namespace Filter

/-- A conjunction, which for a single condition is that condition. -/
def allOf : List Filter → Filter
  | [condition] => condition
  | conditions => .group .and conditions

/-- A place for a literal has to hold a string, a number or a boolean. -/
def requireLiteral (operator field : String) : Value → Except Error Unit
  | .null => .error (.ofFilter (.noLiteral operator field))
  | .array _ | .object _ => .error (.ofFilter (.compositeLiteral operator field))
  | .bool _ | .number _ | .string _ => .ok ()

/-- All places hold literals; otherwise the first that does not is the error. -/
def requireLiterals (operator field : String) : List Value → Except Error Unit
  | [] => .ok ()
  | value :: rest => do
    requireLiteral operator field value
    requireLiterals operator field rest

mutual

/-- Every place for a literal holds one, and every list of choices has at least one. -/
def check : Filter → Except Error Unit
  | .compare field comparison value => requireLiteral comparison.symbol field value
  | .oneOf field values =>
    if values.isEmpty then .error (.ofFilter (.noChoices field))
    else requireLiterals "in" field values
  | .between field low high => do
    requireLiteral "between" field low
    requireLiteral "between" field high
  | .group _ conditions => checkAll conditions
  | .not condition => condition.check

/-- Every filter passes the check; otherwise the first that does not gives the error. -/
def checkAll : List Filter → Except Error Unit
  | [] => .ok ()
  | condition :: rest => do
    condition.check
    checkAll rest

end

/-- The filter itself if it passes the check. -/
def checked (filter : Filter) : Except Error Filter := do
  filter.check
  return filter

end Filter

end SearchIndex
