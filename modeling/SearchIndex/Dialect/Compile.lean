import SearchIndex.Dialect.Shape

/-! Compiling a filter into a formula of a service's filter language. Negation moves inwards as far
as the language asks for, and combinations of nothing fold away, as no language has a word for
true or false. -/
namespace SearchIndex

/-- What a filter compiles to: every document, no document, or those that satisfy a formula. -/
inductive Compiled where
  | everything
  | nothing
  | expression (formula : Formula)

namespace Compiled

/-- The combination of nothing. -/
def identity : Combinator → Compiled
  | .and => .everything
  | .or => .nothing

/-- Whether a part decides a combination on its own. -/
def decides : Combinator → Compiled → Bool
  | .and, .nothing => true
  | .or, .everything => true
  | _, _ => false

/-- The formula, if there is one. -/
def formula? : Compiled → Option Formula
  | .expression formula => some formula
  | _ => none

/-- The combination of compiled parts. -/
def combine (combinator : Combinator) (parts : List Compiled) : Compiled :=
  if parts.any (decides combinator) then identity combinator.dual
  else
    match parts.filterMap formula? with
    | [] => identity combinator
    | formulas => .expression (.chain combinator formulas)

/-- The negation by a word before the bracketed formula. -/
def negate : Compiled → Compiled
  | .everything => .nothing
  | .nothing => .everything
  | .expression formula => .expression (.notGroup formula)

end Compiled

namespace Backend

/-- How many combinations and negations may stand above a node. -/
def depthLimit : Nat := 32

/-- A node may not stand too deep. -/
def checkDepth (depth : Nat) : Except Error Unit :=
  if depthLimit < depth then .error (.ofFilter (.tooDeep depthLimit)) else .ok ()

/-- The literal that a value spells in a clause on a field. -/
def literal (backend : Backend) (field : String) : Value → Except Error Literal
  | .string text =>
    if backend = .typesense ∧ '\x60' ∈ text.toList then .error (.ofFilter (.backtick field))
    else .ok (.text text)
  | .number number => .ok (.number number)
  | .bool value => .ok (.bool value)
  | .null => .error (.ofFilter (.noOperand field))
  | .array _ | .object _ => .error (.ofFilter (.compositeOperand backend field))

/-- The literals that values spell in a clause on a field. -/
def literals (backend : Backend) (field : String) : List Value → Except Error (List Literal)
  | [] => .ok []
  | value :: rest => do
    let first ← backend.literal field value
    let others ← backend.literals field rest
    return first :: others

/-- A comparison, negated or not. -/
def comparison (backend : Backend) (negated : Bool) (field : String) (comparison : Comparison)
    (literal : Literal) : Formula :=
  let clause := Clause.compare field comparison literal
  if !negated then .clause clause
  else if comparison = .ne then .clause (.compare field .eq literal)
  else
    match backend.negation with
    | .complement => .clause (.compare field comparison.complement literal)
    | .group => .notGroup (.clause clause)
    | .clause => .notClause clause

/-- Membership in a list, negated or not. -/
def membership (backend : Backend) (negated : Bool) (field : String) (literals : List Literal) :
    Formula :=
  if !negated then .clause (.oneOf field literals)
  else
    match backend.negation with
    | .group => .notGroup (.clause (.oneOf field literals))
    | _ => .clause (.noneOf field literals)

/-- A range, negated or not. -/
def range (backend : Backend) (negated : Bool) (field : String) (low high : Literal) : Formula :=
  let clause := Clause.between field low high
  if !negated then .clause clause
  else
    match backend.negation with
    | .group => .notGroup (.clause clause)
    | .clause => .notClause clause
    | .complement =>
      .chain .or [.clause (.compare field .lt low), .clause (.compare field .gt high)]

mutual

/-- A filter below `depth` combinations and negations, negated or not. -/
def compileNode (backend : Backend) (negated : Bool) (depth : Nat) :
    Filter → Except Error Compiled
  | .not condition => do
    checkDepth depth
    compileNode backend (!negated) (depth + 1) condition
  | .group combinator conditions => do
    checkDepth depth
    if negated && backend.negation == .group then
      let parts ← compileNodes backend false (depth + 1) conditions
      return (Compiled.combine combinator parts).negate
    else
      let parts ← compileNodes backend negated (depth + 1) conditions
      return Compiled.combine (if negated then combinator.dual else combinator) parts
  | .compare field comparison value => do
    checkDepth depth
    let literal ← backend.literal field value
    return .expression (backend.comparison negated field comparison literal)
  | .oneOf field values => do
    checkDepth depth
    if values.isEmpty then .error (.ofFilter (.noChoices field))
    else
      let literals ← backend.literals field values
      return .expression (backend.membership negated field literals)
  | .between field low high => do
    checkDepth depth
    let low ← backend.literal field low
    let high ← backend.literal field high
    return .expression (backend.range negated field low high)

/-- The parts of a combination. -/
def compileNodes (backend : Backend) (negated : Bool) (depth : Nat) :
    List Filter → Except Error (List Compiled)
  | [] => .ok []
  | condition :: rest => do
    let part ← compileNode backend negated depth condition
    let parts ← compileNodes backend negated depth rest
    return part :: parts

end

/-- A filter the service can evaluate once it is written as a formula. -/
def checkShape : Backend → Filter → Except Error Unit
  | .algolia, filter => do
    let _ ← Algolia.shape false filter
    return ()
  | _, _ => .ok ()

/-- The compiled form of a filter; without a filter every document is meant. -/
def compile (backend : Backend) : Option Filter → Except Error Compiled
  | none => .ok .everything
  | some filter => do
    match ← backend.compileNode false 0 filter with
    | .expression formula => do
      backend.checkShape filter
      return .expression formula
    | constant => return constant

end Backend

end SearchIndex
