import SearchIndex.Dialect.Formula

/-! The filters that Algolia evaluates: conjunctions of clauses, where a clause is one test or a
disjunction of tests of one kind. The shape of a filter is that of its formula once negation has
moved to the tests and combinations of nothing have folded away. -/
namespace SearchIndex.Algolia

/-- The kinds of tests that a disjunction may not mix. -/
inductive Kind where
  | facet
  | numeric
deriving DecidableEq, Repr

/-- The shape of a filter. -/
inductive Shape where
  | constant (value : Bool)
  | test (kind : Kind)
  | disjunction (kind : Kind)
  | conjunction
deriving DecidableEq, Repr

/-- The kind of a comparison: equality asks for a facet. -/
def Kind.ofComparison : Comparison → Kind
  | .eq | .ne => .facet
  | _ => .numeric

/-- The constant that a combination of nothing amounts to. -/
def identity : Combinator → Bool
  | .and => true
  | .or => false

/-- The kind of the tests in a part of a disjunction. -/
def Shape.kind : Shape → Except Error Kind
  | .test kind | .disjunction kind => .ok kind
  | .constant _ | .conjunction => .error (.ofFilter .andInsideOr)

/-- The shape of a disjunction of parts that follow parts of the given kind. -/
def disjunctionFrom (kind : Kind) : List Shape → Except Error Shape
  | [] => .ok (.disjunction kind)
  | part :: rest => do
    let other ← part.kind
    if other = kind then disjunctionFrom kind rest
    else .error (.ofFilter .mixedKindsInsideOr)

/-- The shape of a combination whose constant parts have folded away. -/
def combination (combinator : Combinator) : List Shape → Except Error Shape
  | [] => .ok (.constant (identity combinator))
  | [part] => .ok part
  | first :: rest =>
    match combinator with
    | .and => .ok .conjunction
    | .or => do disjunctionFrom (← first.kind) rest

mutual

/-- The shape of a filter, negated or not. -/
def shape (negated : Bool) : Filter → Except Error Shape
  | .not condition => shape (!negated) condition
  | .compare _ comparison _ => .ok (.test (.ofComparison comparison))
  | .between .. => .ok (.test .numeric)
  | .oneOf _ values =>
    if values.length ≤ 1 then .ok (.test .facet)
    else if negated then .ok .conjunction
    else .ok (.disjunction .facet)
  | .group combinator conditions => do
    let combinator := if negated then combinator.dual else combinator
    match ← shapes negated (identity combinator) conditions with
    | some parts => combination combinator parts
    | none => return .constant (!identity combinator)

/-- The shapes of the parts of a combination that are not constant, or none when a constant part
decides it. Parts behind that one are not looked at. -/
def shapes (negated : Bool) (identity : Bool) : List Filter → Except Error (Option (List Shape))
  | [] => .ok (some [])
  | condition :: rest => do
    match ← shape negated condition with
    | .constant value =>
      if value = identity then shapes negated identity rest else return none
    | part => do return (← shapes negated identity rest).map (part :: ·)

end

end SearchIndex.Algolia
