import SearchIndex.Document
import SearchIndex.Filter.Basic
import SearchIndex.Value.Order

/-! Which documents a filter accepts. A field that holds a list is asked for some item that is not
null; an absent field has nothing to offer, so it satisfies only inequality. -/
namespace SearchIndex

/-- Whether a field offers a value that passes a test. -/
def offers (test : Value → Bool) : Option Value → Bool
  | none => false
  | some (.array items) => items.any fun item => !item.isNull && test item
  | some value => test value

namespace Comparison

/-- Whether an order between a value and a literal satisfies the comparison. -/
def accepts : Comparison → Ordering → Bool
  | .eq, order => order == .eq
  | .ne, order => order != .eq
  | .lt, order => order == .lt
  | .le, order => order != .gt
  | .gt, order => order == .gt
  | .ge, order => order != .lt

/-- Whether what a field holds compares so with a literal. -/
def holds (comparison : Comparison) (literal : Value) (found : Option Value) : Bool :=
  match comparison with
  | .eq => offers (fun value => value.equal literal) found
  | .ne => !offers (fun value => value.equal literal) found
  | comparison =>
    offers (fun value =>
      match value.order? literal with
      | some order => comparison.accepts order
      | none => false) found

end Comparison

/-- Whether what a field holds is among some literals. -/
def holdsOneOf (literals : List Value) (found : Option Value) : Bool :=
  offers (fun value => literals.any fun literal => value.equal literal) found

/-- Whether what a field holds lies between two literals or equals one of them. -/
def holdsBetween (low high : Value) (found : Option Value) : Bool :=
  offers (fun value =>
    (match value.order? low with
      | some order => order != .lt
      | none => false) &&
    (match value.order? high with
      | some order => order != .gt
      | none => false)) found

namespace Filter

mutual

/-- Whether the filter accepts a document. -/
def holds (document : Document) : Filter → Bool
  | .compare field comparison value => comparison.holds value (document.get? field)
  | .oneOf field values => holdsOneOf values (document.get? field)
  | .between field low high => holdsBetween low high (document.get? field)
  | .group .and conditions => holdsAll document conditions
  | .group .or conditions => holdsSome document conditions
  | .not condition => !holds document condition

/-- Whether all filters accept a document. -/
def holdsAll (document : Document) : List Filter → Bool
  | [] => true
  | condition :: rest => holds document condition && holdsAll document rest

/-- Whether some filter accepts a document. -/
def holdsSome (document : Document) : List Filter → Bool
  | [] => false
  | condition :: rest => holds document condition || holdsSome document rest

end

/-- The test that a filter makes of documents, if the filter passes its check. -/
def predicate (filter : Filter) : Except Error (Document → Bool) := do
  filter.check
  return fun document => filter.holds document

end Filter

end SearchIndex
