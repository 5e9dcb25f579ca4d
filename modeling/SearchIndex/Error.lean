import SearchIndex.Backend
import SearchIndex.Value.Text

/-! Why an operation fails. An error is its cause; the wording of every cause is in this module.
The first four kinds are the caller's: they are found in what the caller wrote. -/
namespace SearchIndex

/-- Why a written filter node is no filter. -/
inductive NodeFault where
  /-- The node has too many parts, no operator or a part of the wrong type. -/
  | shape
  | unknownOp (op : String)
  | missing (op part : String)
  | boundCount (field : String) (count : Nat)

/-- Why a filter cannot be read, resolved, checked or compiled. -/
inductive FilterFault where
  /-- A written tree is no filter. -/
  | malformed (node : NodeFault)
  | notFilters (found : Value)
  | notConditions (key : String)
  | notSpec (field : String)
  | emptySpec (field : String)
  | notChoices (field : String)
  | notBounds (field : String)
  | unknownOperator (operator field : String)
  /-- An operator has null in place of a literal. -/
  | noLiteral (operator field : String)
  /-- An operator has a list or a record in place of a literal. -/
  | compositeLiteral (operator field : String)
  | noChoices (field : String)
  /-- A clause to be rendered has null in place of a literal. -/
  | noOperand (field : String)
  /-- A clause to be rendered has a list or a record in place of a literal. -/
  | compositeOperand (backend : Backend) (field : String)
  | backtick (field : String)
  | tooDeep (limit : Nat)
  | andInsideOr
  | mixedKindsInsideOr

/-- Why settings cannot be used. -/
inductive SettingsFault where
  | pageSize (name text : String)
  | notSet (name : String)
  | unknownAdapter (name : String)
  | noNode
  | noQueryFields

/-- Why search options cannot be used. -/
inductive OptionsFault where
  | negativePage (page : Int)
  | notPage (text : String)
  | other (text : String)

/-- Why a value is no document. -/
inductive DocumentFault where
  | notObject
  | idNotText (found : Value)
  | notObjectFrom (backend : Backend) (found : Value)
  | other (text : String)

/-- Why a configuration or a filter is refused. -/
inductive ConfigFault where
  | filter (fault : FilterFault)
  | settings (fault : SettingsFault)
  | other (text : String)

/-- The failure of an operation. -/
inductive Error where
  | config (fault : ConfigFault)
  | options (fault : OptionsFault)
  | document (fault : DocumentFault)
  | missingField (name : String)
  /-- The service answered with a status that is no success. -/
  | http (backend : Backend) (status : Nat) (body : String)
  /-- The service took the request and refused a part of it. -/
  | rejected (backend : Backend) (reason : String)
  /-- No answer came from the service. -/
  | transport (reason : String)
  /-- Text or a value does not have the expected form. -/
  | decoding (reason : String)

/-- What stands in front of the wording of a configuration fault. -/
def configHeading : String := "Configuration error: "

/-- What is told of a fault of a written node: nothing of its shape, and else its wording. -/
def NodeFault.detail : NodeFault → String
  | .shape => ""
  | .unknownOp op => s!": {configHeading}Unknown filter op '{op}'"
  | .missing op part => s!": {configHeading}Filter with op '{op}' is missing '{part}'"
  | .boundCount field count =>
    s!": {configHeading}Operator 'between' on field '{field}' takes exactly two values, got {count}"

/-- The wording of a fault of a filter. -/
def FilterFault.message : FilterFault → String
  | .malformed node => s!"Malformed filter{node.detail}"
  | .notFilters found => s!"Expected a filter object or list, got {found.text}"
  | .notConditions key => s!"'{key}' expects a list of filters"
  | .notSpec field => s!"Field '{field}' expects a match spec such as \x7b\"eq\": ...\x7d"
  | .emptySpec field => s!"Match spec for field '{field}' has no operator"
  | .notChoices field => s!"Operator 'in' on field '{field}' expects a list"
  | .notBounds field => s!"Operator 'between' on field '{field}' expects [min, max]"
  | .unknownOperator operator field => s!"Unknown operator '{operator}' for field '{field}'"
  | .noLiteral operator field => s!"Operator '{operator}' on field '{field}' requires a value"
  | .compositeLiteral operator field =>
    s!"Operator '{operator}' on field '{field}' only accepts string, number or boolean values"
  | .noChoices field => s!"Operator 'in' on field '{field}' requires at least one value"
  | .noOperand field => s!"Filter on field '{field}' requires a value"
  | .compositeOperand backend field =>
    s!"{backend.dialectName} filters on field '{field}' only accept string, number or " ++
      "boolean values"
  | .backtick field =>
    s!"typesense filters cannot express a backtick in the value for field '{field}'"
  | .tooDeep limit => s!"Filter nesting exceeds {limit} levels"
  | .andInsideOr => "algolia filters cannot nest AND inside OR"
  | .mixedKindsInsideOr =>
    "algolia filters cannot mix facet and numeric filters inside OR"

/-- The wording of a fault of settings. -/
def SettingsFault.message : SettingsFault → String
  | .pageSize name text => s!"{name} must be a positive integer, got '{text}'"
  | .notSet name => s!"{name} is not set"
  | .unknownAdapter name => s!"Unknown adapter '{name}'"
  | .noNode => "Typesense needs at least one node"
  | .noQueryFields => "Typesense needs at least one query_by field"

/-- The wording of a fault of search options. -/
def OptionsFault.message : OptionsFault → String
  | .negativePage page => s!"page must not be negative, got {page}"
  | .notPage text => s!"page must be a non-negative integer, got '{text}'"
  | .other text => text

/-- The wording of a fault of a document. -/
def DocumentFault.message : DocumentFault → String
  | .notObject => "Expected JSON object"
  | .idNotText found => s!"Document id must be a string, got {found.text}"
  | .notObjectFrom backend found =>
    s!"{backend.title} returned a non-object document: {found.text}"
  | .other text => text

/-- The wording of a configuration fault. -/
def ConfigFault.message : ConfigFault → String
  | .filter fault => fault.message
  | .settings fault => fault.message
  | .other text => text

namespace Error

/-- The wording of an error. -/
def message : Error → String
  | .config fault => configHeading ++ fault.message
  | .options fault => s!"Invalid search options: {fault.message}"
  | .document fault => s!"Invalid document: {fault.message}"
  | .missingField name => s!"Missing required field: {name}"
  | .http backend status body => s!"{backend.title} returned {status}: {body}"
  | .rejected backend reason => s!"{backend.title} rejected the request: {reason}"
  | .transport reason => s!"Transport error: {reason}"
  | .decoding reason => s!"JSON error: {reason}"

/-- Whether the error lies in what the caller wrote. -/
def blamesCaller : Error → Bool
  | .config _ | .options _ | .document _ | .missingField _ => true
  | .http .. | .rejected .. | .transport _ | .decoding _ => false

/-- A fault of a filter as an error. -/
def ofFilter (fault : FilterFault) : Error := .config (.filter fault)

/-- A fault of settings as an error. -/
def ofSettings (fault : SettingsFault) : Error := .config (.settings fault)

end Error

end SearchIndex
