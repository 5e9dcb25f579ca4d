import SearchIndex.Error

/-! Documents: records with a text under `id`, which stands among the other fields and can be
searched, filtered and sorted by like them. -/
namespace SearchIndex

/-- A document. Its identifier is the text of its field `id`. -/
structure Document where
  id : String
  fields : Fields
  id_eq : Fields.get? fields "id" = some (.string id)

namespace Document

/-- The document with an identifier and fields, of which `id` is overwritten. -/
def ofId (id : String) (fields : Fields) : Document :=
  ⟨id, Fields.insert fields "id" (.string id), Fields.get?_insert_self fields "id" (.string id)⟩

/-- The document with these fields. -/
def ofFields (fields : Fields) : Except Error Document :=
  match h : Fields.get? fields "id" with
  | some (.string id) => .ok ⟨id, fields, h⟩
  | some found => .error (.document (.idNotText found))
  | none => .error (.missingField "id")

/-- The document that a value spells. -/
def ofValue : Value → Except Error Document
  | .object entries => ofFields entries
  | _ => .error (.document .notObject)

/-- The documents that values spell; the first that spells none is the error. -/
def ofValues : List Value → Except Error (List Document)
  | [] => .ok []
  | value :: rest => do
    let document ← ofValue value
    let documents ← ofValues rest
    return document :: documents

/-- The document as a value. -/
def toValue (document : Document) : Value := .object document.fields

/-- The value of a field; null counts as absent. -/
def get? (document : Document) (field : String) : Option Value :=
  match Fields.get? document.fields field with
  | some .null => none
  | found => found

/-- The document with its identifier passed through a function. -/
def mapId (document : Document) (f : String → String) : Document :=
  ofId (f document.id) document.fields

end Document

end SearchIndex
