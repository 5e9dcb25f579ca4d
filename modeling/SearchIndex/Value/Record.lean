import SearchIndex.Value.Basic

/-! Reading a record of known fields from a value. It is written as an object, whose other keys
are ignored, or as the list of its fields in order, of which the last may be left out. A field's
reader says what its absence means. -/
namespace SearchIndex.Record

/-- The values of the named fields, absent ones being none. -/
def fields? (names : List String) : Value → Option (List (Option Value))
  | .object entries => some (names.map (Fields.get? entries))
  | .array items =>
    if items.length ≤ names.length then
      some (items.map some ++ List.replicate (names.length - items.length) none)
    else none
  | _ => none

/-- The name of a choice: it stands alone or as the only key of an object, over null. -/
def choice? : Value → Option String
  | .string name => some name
  | .object [(name, .null)] => some name
  | _ => none

/-- A field that has to be there. -/
def required (read : Value → Option α) : Option Value → Option α
  | some value => read value
  | none => none

/-- A field with a value of its own when absent. -/
def withDefault (absent : α) (read : Value → Option α) : Option Value → Option α
  | some value => read value
  | none => some absent

/-- A field that may be absent or null. -/
def optional (read : Value → Option α) : Option Value → Option (Option α)
  | some .null => some none
  | some value => (read value).map some
  | none => some none

/-- A list whose items are all readable. -/
def list (read : Value → Option α) : Value → Option (List α)
  | .array items => items.mapM read
  | _ => none

end SearchIndex.Record
