import SearchIndex.Filter.Criteria
import SearchIndex.Text.Blank
import SearchIndex.Value.Record

/-! Search options in canonical form and as callers write them. Callers may give a page as a number
or as text, sort keys and facets alone or in lists, and filters in any of their forms; resolving
gives the canonical options or the first fault. -/
namespace SearchIndex

/-- A sort direction. -/
inductive Direction where
  | ascending
  | descending
deriving DecidableEq, Repr

namespace Direction

/-- The written form. -/
def name : Direction → String
  | .ascending => "asc"
  | .descending => "desc"

/-- The direction that a value spells. -/
def read? (value : Value) : Option Direction :=
  (Record.choice? value).bind fun text =>
    [ascending, descending].find? fun direction => direction.name == text

end Direction

/-- A field to sort by. -/
structure SortKey where
  field : String
  direction : Direction
deriving DecidableEq, Repr

namespace SortKey

/-- The sort key that a value spells; the direction may be left out. -/
def read? (value : Value) : Option SortKey := do
  match ← Record.fields? ["field", "direction"] value with
  | [field, direction] =>
    return ⟨← Record.required Value.string? field,
      ← Record.withDefault .ascending Direction.read? direction⟩
  | _ => none

/-- The sort key as a record. -/
def toValue (key : SortKey) : Value :=
  .object [("field", .string key.field), ("direction", .string key.direction.name)]

/-- The field and the direction with a colon between them. -/
def text (key : SortKey) : String := s!"{key.field}:{key.direction.name}"

end SortKey

/-- Search options in canonical form. Pages are counted from zero. -/
structure Options where
  page : Nat
  sort : List SortKey
  facets : List String
  filters : Option Filter

namespace Options

/-- The first page without order, facets or filters. -/
def initial : Options := ⟨0, [], [], none⟩

/-- The options that a value spells. -/
def read? (value : Value) : Option Options := do
  match ← Record.fields? ["page", "sort", "facets", "filters"] value with
  | [page, sort, facets, filters] =>
    return {
      page := ← Record.required Value.nat? page
      sort := ← Record.required (Record.list SortKey.read?) sort
      facets := ← Record.required (Record.list Value.string?) facets
      filters := ← Record.optional (fun filter => (Filter.read filter).toOption) filters }
  | _ => none

/-- The options as a record. -/
def toValue (options : Options) : Value :=
  .object ([("page", Value.ofNat options.page),
    ("sort", .array (options.sort.map SortKey.toValue)),
    ("facets", .array (options.facets.map .string))] ++
    match options.filters with
    | some filter => [("filters", filter.toValue)]
    | none => [])

end Options

/-- A page as callers write it: a number of the signed 64-bit range or text. -/
inductive LoosePage where
  | number (page : Int)
  | text (text : String)

namespace LoosePage

/-- The page with a number below `2^64`, which is kept in a signed word. -/
def ofNat (page : Nat) : LoosePage := .number (Int.bmod page 18446744073709551616)

/-- The page that a value spells. -/
def read? : Value → Option LoosePage
  | .string written => some (.text written)
  | value => value.signed?.map .number

/-- The written form. -/
def toValue : LoosePage → Value
  | .number page => Value.ofInt page
  | .text written => .string written

/-- The page counted from zero. Blanks around a text do not count, and an empty text is the first
page. -/
def resolve : LoosePage → Except Error Nat
  | .number page =>
    if page < 0 then .error (.options (.negativePage page)) else .ok page.toNat
  | .text written =>
    let trimmed := trimText written
    if trimmed.isEmpty then .ok 0
    else
      match readWord? trimmed.toList with
      | some page => .ok page
      | none => .error (.options (.notPage trimmed))

end LoosePage

/-- A sort key as callers write it: a field alone or with a direction, which may be left open. -/
inductive LooseSortKey where
  | field (field : String)
  | directed (field : String) (direction : Option Direction)

namespace LooseSortKey

/-- The sort key that a value spells: a text, or a record whose fields are named. -/
def read? : Value → Option LooseSortKey
  | .string name => some (.field name)
  | .object entries => do
    return .directed (← Record.required Value.string? (Fields.get? entries "field"))
      (← Record.optional Direction.read? (Fields.get? entries "direction"))
  | _ => none

/-- The written form. -/
def toValue : LooseSortKey → Value
  | .field name => .string name
  | .directed name direction =>
    .object [("field", .string name),
      ("direction", match direction with
        | some direction => .string direction.name
        | none => .null)]

/-- The sort key, ascending unless it says otherwise. -/
def resolve : LooseSortKey → SortKey
  | .field name => ⟨name, .ascending⟩
  | .directed name direction => ⟨name, direction.getD .ascending⟩

end LooseSortKey

/-- Sort keys as callers write them: one field or a list. -/
inductive LooseSort where
  | one (field : String)
  | many (keys : List LooseSortKey)

namespace LooseSort

/-- The sort keys that a value spells. -/
def read? : Value → Option LooseSort
  | .string field => some (.one field)
  | value => (Record.list LooseSortKey.read? value).map .many

/-- The written form. -/
def toValue : LooseSort → Value
  | .one field => .string field
  | .many keys => .array (keys.map LooseSortKey.toValue)

/-- The sort keys in order. -/
def resolve : LooseSort → List SortKey
  | .one field => [⟨field, .ascending⟩]
  | .many keys => keys.map LooseSortKey.resolve

end LooseSort

/-- Facets as callers write them: one field or a list. -/
inductive LooseFacets where
  | one (field : String)
  | many (fields : List String)

namespace LooseFacets

/-- The facets that a value spells. -/
def read? : Value → Option LooseFacets
  | .string field => some (.one field)
  | value => (Record.list Value.string? value).map .many

/-- The written form. -/
def toValue : LooseFacets → Value
  | .one field => .string field
  | .many fields => .array (fields.map .string)

/-- The fields in order. -/
def resolve : LooseFacets → List String
  | .one field => [field]
  | .many fields => fields

end LooseFacets

/-- Search options as callers write them. -/
structure LooseOptions where
  page : Option LoosePage
  sort : Option LooseSort
  facets : Option LooseFacets
  filters : Option Criteria

namespace LooseOptions

/-- Options that leave everything open. -/
def empty : LooseOptions := ⟨none, none, none, none⟩

/-- The options that a value spells. -/
def read? (value : Value) : Option LooseOptions := do
  match ← Record.fields? ["page", "sort", "facets", "filters"] value with
  | [page, sort, facets, filters] =>
    return {
      page := ← Record.optional LoosePage.read? page
      sort := ← Record.optional LooseSort.read? sort
      facets := ← Record.optional LooseFacets.read? facets
      filters := ← Record.optional Criteria.read? filters }
  | _ => none

/-- The written form, in which null stands for what is left open. -/
def toValue (options : LooseOptions) : Value :=
  .object [("page", (options.page.map LoosePage.toValue).getD .null),
    ("sort", (options.sort.map LooseSort.toValue).getD .null),
    ("facets", (options.facets.map LooseFacets.toValue).getD .null),
    ("filters", (options.filters.map Criteria.toValue).getD .null)]

/-- The filter that the options ask for. -/
def resolveFilters : Option Criteria → Except Error (Option Filter)
  | some input => do return some (← input.resolve)
  | none => .ok none

/-- The page that the options ask for, by default the first. -/
def resolvePage : Option LoosePage → Except Error Nat
  | some page => page.resolve
  | none => .ok 0

/-- The canonical options. A fault of the filters comes before one of the page. -/
def resolve (options : LooseOptions) : Except Error Options := do
  let filters ← resolveFilters options.filters
  let page ← resolvePage options.page
  return {
    page
    sort := (options.sort.map LooseSort.resolve).getD []
    facets := (options.facets.map LooseFacets.resolve).getD []
    filters }

end LooseOptions

end SearchIndex
