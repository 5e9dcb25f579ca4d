import SearchIndex.Value.Order

/-! Maps from texts, held in the order of their keys, each key once. -/
namespace SearchIndex

/-- Entries in rising order of their keys. -/
abbrev KeyMap (α : Type) := List (String × α)

namespace KeyMap

/-- What a key maps to. -/
def get? : KeyMap α → String → Option α
  | [], _ => none
  | (key, value) :: rest, wanted => if key = wanted then some value else get? rest wanted

/-- The map with what a key maps to replaced by a function of it. -/
def alter (f : Option α → α) (key : String) : KeyMap α → KeyMap α
  | [] => [(key, f none)]
  | (other, value) :: rest =>
    match orderChars key.toList other.toList with
    | .lt => (key, f none) :: (other, value) :: rest
    | .eq => (other, f (some value)) :: rest
    | .gt => (other, value) :: alter f key rest

/-- The map with a key mapped to a value. -/
def put (key : String) (value : α) (map : KeyMap α) : KeyMap α := alter (fun _ => value) key map

/-- The map of some entries, of which later ones replace earlier ones. -/
def ofEntries (entries : List (String × α)) : KeyMap α :=
  entries.foldl (fun map entry => put entry.1 entry.2 map) []

end KeyMap

end SearchIndex
