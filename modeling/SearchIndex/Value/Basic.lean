import SearchIndex.Number.Basic

/-! Values of documents, filters and requests: null, booleans, numbers, strings, lists and open
records. A record keeps its entries in the order they were written and holds each key once, so
writing to a key that is present keeps its place. -/
namespace SearchIndex

/-- A value. -/
inductive Value where
  | null
  | bool (value : Bool)
  | number (value : Number)
  | string (text : String)
  | array (items : List Value)
  | object (entries : List (String × Value))

/-- The entries of a record, in order. -/
abbrev Fields := List (String × Value)

namespace Fields

/-- The value under a key. -/
def get? : Fields → String → Option Value
  | [], _ => none
  | (key, value) :: rest, wanted => if key = wanted then some value else get? rest wanted

/-- The keys in order. -/
def keys (fields : Fields) : List String := fields.map Prod.fst

/-- The value written to a key: in place if the key is there, at the end if it is not. -/
def insert : Fields → String → Value → Fields
  | [], key, value => [(key, value)]
  | (other, old) :: rest, key, value =>
    if other = key then (key, value) :: rest else (other, old) :: insert rest key value

/-- Entries written one after another into an empty record. -/
def ofEntries (entries : List (String × Value)) : Fields :=
  entries.foldl (fun fields entry => insert fields entry.1 entry.2) []

/-- The record without a key, whose place the last entry takes. -/
def remove : Fields → String → Fields
  | [], _ => []
  | (key, value) :: rest, wanted =>
    if key = wanted then
      match rest.getLast? with
      | some last => last :: rest.dropLast
      | none => []
    else (key, value) :: remove rest wanted

/-- What is found under a key is an entry of the record. -/
theorem get_some_mem {fields : Fields} {key : String} {value : Value}
    (found : get? fields key = some value) :
    (key, value) ∈ fields := by
  induction fields with
  | nil => cases found
  | cons entry rest ih =>
    obtain ⟨other, old⟩ := entry
    simp only [get?] at found
    split at found
    · rename_i same
      cases found
      rw [same]
      exact List.mem_cons_self
    · exact List.mem_cons_of_mem _ (ih found)

theorem get?_insert_self (fields : Fields) (key : String) (value : Value) :
    get? (insert fields key value) key = some value := by
  induction fields with
  | nil => simp [insert, get?]
  | cons entry rest ih =>
    obtain ⟨other, old⟩ := entry
    by_cases same : other = key <;> simp [insert, get?, same, ih]

theorem get?_insert_of_ne (fields : Fields) {key other : String} (value : Value)
    (different : key ≠ other) : get? (insert fields key value) other = get? fields other := by
  induction fields with
  | nil => simp [insert, get?, different]
  | cons entry rest ih =>
    obtain ⟨first, old⟩ := entry
    by_cases same : first = key
    · simp [insert, get?, same, different]
    · simp [insert, get?, same, ih]

end Fields

namespace Value

/-- Whether this is the null value. -/
def isNull : Value → Bool
  | .null => true
  | _ => false

/-- The truth value, of a boolean. -/
def bool? : Value → Option Bool
  | .bool value => some value
  | _ => none

/-- The text, of a string. -/
def string? : Value → Option String
  | .string text => some text
  | _ => none

/-- The items, of a list. -/
def array? : Value → Option (List Value)
  | .array items => some items
  | _ => none

/-- The entries, of a record. -/
def object? : Value → Option Fields
  | .object entries => some entries
  | _ => none

/-- The whole number below `2^64` that this is. -/
def nat? : Value → Option Nat
  | .number n => n.toUnsigned?
  | _ => none

/-- The whole number of the signed 64-bit range that this is. -/
def signed? : Value → Option Int
  | .number n => n.toSigned?
  | _ => none

/-- A whole number as a value; null stands for one that no word holds. -/
def ofInt (n : Int) : Value :=
  match Number.ofInt? n with
  | some whole => .number whole
  | none => .null

/-- A natural number as a value; null stands for one that no word holds. -/
def ofNat (n : Nat) : Value := ofInt n

mutual

/-- Equality of data: records are equal when they hold the same values under the same keys, in
whatever order, and numbers when their representations are. -/
def same : Value → Value → Bool
  | .null, .null => true
  | .bool a, .bool b => a == b
  | .number a, .number b => a.same b
  | .string a, .string b => a == b
  | .array xs, .array ys => sameItems xs ys
  | .object fs, .object gs => fs.length == gs.length && sameEntries fs gs
  | _, _ => false

/-- Lists are equal item by item. -/
def sameItems : List Value → List Value → Bool
  | [], [] => true
  | x :: xs, y :: ys => same x y && sameItems xs ys
  | _, _ => false

/-- Every entry of the first record is found in the second with an equal value. -/
def sameEntries : List (String × Value) → List (String × Value) → Bool
  | [], _ => true
  | (key, value) :: rest, others =>
    (match Fields.get? others key with
      | some other => same value other
      | none => false) && sameEntries rest others

end

/-! ## Values told apart -/

/-- Induction over values. A list may use the fact for each of its items and a record for each of
the values in it. -/
@[elab_as_elim]
theorem by_parts {motive : Value → Prop} (null : motive .null)
    (bool : ∀ value, motive (.bool value)) (number : ∀ value, motive (.number value))
    (string : ∀ text, motive (.string text))
    (array : ∀ items, (∀ item ∈ items, motive item) → motive (.array items))
    (object : ∀ entries, (∀ entry ∈ entries, motive entry.2) → motive (.object entries))
    (value : Value) : motive value :=
  Value.rec (motive_1 := motive) (motive_2 := fun items => ∀ item ∈ items, motive item)
    (motive_3 := fun entries => ∀ entry ∈ entries, motive entry.2)
    (motive_4 := fun entry => motive entry.2)
    null bool number string array object (fun _ member => nomatch member)
    (fun _ _ head tail => List.forall_mem_cons.mpr ⟨head, tail⟩) (fun _ member => nomatch member)
    (fun _ _ head tail => List.forall_mem_cons.mpr ⟨head, tail⟩) (fun _ _ known => known) value

mutual

/-- Whether two values are one, entries of records in their order. -/
def identical : Value → Value → Bool
  | .null, .null => true
  | .bool a, .bool b => a == b
  | .number a, .number b => a == b
  | .string a, .string b => a == b
  | .array xs, .array ys => identicalItems xs ys
  | .object fs, .object gs => identicalEntries fs gs
  | _, _ => false

/-- Whether two lists hold the same values. -/
def identicalItems : List Value → List Value → Bool
  | [], [] => true
  | x :: xs, y :: ys => identical x y && identicalItems xs ys
  | _, _ => false

/-- Whether two records hold the same entries. -/
def identicalEntries : Fields → Fields → Bool
  | [], [] => true
  | (key, value) :: rest, (other, found) :: others =>
    key == other && identical value found && identicalEntries rest others
  | _, _ => false

end

theorem identical_items_iff {items others : List Value}
    (each : ∀ item ∈ items, ∀ other, identical item other = true ↔ item = other) :
    identicalItems items others = true ↔ items = others := by
  induction items generalizing others with
  | nil => cases others <;> simp [identicalItems]
  | cons item rest ih =>
    obtain ⟨here, later⟩ := List.forall_mem_cons.mp each
    cases others with
    | nil => simp [identicalItems]
    | cons other others => simp [identicalItems, here, ih later]

theorem identical_entries_iff {entries others : Fields}
    (each : ∀ entry ∈ entries, ∀ other, identical entry.2 other = true ↔ entry.2 = other) :
    identicalEntries entries others = true ↔ entries = others := by
  induction entries generalizing others with
  | nil => cases others <;> simp [identicalEntries]
  | cons entry rest ih =>
    obtain ⟨here, later⟩ := List.forall_mem_cons.mp each
    cases others with
    | nil => simp [identicalEntries]
    | cons other others => simp [identicalEntries, here, ih later, Prod.ext_iff]

theorem identical_iff {a b : Value} : identical a b = true ↔ a = b := by
  induction a using by_parts generalizing b with
  | null => cases b <;> simp [identical]
  | bool | number | string => cases b <;> simp [identical]
  | array items each =>
    cases b with
    | array others => simp [identical, identical_items_iff fun item member _ => each item member]
    | null | bool | number | string | object => simp [identical]
  | object entries each =>
    cases b with
    | object others =>
      simp [identical, identical_entries_iff fun entry member _ => each entry member]
    | null | bool | number | string | array => simp [identical]

instance : DecidableEq Value := fun _ _ => decidable_of_iff _ identical_iff

end Value

end SearchIndex
