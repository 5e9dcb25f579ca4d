import SearchIndex.Value.Basic

/-! The order in which filters and sort keys compare values: numbers by value, strings by code
points, false before true. Values of different kinds, lists, records and nulls are not ordered. -/
namespace SearchIndex

/-- Three-way comparison of texts by code points; a text comes after its beginnings. -/
def orderChars : List Char → List Char → Ordering
  | [], [] => .eq
  | [], _ :: _ => .lt
  | _ :: _, [] => .gt
  | a :: as, b :: bs =>
    if a.toNat < b.toNat then .lt else if b.toNat < a.toNat then .gt else orderChars as bs

/-- Three-way comparison of truth values. -/
def orderBool : Bool → Bool → Ordering
  | false, true => .lt
  | true, false => .gt
  | _, _ => .eq

namespace Value

/-- The order of two values, where there is one. -/
def order? : Value → Value → Option Ordering
  | .number a, .number b => some (a.order b)
  | .string a, .string b => some (orderChars a.toList b.toList)
  | .bool a, .bool b => some (orderBool a b)
  | _, _ => none

/-- Equality as filters see it: numbers are equal when neither comes first, other values when
their data is. -/
def equal : Value → Value → Bool
  | .number a, .number b => a.order b == .eq
  | a, b => same a b

end Value

end SearchIndex
