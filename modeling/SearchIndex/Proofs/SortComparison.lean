import SearchIndex.Proofs.NumberOrder
import SearchIndex.Proofs.StableSorting

/-! The comparison that sorts documents. It reverses with its arguments. It is a total preorder
wherever no value hides a difference between two others: a number hides one between whole numbers of
the signed range that round to it, if it is none itself, and a list or record between any texts. -/
namespace SearchIndex

/-! ## Values -/

/-- The code points of a text. -/
def Value.codes? (value : Value) : Option (List Nat) :=
  value.string?.map fun text => text.toList.map Char.toNat

/-- A value that neither of two others is told apart from, though they are from each other. -/
inductive Hides : Value → Value → Value → Prop where
  | rounding (coarse : middle.toSigned? = none) (first : low.toSigned? = some x)
      (last : high.toSigned? = some y) (apart : x ≠ y) (first_rounds : low.steps = middle.steps)
      (last_rounds : high.steps = middle.steps) :
      Hides (.number middle) (.number low) (.number high)
  | nesting (other_kind : rankOfKind middle = 2) (no_text : middle.string? = none)
      (apart : first ≠ last) : Hides middle (.string first) (.string last)

theorem hides_symm (hides : Hides middle first last) : Hides middle last first := by
  cases hides with
  | rounding coarse first last apart first_rounds last_rounds =>
    exact .rounding coarse last first apart.symm last_rounds first_rounds
  | nesting other_kind no_text apart => exact .nesting other_kind no_text apart.symm

/-- The order of two values of one kind. -/
def orderWithinKind (a b : Value) : Ordering :=
  (a.order? b).getD .eq

theorem order_by_kind_eq (a b : Value) :
    orderByKind a b = (compare (rankOfKind a) (rankOfKind b)).then (orderWithinKind a b) := by
  rw [orderByKind, Nat.compare_eq_ite_lt]
  split
  · rfl
  · split <;> rfl

theorem order_within_kind_swap (a b : Value) :
    orderWithinKind b a = (orderWithinKind a b).swap := by
  cases a with
  | number m =>
    cases b with
    | number n => exact Number.order_swap m n
    | _ => rfl
  | string s =>
    cases b with
    | string t =>
      simp only [orderWithinKind, Value.order?, Option.getD_some, order_chars_eq]
      exact Std.OrientedCmp.eq_swap
    | _ => rfl
  | bool p =>
    cases b with
    | bool q =>
      simp only [orderWithinKind, Value.order?, Option.getD_some, order_bool_eq]
      exact Std.OrientedCmp.eq_swap
    | _ => rfl
  | null | array | object => cases b <;> rfl

theorem order_by_kind_swap (a b : Value) : orderByKind b a = (orderByKind a b).swap := by
  rw [order_by_kind_eq, order_by_kind_eq]
  exact then_swap (compareOn rankOfKind) orderWithinKind (order_within_kind_swap a b)

/-- Texts, lists and records compare as texts; only two texts are told apart. -/
theorem order_within_last_kind {a : Value} (last_kind : rankOfKind a = 2) (b : Value) :
    orderWithinKind a b = compareRead Value.codes? a b := by
  cases a with
  | bool | number => cases last_kind
  | string s =>
    cases b with
    | string t => exact order_chars_eq s.toList t.toList
    | _ => rfl
  | null | array | object => cases b <;> rfl

theorem codes_some_iff {value : Value} :
    value.codes? = some codes ↔
      ∃ text, value = .string text ∧ text.toList.map Char.toNat = codes := by
  cases value <;> simp [Value.codes?, Value.string?]

theorem bool_of_rank {value : Value} (first_kind : rankOfKind value = 0) :
    ∃ truth, value = .bool truth := by
  cases value <;> simp_all [rankOfKind]

theorem number_of_rank {value : Value} (middle_kind : rankOfKind value = 1) :
    ∃ number, value = .number number := by
  cases value <;> simp_all [rankOfKind]

/-- The comparison of values is transitive unless the value in the middle hides a difference. -/
theorem order_by_kind_trans {a b c : Value} (shown : ¬ Hides b a c)
    (first : (orderByKind a b).isLE) (second : (orderByKind b c).isLE) :
    (orderByKind a c).isLE := by
  rw [order_by_kind_eq] at first second ⊢
  refine then_trans (compareOn rankOfKind) orderWithinKind ?_ first second
  intro same same' within within'
  replace same : rankOfKind a = rankOfKind b := Std.LawfulEqOrd.eq_of_compare same
  replace same' : rankOfKind b = rankOfKind c := Std.LawfulEqOrd.eq_of_compare same'
  cases b with
  | bool q =>
    obtain ⟨p, rfl⟩ := bool_of_rank same
    obtain ⟨r, rfl⟩ := bool_of_rank same'.symm
    simp only [orderWithinKind, Value.order?, Option.getD_some, order_bool_eq] at within within' ⊢
    exact Std.TransCmp.isLE_trans within within'
  | number n =>
    obtain ⟨m, rfl⟩ := number_of_rank same
    obtain ⟨o, rfl⟩ := number_of_rank same'.symm
    refine Number.order_trans (fun coarse left right x z known known' => ?_) within within'
    by_contra apart
    exact shown (.rounding coarse known known' apart left right.symm)
  | null | string | array | object =>
    rw [order_within_last_kind same] at within ⊢
    rw [order_within_last_kind rfl] at within'
    refine compare_read_trans (fun hidden x z known known' => ?_) within within'
    obtain ⟨s, rfl, rfl⟩ := codes_some_iff.mp known
    obtain ⟨t, rfl, rfl⟩ := codes_some_iff.mp known'
    by_contra apart
    refine shown (.nesting rfl ?_ fun equal => apart (by rw [equal]))
    simpa [Value.codes?] using hidden

/-- The comparison of values is not transitive where a value hides a difference. -/
theorem order_of_hides {a b c : Value} (hides : Hides b a c) :
    orderByKind a b = .eq ∧ orderByKind b c = .eq ∧ orderByKind a c ≠ .eq := by
  cases hides with
  | rounding coarse first last apart first_rounds last_rounds =>
    have numbers (m n : Number) : orderByKind (.number m) (.number n) = m.order n := rfl
    simp only [numbers, Number.order_of_rounded first_rounds,
      Number.order_of_rounded last_rounds.symm,
      Number.order_of_rounded (first_rounds.trans last_rounds.symm), compareRead, coarse, first,
      last]
    exact ⟨trivial, trivial, mt Std.LawfulEqOrd.eq_of_compare apart⟩
  | nesting other_kind no_text apart =>
    have hidden : b.codes? = none := by rw [Value.codes?, no_text]; rfl
    have spelled (text : String) :
        (Value.string text).codes? = some (text.toList.map Char.toNat) := rfl
    have last_kind {x y : Value} (left : rankOfKind x = 2) (right : rankOfKind y = 2) :
        orderByKind x y = compareRead Value.codes? x y := by
      rw [order_by_kind_eq, left, right, order_within_last_kind left]
      rfl
    rw [last_kind rfl other_kind, last_kind other_kind rfl, last_kind rfl rfl]
    simp only [compareRead, hidden, spelled]
    refine ⟨trivial, trivial, fun equal => apart ?_⟩
    have same_codes := Std.LawfulEqOrd.eq_of_compare equal
    rw [List.map_inj_right fun _ _ => Char.toNat_inj.mp] at same_codes
    exact String.toList_injective same_codes

/-! ## Documents -/

namespace SortKey

/-- The value that a document has for a sort key. -/
def value? (key : SortKey) (document : Document) : Option Value :=
  sortable? (document.get? key.field)

/-- Among the values that some documents have for the key, one hides the difference of two. -/
def HidesAmong (key : SortKey) (documents : List Document) : Prop :=
  ∃ x ∈ documents.filterMap key.value?, ∃ y ∈ documents.filterMap key.value?,
    ∃ z ∈ documents.filterMap key.value?, Hides y x z

/-- The order of two documents that have values for the key. -/
def orderPresent (key : SortKey) (a b : Document) : Ordering :=
  match key.value? a, key.value? b with
  | some x, some y => key.direction.apply (orderByKind x y)
  | _, _ => .eq

section
variable {key : SortKey} {a b c : Document}

theorem order_eq (key : SortKey) (a b : Document) :
    key.order a b =
      (compare (key.value? a).isNone (key.value? b).isNone).then (key.orderPresent a b) := by
  simp only [order, orderPresent, value?]
  cases sortable? (a.get? key.field) with
  | none => cases sortable? (b.get? key.field) <;> rfl
  | some x => cases sortable? (b.get? key.field) <;> rfl

theorem apply_swap (direction : Direction) (x y : Value) :
    direction.apply (orderByKind y x) = (direction.apply (orderByKind x y)).swap := by
  cases direction with
  | ascending => exact order_by_kind_swap x y
  | descending => exact congrArg Ordering.swap (order_by_kind_swap x y)

theorem apply_trans (direction : Direction) {x y z : Value} (shown : ¬ Hides y x z)
    (first : (direction.apply (orderByKind x y)).isLE)
    (second : (direction.apply (orderByKind y z)).isLE) :
    (direction.apply (orderByKind x z)).isLE := by
  cases direction with
  | ascending => exact order_by_kind_trans shown first second
  | descending =>
    simp only [Direction.apply, ← order_by_kind_swap] at first second ⊢
    exact order_by_kind_trans (mt hides_symm shown) second first

theorem apply_eq_iff {direction : Direction} : direction.apply outcome = .eq ↔ outcome = .eq := by
  cases direction with
  | ascending => exact Iff.rfl
  | descending => exact Ordering.swap_eq_eq

theorem order_some (has_a : key.value? a = some x) (has_b : key.value? b = some y) :
    key.order a b = key.direction.apply (orderByKind x y) := by
  rw [order_eq, orderPresent, has_a, has_b]
  rfl

theorem order_present_swap (key : SortKey) (a b : Document) :
    key.orderPresent b a = (key.orderPresent a b).swap := by
  simp only [orderPresent]
  cases key.value? a with
  | none => cases key.value? b <;> rfl
  | some x =>
    cases key.value? b with
    | none => rfl
    | some y => exact apply_swap key.direction x y

theorem order_swap (key : SortKey) (a b : Document) : key.order b a = (key.order a b).swap := by
  rw [order_eq, order_eq]
  exact then_swap (compareOn fun document => (key.value? document).isNone) key.orderPresent
    (order_present_swap key a b)

theorem order_trans
    (shown : ∀ x y z, key.value? a = some x → key.value? b = some y → key.value? c = some z →
      ¬ Hides y x z)
    (first : (key.order a b).isLE) (second : (key.order b c).isLE) : (key.order a c).isLE := by
  rw [order_eq] at first second ⊢
  refine then_trans (compareOn fun document => (key.value? document).isNone) key.orderPresent ?_
    first second
  intro same same' present present'
  simp only [compareOn] at same same'
  replace same := Std.LawfulEqOrd.eq_of_compare same
  replace same' := Std.LawfulEqOrd.eq_of_compare same'
  simp only [orderPresent] at present present' ⊢
  cases left : key.value? a with
  | none => rfl
  | some x =>
    cases right : key.value? c with
    | none => rfl
    | some z =>
      cases middle : key.value? b with
      | none =>
        rw [left, middle] at same
        cases same
      | some y =>
        rw [left, middle] at present
        rw [middle, right] at present'
        exact apply_trans key.direction (shown x y z left middle right) present present'

/-- One key orders some documents totally exactly if none of their values hides a difference. -/
theorem order_total_iff (key : SortKey) (documents : List Document) :
    IsTotalAmong documents key.order ↔ ¬ key.HidesAmong documents := by
  constructor
  · rintro total ⟨x, left, y, middle, z, right, hides⟩
    obtain ⟨a, in_a, has_a⟩ := List.mem_filterMap.mp left
    obtain ⟨b, in_b, has_b⟩ := List.mem_filterMap.mp middle
    obtain ⟨c, in_c, has_c⟩ := List.mem_filterMap.mp right
    obtain ⟨first, second, apart⟩ := order_of_hides hides
    have equal : key.order a b = .eq := by rwa [order_some has_a has_b, apply_eq_iff]
    have equal' : key.order b c = .eq := by rwa [order_some has_b has_c, apply_eq_iff]
    have third : key.order a c = .eq :=
      total.eq_trans (a := ⟨a, in_a⟩) (b := ⟨b, in_b⟩) (c := ⟨c, in_c⟩) equal equal'
    rw [order_some has_a has_c, apply_eq_iff] at third
    exact apart third
  · intro shown
    have transitive (a b c : {document // document ∈ documents}) :
        (key.order a b).isLE → (key.order b c).isLE → (key.order a c).isLE := by
      refine order_trans fun x y z has_a has_b has_c hides => ?_
      exact shown ⟨x, List.mem_filterMap.mpr ⟨a, a.property, has_a⟩,
        y, List.mem_filterMap.mpr ⟨b, b.property, has_b⟩,
        z, List.mem_filterMap.mpr ⟨c, c.property, has_c⟩, hides⟩
    exact { eq_swap := order_swap key _ _, isLE_trans := transitive _ _ _ }

theorem order_all_cons (key : SortKey) (rest : List SortKey) (a b : Document) :
    orderAll (key :: rest) a b = (key.order a b).then (orderAll rest a b) := by
  rw [orderAll]
  cases key.order a b <;> rfl

theorem order_all_swap (keys : List SortKey) (a b : Document) :
    orderAll keys b a = (orderAll keys a b).swap := by
  induction keys with
  | nil => rfl
  | cons key rest ih => rw [order_all_cons, order_all_cons, Ordering.swap_then, ← ih, ← order_swap]

/-- Keys that each order some documents totally do so together. -/
theorem order_all_total {keys : List SortKey} {documents : List Document}
    (each : ∀ key ∈ keys, IsTotalAmong documents key.order) :
    IsTotalAmong documents (orderAll keys) := by
  induction keys with
  | nil => exact { eq_swap := rfl, isLE_trans := fun _ _ => rfl }
  | cons key rest ih =>
    obtain ⟨here, later⟩ := List.forall_mem_cons.mp each
    have : Std.TransCmp fun a b : {document // document ∈ documents} => key.order a b := here
    have transitive (a b c : {document // document ∈ documents}) :
        (orderAll (key :: rest) a b).isLE → (orderAll (key :: rest) b c).isLE →
          (orderAll (key :: rest) a c).isLE := by
      simp only [order_all_cons]
      exact then_trans (fun a b : {document // document ∈ documents} => key.order a b)
        (fun a b => orderAll rest a b) fun _ _ => (ih later).isLE_trans
    exact { eq_swap := order_all_swap (key :: rest) _ _, isLE_trans := transitive _ _ _ }

/-! ## Main statement -/

/-- The comparison of documents reverses with its arguments. Among some documents it is a total
preorder if, under each key, no value hides a difference between two others, and for a single key
only then. -/
theorem comparison_total (keys : List SortKey) (documents : List Document) :
    (∀ a b, orderAll keys b a = (orderAll keys a b).swap) ∧
    ((∀ key ∈ keys, ¬ key.HidesAmong documents) → IsTotalAmong documents (orderAll keys)) ∧
    ∀ key, IsTotalAmong documents (orderAll [key]) ↔ ¬ key.HidesAmong documents := by
  refine ⟨order_all_swap keys, fun shown => ?_, fun key => ?_⟩
  · exact order_all_total fun key member => (order_total_iff key documents).mpr (shown key member)
  · have single : orderAll [key] = key.order := by
      funext a b
      rw [order_all_cons]
      exact Ordering.then_eq
    rw [single, order_total_iff]

/-- A document with a whole number for its price. -/
private def priced (id : String) (price : Nat) : Document :=
  .ofId id [("price", .ofNat price)]

/-- Three prices: the greatest of the signed range, the next one, and one less than the greatest. -/
private def greatPrices : List Document :=
  [priced "a" 9223372036854775807, priced "b" 9223372036854775808, priced "c" 9223372036854775806]

/-- By price, the greatest whole number of the signed range and the next one are not told apart, nor
are the next one and one that is less than the greatest. So the sort of a library may stop; and where
it goes on, it may leave the three as they are, as a sort by insertion does, with the greatest of the
signed range in front of the one that is less. -/
theorem comparison_not_total :
    ¬ IsTotalAmong greatPrices (orderAll [⟨"price", .ascending⟩]) ∧
      (∃ sorter, sortDocuments sorter [⟨"price", .ascending⟩] greatPrices = none) ∧
      sortDocuments .byInsertion [⟨"price", .ascending⟩] greatPrices = some greatPrices ∧
      ¬ greatPrices.Pairwise fun a b => (orderAll [⟨"price", .ascending⟩] a b).isLE := by
  have not_total : ¬ IsTotalAmong greatPrices (orderAll [⟨"price", .ascending⟩]) := by
    intro total
    have first : orderAll [⟨"price", .ascending⟩] greatPrices[0] greatPrices[1] = .eq := by
      decide +kernel
    have second : orderAll [⟨"price", .ascending⟩] greatPrices[1] greatPrices[2] = .eq := by
      decide +kernel
    have apart : orderAll [⟨"price", .ascending⟩] greatPrices[0] greatPrices[2] = .gt := by
      decide +kernel
    have third := total.eq_trans (a := ⟨_, List.getElem_mem (by decide)⟩)
      (b := ⟨_, List.getElem_mem (by decide)⟩) (c := ⟨_, List.getElem_mem (by decide)⟩) first second
    cases apart.symm.trans third
  exact ⟨not_total, may_stop_iff.mpr not_total, rfl, by decide +kernel⟩

end

end SortKey

end SearchIndex
