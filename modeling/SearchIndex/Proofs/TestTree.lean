import SearchIndex.Proofs.CompileMeaning

/-! Filters in normal form: trees of tests in which negation stands at the tests, membership in a
list of several values is spelled out, and no combination is empty, decided by a constant or of a
single part. The normal form accepts the documents that the filter accepts, and it is a constant
exactly where the compilers find one. -/
namespace SearchIndex

/-- A test of one field. -/
inductive FieldTest where
  | compare (field : String) (comparison : Comparison) (value : Value)
  | oneOf (field : String) (values : List Value)
  | between (field : String) (low high : Value)

/-- Whether a document passes a test. -/
def FieldTest.holds (document : Document) : FieldTest → Bool
  | .compare field comparison value => comparison.holds value (document.get? field)
  | .oneOf field values => holdsOneOf values (document.get? field)
  | .between field low high => holdsBetween low high (document.get? field)

/-- Tests, negated or not, and their combinations. -/
inductive TestTree where
  | leaf (negated : Bool) (test : FieldTest)
  | group (combinator : Combinator) (parts : List TestTree)

namespace TestTree

/-- Induction over trees. A combination may use the fact for each of its parts. -/
@[elab_as_elim, induction_eliminator]
theorem by_parts {motive : TestTree → Prop} (leaf : ∀ negated test, motive (.leaf negated test))
    (group : ∀ combinator parts, (∀ part ∈ parts, motive part) → motive (.group combinator parts))
    (tree : TestTree) : motive tree :=
  TestTree.rec (motive_1 := motive) (motive_2 := fun parts => ∀ part ∈ parts, motive part)
    leaf group (fun _ member => nomatch member)
    (fun _ _ head tail => List.forall_mem_cons.mpr ⟨head, tail⟩) tree

mutual

/-- Whether a tree accepts a document. -/
def holds (document : Document) : TestTree → Bool
  | .leaf negated test => negated ^^ test.holds document
  | .group combinator parts => combinator.join (holdsEach document parts)

/-- Which of some trees accept a document. -/
def holdsEach (document : Document) : List TestTree → List Bool
  | [] => []
  | part :: rest => holds document part :: holdsEach document rest

end

theorem holds_each_map (document : Document) (parts : List TestTree) :
    holdsEach document parts = parts.map (holds document) := by
  induction parts with
  | nil => rfl
  | cons part rest ih => rw [holdsEach, ih, List.map_cons]

end TestTree

/-! ## Negation at the tests -/

namespace Filter

mutual

/-- A filter, negated or not, with negation pushed to its tests. A list of several values stands
for its equalities, of which some holds, or under negation for its inequalities, which all hold. -/
def spread (negated : Bool) : Filter → TestTree
  | .compare field comparison value => .leaf negated (.compare field comparison value)
  | .oneOf field values =>
    if values.length < 2 then .leaf negated (.oneOf field values)
    else .group (if negated then .and else .or) (values.map fun value =>
      .leaf false (.compare field (if negated then .ne else .eq) value))
  | .between field low high => .leaf negated (.between field low high)
  | .group combinator conditions =>
    .group (if negated then combinator.dual else combinator) (spreadAll negated conditions)
  | .not condition => spread (!negated) condition

/-- Filters, negated or not, with negation pushed to their tests. -/
def spreadAll (negated : Bool) : List Filter → List TestTree
  | [] => []
  | condition :: rest => spread negated condition :: spreadAll negated rest

end

theorem spread_all_map (negated : Bool) (conditions : List Filter) :
    spreadAll negated conditions = conditions.map (spread negated) := by
  induction conditions with
  | nil => rfl
  | cons condition rest ih => rw [spreadAll, ih, List.map_cons]

/-- Pushing negation to the tests keeps what a filter means. -/
theorem spread_holds (document : Document) (negated : Bool) (filter : Filter) :
    (filter.spread negated).holds document = (negated ^^ filter.holds document) := by
  induction filter generalizing negated with
  | compare | between => rfl
  | oneOf field values =>
    rw [spread]
    split
    · rfl
    · simp only [TestTree.holds, TestTree.holds_each_map, List.map_map, holds, holds_one_of_values]
      cases negated with
      | false =>
        simp [Combinator.join, List.any_map, Function.comp_def, TestTree.holds, FieldTest.holds]
      | true =>
        simp [Combinator.join, List.all_map, Function.comp_def, TestTree.holds, FieldTest.holds,
          Comparison.holds, List.not_any_eq_all_not]
  | group combinator conditions ih =>
    rw [spread, TestTree.holds, TestTree.holds_each_map, spread_all_map, group_holds, signed_join,
      List.map_map, List.map_map]
    congr 1
    exact List.map_congr_left fun condition member => ih condition member negated
  | not condition ih =>
    rw [spread, ih, holds, Bool.xor_not, ← Bool.not_xor]

end Filter

/-! ## Folding -/

/-- A tree without constants in it, or a constant. -/
inductive Folded where
  | constant (value : Bool)
  | tree (kept : TestTree)

namespace Folded

/-- The constant, if it is one. -/
def constant? : Folded → Option Bool
  | .constant value => some value
  | .tree _ => none

/-- The tree, if it is one. -/
def tree? : Folded → Option TestTree
  | .constant _ => none
  | .tree kept => some kept

/-- Whether a part decides a combination on its own: it is the constant that a combination of
nothing is not. -/
def decides (combinator : Combinator) (part : Folded) : Bool :=
  part.constant? == some !combinator.join []

/-- The combination of trees: a constant for none and the tree itself for one. -/
def ofTrees (combinator : Combinator) : List TestTree → Folded
  | [] => .constant (combinator.join [])
  | [part] => .tree part
  | parts => .tree (.group combinator parts)

/-- The combination of folded parts. -/
def combine (combinator : Combinator) (parts : List Folded) : Folded :=
  if parts.any (decides combinator) then .constant !combinator.join []
  else ofTrees combinator (parts.filterMap tree?)

theorem any_decides_iff {combinator : Combinator} {parts : List Folded} :
    parts.any (decides combinator) = true ↔ .constant (!combinator.join []) ∈ parts := by
  rw [List.any_eq_true]
  constructor
  · rintro ⟨part, member, decided⟩
    cases part with
    | constant value =>
      have other : value = !combinator.join [] := by simpa [decides, constant?] using decided
      exact other ▸ member
    | tree => cases decided
  · intro member
    exact ⟨_, member, by simp [decides, constant?]⟩

theorem combine_decided {parts : List Folded} (member : .constant (!combinator.join []) ∈ parts) :
    combine combinator parts = .constant !combinator.join [] :=
  if_pos (any_decides_iff.mpr member)

theorem combine_undecided {parts : List Folded} (absent : .constant (!combinator.join []) ∉ parts) :
    combine combinator parts = ofTrees combinator (parts.filterMap tree?) :=
  if_neg (mt any_decides_iff.mp absent)

/-- Whether what is left accepts a document. -/
def holds (document : Document) : Folded → Bool
  | .constant value => value
  | .tree kept => kept.holds document

end Folded

namespace TestTree

mutual

/-- A tree with constants and single parts folded away. -/
def folded : TestTree → Folded
  | .leaf negated test => .tree (.leaf negated test)
  | .group combinator parts => .combine combinator (foldedAll parts)

/-- Trees with constants and single parts folded away. -/
def foldedAll : List TestTree → List Folded
  | [] => []
  | part :: rest => folded part :: foldedAll rest

end

theorem folded_all_map (parts : List TestTree) : foldedAll parts = parts.map folded := by
  induction parts with
  | nil => rfl
  | cons part rest ih => rw [foldedAll, ih, List.map_cons]

end TestTree

/-- Several trees make a combination. -/
theorem Folded.of_trees_several (combinator : Combinator) {trees : List TestTree}
    (several : 2 ≤ trees.length) : ofTrees combinator trees = .tree (.group combinator trees) := by
  match trees, several with
  | _ :: _ :: _, _ => rfl

/-- A combination of several trees in which there is nothing to fold stays as it is. -/
theorem TestTree.folded_several (combinator : Combinator) {parts : List TestTree}
    (several : 2 ≤ parts.length) (each : ∀ part ∈ parts, part.folded = .tree part) :
    (TestTree.group combinator parts).folded = .tree (.group combinator parts) := by
  have all_kept : parts.map folded = parts.map Folded.tree := List.map_congr_left each
  have undecided : Folded.constant (!combinator.join []) ∉ parts.map Folded.tree := by simp
  have kept : (parts.map Folded.tree).filterMap Folded.tree? = parts := by
    simp [List.filterMap_map, Function.comp_def, Folded.tree?]
  rw [folded, folded_all_map, all_kept, Folded.combine_undecided undecided, kept,
    Folded.of_trees_several combinator several]

/-- A list of several values, spelled out, has nothing to fold. -/
theorem Filter.spread_one_of_folded (negated : Bool) (field : String) (values : List Value) :
    (Filter.spread negated (.oneOf field values)).folded =
      .tree (Filter.spread negated (.oneOf field values)) := by
  rw [Filter.spread]
  split
  · rfl
  · rename_i several
    have some_values : 2 ≤ (values.map fun value => TestTree.leaf false
        (.compare field (if negated then .ne else .eq) value)).length := by
      rw [List.length_map]
      omega
    refine TestTree.folded_several _ some_values fun part member => ?_
    obtain ⟨value, -, rfl⟩ := List.mem_map.mp member
    rfl

/-- The normal form of a combination is made of those of its conditions. -/
theorem Filter.spread_group_folded (negated : Bool) (combinator : Combinator)
    (conditions : List Filter) :
    (Filter.spread negated (.group combinator conditions)).folded =
      .combine (if negated then combinator.dual else combinator)
        (conditions.map fun condition => (condition.spread negated).folded) := by
  rw [Filter.spread, Filter.spread_all_map, TestTree.folded, TestTree.folded_all_map, List.map_map]
  rfl

/-! ## What folding keeps -/

namespace Folded

theorem of_trees_holds (document : Document) (combinator : Combinator) (trees : List TestTree) :
    (ofTrees combinator trees).holds document =
      combinator.join (trees.map (TestTree.holds document)) := by
  match trees with
  | [] => rfl
  | [part] => cases combinator <;> simp [ofTrees, holds, Combinator.join]
  | first :: second :: rest =>
    exact congrArg combinator.join (TestTree.holds_each_map document (first :: second :: rest))

/-- Parts that do not decide a combination count only with their trees. -/
private theorem join_trees (document : Document) (combinator : Combinator) (parts : List Folded)
    (undecided : .constant (!combinator.join []) ∉ parts) :
    combinator.join (parts.map (holds document)) =
      combinator.join ((parts.filterMap tree?).map (TestTree.holds document)) := by
  induction parts with
  | nil => rfl
  | cons part rest ih =>
    have tail := ih fun member => undecided (List.mem_cons_of_mem _ member)
    have here : part ≠ .constant !combinator.join [] := fun same =>
      undecided (same ▸ List.mem_cons_self)
    cases combinator <;> rcases part with (_ | _) | _ <;>
      simp_all [Combinator.join, tree?, holds]

theorem combine_holds (document : Document) (combinator : Combinator) (parts : List Folded) :
    (combine combinator parts).holds document =
      combinator.join (parts.map (holds document)) := by
  by_cases decided : .constant (!combinator.join []) ∈ parts
  · have inside := List.mem_map_of_mem (f := holds document) decided
    rw [combine_decided decided]
    cases combinator with
    | and => exact (List.all_eq_false.mpr ⟨false, inside, by simp⟩).symm
    | or => exact (List.any_eq_true.mpr ⟨true, inside, rfl⟩).symm
  · rw [combine_undecided decided, of_trees_holds, join_trees document combinator parts decided]

end Folded

/-- Folding keeps what a tree means. -/
theorem TestTree.folded_holds (document : Document) (tree : TestTree) :
    tree.folded.holds document = tree.holds document := by
  induction tree with
  | leaf => rfl
  | group combinator parts ih =>
    rw [folded, Folded.combine_holds, folded_all_map, List.map_map, holds, holds_each_map]
    congr 1
    exact List.map_congr_left ih

/-! ## Constants -/

/-- The constant, if a filter compiles to one. -/
def Compiled.constant? : Compiled → Option Bool
  | .everything => some true
  | .nothing => some false
  | .expression _ => none

/-- The constant that a combination of parts amounts to, of which some are known to be constant: one
that decides it, or the one of nothing if no part is left. -/
def Combinator.constant? (combinator : Combinator) (parts : List (Option Bool)) : Option Bool :=
  if some (!combinator.join []) ∈ parts then some !combinator.join []
  else if none ∈ parts then none
  else some (combinator.join [])

/-- Parts of which each is constant or kept amount to the constant that decides them, or to the one
of nothing if none is kept. -/
private theorem constant_of_parts (combinator : Combinator) {decides : α → Bool}
    {constant? : α → Option Bool} {kept? : α → Option β} (parts : List α)
    (deciding : ∀ part, decides part = (constant? part == some !combinator.join []))
    (either : ∀ part, constant? part = none ↔ kept? part ≠ none) :
    combinator.constant? (parts.map constant?) =
      if parts.any decides then some !combinator.join []
      else if parts.filterMap kept? = [] then some (combinator.join []) else none := by
  have decided : some (!combinator.join []) ∈ parts.map constant? ↔ parts.any decides = true := by
    simp [deciding]
  have left_over : none ∈ parts.map constant? ↔ parts.filterMap kept? ≠ [] := by
    simp [either]
  simp only [Combinator.constant?, decided, left_over, ite_not]

theorem Compiled.combine_constant (combinator : Combinator) (parts : List Compiled) :
    (combine combinator parts).constant? = combinator.constant? (parts.map constant?) := by
  have deciding (part : Compiled) :
      decides combinator part = (part.constant? == some !combinator.join []) := by
    cases combinator <;> cases part <;> rfl
  have either (part : Compiled) : part.constant? = none ↔ part.formula? ≠ none := by
    cases part <;> simp [constant?, formula?]
  rw [constant_of_parts combinator parts deciding either, combine]
  split
  · cases combinator <;> rfl
  · split
    · rename_i none_kept
      rw [if_pos none_kept]
      cases combinator <;> rfl
    · rename_i some_kept
      rw [if_neg some_kept, constant?]

theorem Folded.combine_constant (combinator : Combinator) (parts : List Folded) :
    (combine combinator parts).constant? = combinator.constant? (parts.map constant?) := by
  have either (part : Folded) : part.constant? = none ↔ part.tree? ≠ none := by
    cases part <;> simp [constant?, tree?]
  have deciding (part : Folded) :
      decides combinator part = (part.constant? == some !combinator.join []) := rfl
  rw [constant_of_parts combinator parts deciding either, combine]
  split
  · rfl
  · match parts.filterMap tree? with
    | [] | [_] | _ :: _ :: _ => rfl

/-- Under negation a combination is constant where the combination was, with the opposite value. -/
theorem Combinator.constant_dual (combinator : Combinator) (parts : List (Option Bool)) :
    combinator.dual.constant? (parts.map (Option.map not)) =
      (combinator.constant? parts).map not := by
  have opposite (value : Bool) :
      some value ∈ parts.map (Option.map not) ↔ some (!value) ∈ parts := by
    simp only [List.mem_map, Option.map_eq_some_iff]
    constructor
    · rintro ⟨_, member, old, rfl, rfl⟩
      simpa using member
    · intro member
      exact ⟨_, member, !value, rfl, Bool.not_not value⟩
  have unknown : none ∈ parts.map (Option.map not) ↔ none ∈ parts := by
    simp
  have nothing : combinator.dual.join [] = !combinator.join [] := by
    cases combinator <;> rfl
  simp only [constant?, opposite, unknown, nothing, Bool.not_not]
  split
  · simp
  · split <;> rfl

theorem spread_group_constant (negated : Bool) (combinator : Combinator)
    (conditions : List Filter) :
    ((Filter.group combinator conditions).spread negated).folded.constant? =
      (if negated then combinator.dual else combinator).constant?
        (conditions.map fun condition => (condition.spread negated).folded.constant?) := by
  rw [Filter.spread_group_folded, Folded.combine_constant, List.map_map]
  rfl

/-- The negation of a filter is constant where the filter is, with the opposite value. -/
theorem spread_not_constant (negated : Bool) (filter : Filter) :
    (filter.spread (!negated)).folded.constant? =
      (filter.spread negated).folded.constant?.map not := by
  induction filter generalizing negated with
  | compare | between => rfl
  | oneOf field values =>
    rw [Filter.spread_one_of_folded, Filter.spread_one_of_folded]
    rfl
  | group combinator conditions ih =>
    have turned : (if !negated then combinator.dual else combinator) =
        (if negated then combinator.dual else combinator).dual := by
      cases negated <;> cases combinator <;> rfl
    have parts : conditions.map (fun condition => (condition.spread !negated).folded.constant?) =
        (conditions.map fun condition =>
          (condition.spread negated).folded.constant?).map (Option.map not) := by
      rw [List.map_map]
      exact List.map_congr_left fun condition member => ih condition member negated
    rw [spread_group_constant, spread_group_constant, parts, turned, Combinator.constant_dual]
  | not condition ih => exact ih (!negated)

/-- A filter compiles to a constant exactly where its normal form is that constant. -/
theorem compile_node_constant {backend : Backend} {filter : Filter}
    (done : backend.compileNode negated depth filter = .ok compiled) :
    compiled.constant? = (filter.spread negated).folded.constant? := by
  refine compile_node_induct
    (motive := fun negated filter outcome =>
      outcome.constant? = (filter.spread negated).folded.constant?)
    ?compare ?oneOf ?between ?not ?group ?negatedGroup done
  case compare | between =>
    intros
    rfl
  case oneOf =>
    intro negated field values literals _ _
    rw [Filter.spread_one_of_folded]
    rfl
  case not =>
    intro negated condition outcome same
    exact same
  case group =>
    intro negated combinator conditions parts _ each
    have same : parts.map Compiled.constant? =
        conditions.map fun condition => (condition.spread negated).folded.constant? := by
      induction each with
      | nil => rfl
      | cons head _ ih => rw [List.map_cons, List.map_cons, head, ih]
    rw [Compiled.combine_constant, same, spread_group_constant]
  case negatedGroup =>
    intro combinator conditions outcome _ same
    have negative : outcome.negate.constant? = outcome.constant?.map not := by
      cases outcome <;> rfl
    rw [negative, same]
    exact (spread_not_constant false _).symm

end SearchIndex
