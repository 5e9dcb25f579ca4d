import Mathlib.Logic.Relation
import SearchIndex.Proofs.AlgoliaShape
import SearchIndex.Proofs.CompileSuccess

/-! Filters whose conditions are put in another order. Whether a filter compiles for the other
services, and to what constant, does not depend on the order, and neither does its normal form
beyond the order of its parts. Algolia's check depends on it: a part out of the grammar is refused
in front of a constant that decides its combination and is overlooked behind it. -/
namespace SearchIndex

/-- What holds of all elements of a list still does if one of them gives way to another of which it
holds too. -/
theorem forall_mem_exchange {property : α → Prop} {old new : α} {before after : List α}
    (each : ∀ element ∈ before ++ old :: after, property element)
    (kept : property old → property new) :
    ∀ element ∈ before ++ new :: after, property element := by
  rw [List.forall_mem_append, List.forall_mem_cons] at each ⊢
  obtain ⟨first, middle, last⟩ := each
  exact ⟨first, kept middle, last⟩

/-! ## Orders of conditions -/

namespace Filter

/-- The conditions of one combination in a filter are put in another order. -/
inductive Reorders : Filter → Filter → Prop where
  | order (perm : conditions.Perm others) :
      Reorders (.group combinator conditions) (.group combinator others)
  | condition (inside : Reorders condition other) :
      Reorders (.group combinator (before ++ condition :: after))
        (.group combinator (before ++ other :: after))
  | negation (inside : Reorders condition other) : Reorders (.not condition) (.not other)

/-- The conditions of the combinations in a filter are put in some order, at any depth. -/
def Rearranged : Filter → Filter → Prop :=
  Relation.ReflTransGen Reorders

theorem reorders_symm (step : Reorders filter other) : Reorders other filter := by
  induction step with
  | order perm => exact .order perm.symm
  | condition _ ih => exact .condition ih
  | negation _ ih => exact .negation ih

/-- What stays true when one combination is put in another order stays true when any are. -/
theorem kept_by_rearranged {motive : Filter → Prop} (rearranged : Rearranged filter other)
    (kept : ∀ {filter other}, Reorders filter other → motive filter → motive other)
    (before : motive filter) : motive other := by
  induction rearranged with
  | refl => exact before
  | tail _ step ih => exact kept step ih

theorem rearranged_symm (rearranged : Rearranged filter other) : Rearranged other filter :=
  kept_by_rearranged (motive := fun reached => Rearranged reached filter) rearranged
    (fun step back => back.head (reorders_symm step)) .refl

theorem rearranged_not (rearranged : Rearranged condition other) :
    Rearranged (.not condition) (.not other) :=
  Relation.ReflTransGen.lift Filter.not (fun _ _ step => .negation step) _ _ rearranged

theorem rearranged_condition (combinator : Combinator) (before after : List Filter)
    (rearranged : Rearranged condition other) :
    Rearranged (.group combinator (before ++ condition :: after))
      (.group combinator (before ++ other :: after)) :=
  Relation.ReflTransGen.lift (fun inside => Filter.group combinator (before ++ inside :: after))
    (fun _ _ step => .condition step) _ _ rearranged

/-- The conditions of a combination can be rearranged one by one. -/
theorem rearranged_conditions (combinator : Combinator)
    (each : List.Forall₂ Rearranged conditions others) :
    Rearranged (.group combinator conditions) (.group combinator others) := by
  suffices behind : ∀ before, Rearranged (.group combinator (before ++ conditions))
      (.group combinator (before ++ others)) from behind []
  induction each with
  | nil => exact fun _ => .refl
  | @cons condition other rest _ head _ ih =>
    intro before
    have tail := ih (before ++ [other])
    simp only [List.append_assoc, List.singleton_append] at tail
    exact (rearranged_condition combinator before rest head).trans tail

/-- One condition can be rearranged and put in front of the others. -/
theorem rearranged_to_front (combinator : Combinator) (before after : List Filter)
    (rearranged : Rearranged condition other) :
    Rearranged (.group combinator (before ++ condition :: after))
      (.group combinator (other :: (before ++ after))) :=
  (rearranged_condition combinator before after rearranged).tail (.order List.perm_middle)

/-- Whether a filter compiles does not depend on the order of its conditions. -/
theorem compile_of_reorders {backend : Backend} (step : Reorders filter other)
    (compiles : ∃ compiled, backend.compileNode negated depth filter = .ok compiled) :
    ∃ compiled, backend.compileNode negated depth other = .ok compiled := by
  induction step generalizing negated depth with
  | order perm =>
    rw [compile_group_succeeds_iff] at compiles ⊢
    exact ⟨compiles.1, fun condition member => compiles.2 condition (perm.mem_iff.mpr member)⟩
  | condition _ ih =>
    rw [compile_group_succeeds_iff] at compiles ⊢
    exact ⟨compiles.1, forall_mem_exchange compiles.2 ih⟩
  | negation _ ih =>
    simp only [compile_not_ok, exists_and_left] at compiles ⊢
    exact ⟨compiles.1, ih compiles.2⟩

theorem compile_of_rearranged {backend : Backend} (rearranged : Rearranged filter other)
    (compiles : ∃ compiled, backend.compileNode negated depth filter = .ok compiled) :
    ∃ compiled, backend.compileNode negated depth other = .ok compiled :=
  kept_by_rearranged rearranged compile_of_reorders compiles

end Filter

/-! ## Orders in normal forms -/

/-- The parts of one combination in a tree are put in another order. -/
inductive TestTree.Reorders : TestTree → TestTree → Prop where
  | order (combinator : Combinator) (perm : parts.Perm others) :
      Reorders (.group combinator parts) (.group combinator others)
  | part (combinator : Combinator) (inside : Reorders part other) :
      Reorders (.group combinator (before ++ part :: after))
        (.group combinator (before ++ other :: after))

/-- The same is left of two trees but for the order of parts in one combination. -/
inductive Folded.Reorders : Folded → Folded → Prop where
  | same (folded : Folded) : Reorders folded folded
  | tree (step : TestTree.Reorders kept other) : Reorders (.tree kept) (.tree other)

theorem Filter.spread_reorders (negated : Bool) (step : Reorders filter other) :
    (filter.spread negated).Reorders (other.spread negated) := by
  induction step generalizing negated with
  | order perm =>
    simp only [spread, spread_all_map]
    exact .order _ (perm.map _)
  | condition _ ih =>
    simp only [spread, spread_all_map, List.map_append, List.map_cons]
    exact .part _ (ih negated)
  | negation _ ih => exact ih (!negated)

namespace Folded

theorem constant_of_reorders (step : Reorders folded other) :
    other.constant? = folded.constant? := by
  cases step <;> rfl

theorem combine_perm (combinator : Combinator) {parts others : List Folded}
    (perm : parts.Perm others) :
    Reorders (combine combinator parts) (combine combinator others) := by
  by_cases decided : .constant (!combinator.join []) ∈ parts
  · rw [combine_decided decided, combine_decided (perm.mem_iff.mp decided)]
    exact .same _
  · rw [combine_undecided decided, combine_undecided (mt perm.mem_iff.mpr decided)]
    have kept := perm.filterMap tree?
    by_cases several : 2 ≤ (parts.filterMap tree?).length
    · have several' : 2 ≤ (others.filterMap tree?).length := kept.length_eq ▸ several
      rw [of_trees_several combinator several, of_trees_several combinator several']
      exact .tree (.order combinator kept)
    · have unchanged : others.filterMap tree? = parts.filterMap tree? := by
        match parts.filterMap tree?, several, kept with
        | [], _, kept => exact List.perm_nil.mp kept.symm
        | [_], _, kept => exact List.perm_singleton.mp kept.symm
        | _ :: _ :: _, several, _ => simp at several
      rw [unchanged]
      exact .same _

theorem combine_exchange (combinator : Combinator) (before after : List Folded)
    (step : Reorders part other) :
    Reorders (combine combinator (before ++ part :: after))
      (combine combinator (before ++ other :: after)) := by
  cases step with
  | same => exact .same _
  | @tree kept moved step =>
    by_cases decided : .constant (!combinator.join []) ∈ before ++ after
    · have inside (tree : TestTree) :
          Folded.constant (!combinator.join []) ∈ before ++ .tree tree :: after := by
        simpa using decided
      rw [combine_decided (inside kept), combine_decided (inside moved)]
      exact .same _
    · have outside (tree : TestTree) :
          Folded.constant (!combinator.join []) ∉ before ++ .tree tree :: after := by
        simpa using decided
      rw [combine_undecided (outside kept), combine_undecided (outside moved)]
      simp only [List.filterMap_append, List.filterMap_cons, tree?]
      by_cases alone : before.filterMap tree? = [] ∧ after.filterMap tree? = []
      · rw [alone.1, alone.2]
        exact .tree step
      · have several (tree : TestTree) :
            2 ≤ (before.filterMap tree? ++ tree :: after.filterMap tree?).length := by
          rw [← List.length_eq_zero_iff, ← List.length_eq_zero_iff] at alone
          rw [List.length_append, List.length_cons]
          omega
        rw [of_trees_several combinator (several kept), of_trees_several combinator (several moved)]
        exact .tree (.part combinator step)

end Folded

theorem TestTree.folded_reorders (step : Reorders tree other) :
    tree.folded.Reorders other.folded := by
  induction step with
  | order _ perm =>
    simp only [folded, folded_all_map]
    exact Folded.combine_perm _ (perm.map _)
  | part _ _ ih =>
    simp only [folded, folded_all_map, List.map_append, List.map_cons]
    exact Folded.combine_exchange _ _ _ ih

/-- The normal form of a filter with its conditions in another order is that of the filter, with its
parts in another order. -/
theorem Filter.normal_form_reorders (negated : Bool) (step : Reorders filter other) :
    (filter.spread negated).folded.Reorders (other.spread negated).folded :=
  TestTree.folded_reorders (spread_reorders negated step)

/-- The constant that a filter amounts to does not depend on the order of its conditions. -/
theorem Filter.constant_of_rearranged (negated : Bool) (rearranged : Rearranged filter other) :
    (other.spread negated).folded.constant? = (filter.spread negated).folded.constant? :=
  kept_by_rearranged rearranged
    (fun step => (Folded.constant_of_reorders (normal_form_reorders negated step)).trans) rfl

namespace Algolia

/-! ## The grammar and the order -/

theorem clause_of_reorders (step : TestTree.Reorders tree other) (clause : IsClause kind tree) :
    IsClause kind other := by
  induction step with
  | order combinator perm =>
    cases combinator with
    | and => exact (not_clause_and clause).elim
    | or =>
      obtain ⟨inhabited, each⟩ := clause_or_iff.mp clause
      refine .disjunction ?_ fun part member => each part (perm.mem_iff.mpr member)
      rintro rfl
      exact inhabited perm.eq_nil
  | part combinator _ ih =>
    cases combinator with
    | and => exact (not_clause_and clause).elim
    | or =>
      obtain ⟨-, each⟩ := clause_or_iff.mp clause
      exact .disjunction (by simp) (forall_mem_exchange each ih)

theorem conjunction_of_reorders (step : TestTree.Reorders tree other)
    (conjunction : IsConjunction tree) : IsConjunction other := by
  induction step with
  | order combinator perm =>
    cases combinator with
    | and =>
      have each := conjunction_and_iff.mp conjunction
      exact .conjunction fun part member => each part (perm.mem_iff.mpr member)
    | or =>
      obtain ⟨kind, clause⟩ := conjunction_or_iff.mp conjunction
      exact .clause (clause_of_reorders (.order .or perm) clause)
  | part combinator step ih =>
    cases combinator with
    | and => exact .conjunction (forall_mem_exchange (conjunction_and_iff.mp conjunction) ih)
    | or =>
      obtain ⟨kind, clause⟩ := conjunction_or_iff.mp conjunction
      exact .clause (clause_of_reorders (.part .or step) clause)

theorem evaluable_of_reorders (step : Folded.Reorders folded other)
    (evaluable : IsEvaluable folded) : IsEvaluable other := by
  cases step with
  | same => exact evaluable
  | tree step => exact conjunction_of_reorders step evaluable

/-- Whether the normal form of a filter is in the grammar does not depend on the order of its
conditions. -/
theorem evaluable_of_rearranged (rearranged : Filter.Rearranged filter other)
    (evaluable : IsEvaluable (filter.spread negated).folded) :
    IsEvaluable (other.spread negated).folded :=
  Filter.kept_by_rearranged rearranged
    (fun step => evaluable_of_reorders (Filter.normal_form_reorders negated step)) evaluable

theorem throughout_of_reorders (step : Filter.Reorders filter other)
    (sound : EvaluableThroughout negated filter) : EvaluableThroughout negated other := by
  induction step generalizing negated with
  | order perm =>
    obtain ⟨whole, each⟩ := evaluable_throughout_group_iff.mp sound
    exact evaluable_throughout_group_iff.mpr
      ⟨evaluable_of_rearranged (.single (.order perm)) whole,
        fun condition member => each condition (perm.mem_iff.mpr member)⟩
  | condition step ih =>
    obtain ⟨whole, each⟩ := evaluable_throughout_group_iff.mp sound
    exact evaluable_throughout_group_iff.mpr
      ⟨evaluable_of_rearranged (.single (.condition step)) whole, forall_mem_exchange each ih⟩
  | negation step ih =>
    obtain ⟨whole, inside⟩ := evaluable_throughout_not_iff.mp sound
    exact evaluable_throughout_not_iff.mpr
      ⟨evaluable_of_rearranged (.single step) whole, ih inside⟩

theorem throughout_of_rearranged (rearranged : Filter.Rearranged filter other)
    (sound : EvaluableThroughout negated filter) : EvaluableThroughout negated other :=
  Filter.kept_by_rearranged rearranged throughout_of_reorders sound

/-! ## Orders with a shape and orders without -/

/-- The trees of a combination in the grammar are in the grammar. -/
theorem evaluable_of_trees (evaluable : IsEvaluable (.ofTrees combinator trees)) :
    ∀ tree ∈ trees, IsConjunction tree := by
  match trees with
  | [] => exact nofun
  | [tree] => exact List.forall_mem_singleton.mpr evaluable
  | first :: second :: rest =>
    cases combinator with
    | and => exact conjunction_and_iff.mp evaluable
    | or =>
      obtain ⟨kind, clause⟩ := conjunction_or_iff.mp evaluable
      exact fun tree member => .clause ((clause_or_iff.mp clause).2 tree member)

/-- Where no constant decides a combination in the grammar, its parts are in the grammar. -/
theorem evaluable_of_undecided {parts : List Folded}
    (undecided : .constant (!combinator.join []) ∉ parts)
    (evaluable : IsEvaluable (.combine combinator parts)) : ∀ part ∈ parts, IsEvaluable part := by
  rw [Folded.combine_undecided undecided] at evaluable
  intro part member
  cases part with
  | constant value => trivial
  | tree tree => exact evaluable_of_trees evaluable tree (List.mem_filterMap.mpr ⟨_, member, rfl⟩)

/-- A combination whose first condition decides it has a shape, whatever is behind. -/
theorem shape_decided_in_front
    (found : shape negated condition =
      .ok (.constant !(if negated then combinator.dual else combinator).join [])) :
    ∃ form, shape negated (.group combinator (condition :: rest)) = .ok form := by
  simp only [shape, except_bind_ok, identity_eq_join, shapes_cons_constant found]
  exact ⟨_, none, if_neg (by simp), rfl⟩

/-- The first condition of a combination is looked at in any case. -/
theorem shape_of_front (found : shape negated (.group combinator (condition :: rest)) = .ok whole) :
    ∃ form, shape negated condition = .ok form := by
  simp only [shape, shapes, except_bind_ok] at found
  obtain ⟨_, ⟨form, first, -⟩, -⟩ := found
  exact ⟨form, first⟩

/-- The shape of a filter that amounts to a constant is that constant. -/
theorem shape_of_constant {filter : Filter} (found : shape negated filter = .ok form)
    (constant : (filter.spread negated).folded.constant? = some value) :
    form = .constant value := by
  have described := shape_describes found
  cases folded : (filter.spread negated).folded with
  | constant other =>
    rw [folded] at described constant
    cases described
    cases constant
    rfl
  | tree tree =>
    rw [folded] at constant
    cases constant

/-- If the normal form of a filter is a constant or in the grammar, then some order of the
conditions gives the filter a shape. -/
theorem exists_order_with_shape {filter : Filter}
    (evaluable : IsEvaluable (filter.spread negated).folded) :
    ∃ other, filter.Rearranged other ∧ ∃ form, shape negated other = .ok form := by
  induction filter generalizing negated with
  | compare | oneOf | between => exact ⟨_, .refl, shape_test_succeeds rfl negated⟩
  | group combinator conditions ih =>
    have parts := evaluable
    rw [Filter.spread_group_folded] at parts
    by_cases decided : .constant (!(if negated then combinator.dual else combinator).join []) ∈
        conditions.map fun condition => (condition.spread negated).folded
    · obtain ⟨condition, member, constant⟩ := List.mem_map.mp decided
      obtain ⟨other, moved, form, found⟩ := ih condition member (by rw [constant]; trivial)
      obtain ⟨before, after, rfl⟩ := List.append_of_mem member
      have unchanged := Filter.constant_of_rearranged negated moved
      rw [constant] at unchanged
      rw [shape_of_constant found unchanged] at found
      exact ⟨_, Filter.rearranged_to_front combinator before after moved,
        shape_decided_in_front found⟩
    · have each := evaluable_of_undecided decided parts
      rw [List.forall_mem_map] at each
      obtain ⟨others, moved⟩ := exists_forall₂_iff.mpr fun condition member =>
        ih condition member (each condition member)
      have rearranged :=
        Filter.rearranged_conditions combinator (moved.imp fun _ _ found => found.1)
      have shaped := forall₂_right (moved.imp fun _ _ found => found.2)
      exact ⟨_, rearranged,
        shape_group_succeeds shaped (evaluable_of_rearranged rearranged evaluable)⟩
  | not condition ih =>
    obtain ⟨other, moved, form, found⟩ := ih evaluable
    exact ⟨_, Filter.rearranged_not moved, form, found⟩

/-- If the normal form of a part is neither a constant nor in the grammar, then some order of the
conditions leaves the filter without a shape. -/
theorem exists_order_without_shape {part filter : Filter}
    (stands : part.Stands above reversed filter)
    (outside : ¬ IsEvaluable (part.spread (negated ^^ reversed)).folded) :
    ∃ other, filter.Rearranged other ∧ ¬ ∃ form, shape negated other = .ok form := by
  induction stands generalizing negated with
  | here =>
    rw [Bool.xor_false] at outside
    exact ⟨_, .refl, fun ⟨form, found⟩ => outside (evaluable_of_described (shape_describes found))⟩
  | @condition condition conditions above reversed combinator member _ ih =>
    obtain ⟨other, moved, refused⟩ := ih outside
    obtain ⟨before, after, rfl⟩ := List.append_of_mem member
    exact ⟨_, Filter.rearranged_to_front combinator before after moved,
      fun ⟨form, found⟩ => refused (shape_of_front found)⟩
  | negation _ ih =>
    rw [Bool.xor_not, ← Bool.not_xor] at outside
    obtain ⟨other, moved, refused⟩ := ih outside
    exact ⟨_, Filter.rearranged_not moved, refused⟩

/-! ## Main statement -/

/-- Algolia takes a filter. -/
def Accepts (filter : Filter) : Prop :=
  ∃ compiled, Backend.algolia.compile (some filter) = .ok compiled

/-- A filter is taken if its parts compile and it amounts to a constant or has a shape. -/
theorem accepts_iff :
    Accepts filter ↔
      (∃ compiled, Backend.algolia.compileNode false 0 filter = .ok compiled) ∧
        ((filter.spread false).folded.constant? = none →
          ∃ form, shape false filter = .ok form) := by
  simp only [Accepts, compile_some_ok, Backend.checkShape, except_bind_ok]
  constructor
  · rintro ⟨compiled, node, shaped⟩
    refine ⟨⟨compiled, node⟩, fun undecided => ?_⟩
    rw [← compile_node_constant node] at undecided
    cases compiled with
    | everything | nothing => cases undecided
    | expression formula =>
      obtain ⟨form, found, -⟩ := shaped formula rfl
      exact ⟨form, found⟩
  · rintro ⟨⟨compiled, node⟩, shaped⟩
    refine ⟨compiled, node, ?_⟩
    rintro formula rfl
    obtain ⟨form, found⟩ := shaped (compile_node_constant node).symm
    exact ⟨form, found, rfl⟩

/-- Some order of its conditions lets Algolia take a filter exactly if it compiles and its normal
form is a constant or in the grammar. -/
theorem accepted_in_some_order_iff :
    (∃ other, filter.Rearranged other ∧ Accepts other) ↔
      (∃ compiled, Backend.algolia.compileNode false 0 filter = .ok compiled) ∧
        IsEvaluable (filter.spread false).folded := by
  constructor
  · rintro ⟨other, moved, accepted⟩
    obtain ⟨node, shaped⟩ := accepts_iff.mp accepted
    have back := Filter.rearranged_symm moved
    refine ⟨Filter.compile_of_rearranged back node, evaluable_of_rearranged back ?_⟩
    cases folded : (other.spread false).folded with
    | constant => trivial
    | tree tree =>
      obtain ⟨form, found⟩ := shaped (by rw [folded]; rfl)
      exact folded ▸ evaluable_of_described (shape_describes found)
  · rintro ⟨node, evaluable⟩
    obtain ⟨other, moved, shaped⟩ := exists_order_with_shape evaluable
    exact ⟨other, moved, accepts_iff.mpr ⟨Filter.compile_of_rearranged moved node, fun _ => shaped⟩⟩

/-- Every order of its conditions lets Algolia take a filter exactly if it compiles and, unless it
amounts to a constant, the normal forms of its parts are constants or in the grammar. -/
theorem accepted_in_every_order_iff :
    (∀ other, filter.Rearranged other → Accepts other) ↔
      (∃ compiled, Backend.algolia.compileNode false 0 filter = .ok compiled) ∧
        ((filter.spread false).folded.constant? = none → EvaluableThroughout false filter) := by
  constructor
  · intro accepted
    refine ⟨(accepts_iff.mp (accepted filter .refl)).1, ?_⟩
    intro undecided part above reversed stands
    by_contra outside
    obtain ⟨other, moved, refused⟩ := exists_order_without_shape stands outside
    rw [← Filter.constant_of_rearranged false moved] at undecided
    exact refused ((accepts_iff.mp (accepted other moved)).2 undecided)
  · rintro ⟨node, sound⟩ other moved
    refine accepts_iff.mpr ⟨Filter.compile_of_rearranged moved node, fun undecided => ?_⟩
    rw [Filter.constant_of_rearranged false moved] at undecided
    exact shape_succeeds (throughout_of_rearranged moved (sound undecided))

/-- The order of conditions never changes whether a filter compiles to everything, to nothing or to
a formula, where it is taken. Whether it is taken is independent of the order exactly if its parts
leave nothing to overlook: if it passes its check within the limit of depth and its normal form is a
tree of the grammar, then the normal form of each part is a constant or in the grammar too. -/
theorem order_of_conditions (filter : Filter) :
    (∀ other compiled compiled', filter.Rearranged other →
      Backend.algolia.compile (some filter) = .ok compiled →
      Backend.algolia.compile (some other) = .ok compiled' →
        compiled'.constant? = compiled.constant?) ∧
    ((∀ other, filter.Rearranged other → (Accepts other ↔ Accepts filter)) ↔
      (filter.check = .ok () → filter.IsWithin 32 → ∀ tree,
        (filter.spread false).folded = .tree tree → IsConjunction tree →
          EvaluableThroughout false filter)) := by
  have node : (∃ compiled, Backend.algolia.compileNode false 0 filter = .ok compiled) ↔
      filter.check = .ok () ∧ filter.IsWithin 32 := by
    simp [compile_node_succeeds_iff, admits_iff]
  refine ⟨?_, ?_, ?_⟩
  · intro other compiled compiled' moved done done'
    rw [compile_node_constant (compile_some_ok.mp done).1,
      compile_node_constant (compile_some_ok.mp done').1]
    exact Filter.constant_of_rearranged false moved
  · intro same valid within tree normal conjunction
    obtain ⟨other, moved, accepted⟩ :=
      accepted_in_some_order_iff.mpr ⟨node.mpr ⟨valid, within⟩, normal ▸ conjunction⟩
    have every (another : Filter) (moved' : filter.Rearranged another) : Accepts another :=
      (same another moved').mpr ((same other moved).mp accepted)
    exact (accepted_in_every_order_iff.mp every).2 (by rw [normal]; rfl)
  · intro sound
    have every {one : Filter} (moved : filter.Rearranged one) (accepted : Accepts one) :
        ∀ other, filter.Rearranged other → Accepts other := by
      obtain ⟨compiles, evaluable⟩ := accepted_in_some_order_iff.mp ⟨one, moved, accepted⟩
      obtain ⟨valid, within⟩ := node.mp compiles
      refine accepted_in_every_order_iff.mpr ⟨compiles, fun undecided => ?_⟩
      cases normal : (filter.spread false).folded with
      | constant value =>
        rw [normal] at undecided
        cases undecided
      | tree tree =>
        rw [normal] at evaluable
        exact sound valid within tree normal evaluable
    intro other moved
    exact ⟨fun accepted => every moved accepted filter .refl,
      fun accepted => every .refl accepted other moved⟩

/-- Cheap or on sale, which Algolia has no formula for. -/
private def cheapOrOnSale : Filter :=
  .group .or [.compare "price" .lt (.ofNat 30), .compare "tag" .eq (.string "sale")]

/-- A tag, or what is left if a condition that Algolia has no formula for is joined with one that
nothing satisfies, in this order or the other. -/
private def taggedOr (conditions : List Filter) : Filter :=
  .group .or [.group .and conditions, .compare "tag" .eq (.string "a")]

/-- Algolia refuses a filter that it takes with two conditions exchanged. -/
theorem refused_in_one_order :
    (taggedOr [cheapOrOnSale, .group .or []]).Rearranged (taggedOr [.group .or [], cheapOrOnSale]) ∧
      ¬ Accepts (taggedOr [cheapOrOnSale, .group .or []]) ∧
      ∃ formula, Backend.algolia.compile (some (taggedOr [.group .or [], cheapOrOnSale])) =
        .ok (.expression formula) := by
  refine ⟨?_, ?_, _, rfl⟩
  · exact Filter.rearranged_condition .or [] _ (.single (.order (List.Perm.swap _ _ [])))
  · rintro ⟨compiled, done⟩
    cases done

end Algolia

end SearchIndex
