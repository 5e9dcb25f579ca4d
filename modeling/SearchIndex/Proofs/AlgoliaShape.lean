import SearchIndex.Proofs.TestTree

/-! The filters that Algolia is sent. The grammar of what it evaluates is given on normal forms,
apart from the check that the compiler makes: conjunctions, however nested, of clauses, which are
single tests or disjunctions, however nested, of tests of one kind. A shape describes a normal form,
the check finds the shape that describes the normal form of its filter, and so a formula is sent
only for filters in the grammar. -/
namespace SearchIndex.Algolia

/-! ## The grammar -/

/-- Equality and membership are tests of facets; whatever asks for order is a test of numbers. -/
def testKind : FieldTest → Kind
  | .compare _ .eq _ | .compare _ .ne _ | .oneOf .. => .facet
  | .compare .. | .between .. => .numeric

/-- A single test, or a disjunction of clauses, with tests of one kind only. -/
inductive IsClause : Kind → TestTree → Prop where
  | leaf (negated : Bool) (test : FieldTest) : IsClause (testKind test) (.leaf negated test)
  | disjunction (inhabited : parts ≠ []) (each : ∀ part ∈ parts, IsClause kind part) :
      IsClause kind (.group .or parts)

/-- A clause, or a conjunction of such trees. -/
inductive IsConjunction : TestTree → Prop where
  | clause (clause : IsClause kind tree) : IsConjunction tree
  | conjunction (each : ∀ part ∈ parts, IsConjunction part) : IsConjunction (.group .and parts)

theorem clause_leaf_iff : IsClause kind (.leaf negated test) ↔ testKind test = kind := by
  constructor
  · rintro ⟨⟩
    rfl
  · rintro rfl
    exact .leaf negated test

theorem clause_or_iff :
    IsClause kind (.group .or parts) ↔ parts ≠ [] ∧ ∀ part ∈ parts, IsClause kind part := by
  constructor
  · rintro ⟨⟩
    exact ⟨‹_›, ‹_›⟩
  · rintro ⟨inhabited, each⟩
    exact .disjunction inhabited each

theorem not_clause_and : ¬ IsClause kind (.group .and parts) := nofun

/-- A clause has one kind. -/
theorem clause_kind_unique {tree : TestTree} (clause : IsClause kind tree)
    (other : IsClause kind' tree) : kind = kind' := by
  induction tree with
  | leaf negated test => exact (clause_leaf_iff.mp clause).symm.trans (clause_leaf_iff.mp other)
  | group combinator parts ih =>
    cases combinator with
    | and => exact (not_clause_and clause).elim
    | or =>
      obtain ⟨inhabited, each⟩ := clause_or_iff.mp clause
      obtain ⟨part, member⟩ := List.exists_mem_of_ne_nil parts inhabited
      exact ih part member (each part member) ((clause_or_iff.mp other).2 part member)

theorem conjunction_and_iff :
    IsConjunction (.group .and parts) ↔ ∀ part ∈ parts, IsConjunction part := by
  constructor
  · intro conjunction
    cases conjunction with
    | clause clause => exact (not_clause_and clause).elim
    | conjunction each => exact each
  · exact .conjunction

theorem conjunction_or_iff :
    IsConjunction (.group .or parts) ↔ ∃ kind, IsClause kind (.group .or parts) := by
  constructor
  · intro conjunction
    cases conjunction with
    | clause clause => exact ⟨_, clause⟩
  · rintro ⟨kind, clause⟩
    exact .clause clause

/-! ## Parts of a tree -/

/-- A tree that stands in another. -/
inductive Occurs (part : TestTree) : TestTree → Prop where
  | here : Occurs part part
  | inside (member : outer ∈ parts) (occurs : Occurs part outer) :
      Occurs part (.group combinator parts)

theorem clause_of_occurs (occurs : Occurs part tree) (clause : IsClause kind tree) :
    IsClause kind part := by
  induction occurs with
  | here => exact clause
  | @inside parts outer combinator member _ ih =>
    cases combinator with
    | and => exact (not_clause_and clause).elim
    | or => exact ih ((clause_or_iff.mp clause).2 outer member)

theorem conjunction_of_occurs (occurs : Occurs part tree) (conjunction : IsConjunction tree) :
    IsConjunction part := by
  induction occurs with
  | here => exact conjunction
  | @inside parts outer combinator member _ ih =>
    cases combinator with
    | and => exact ih (conjunction_and_iff.mp conjunction outer member)
    | or =>
      obtain ⟨kind, clause⟩ := conjunction_or_iff.mp conjunction
      exact ih (.clause ((clause_or_iff.mp clause).2 outer member))

/-- In a tree of the grammar no conjunction stands inside a disjunction, and all tests inside a
disjunction are of one kind. -/
theorem disjunctions_are_plain (conjunction : IsConjunction tree)
    (occurs : Occurs (.group .or parts) tree) :
    (∀ others, ¬ Occurs (.group .and others) (.group .or parts)) ∧
      ∃ kind, ∀ negated test, Occurs (.leaf negated test) (.group .or parts) →
        testKind test = kind := by
  obtain ⟨kind, clause⟩ := conjunction_or_iff.mp (conjunction_of_occurs occurs conjunction)
  refine ⟨fun others inner => not_clause_and (clause_of_occurs inner clause), kind, ?_⟩
  intro negated test inner
  exact clause_leaf_iff.mp (clause_of_occurs inner clause)

/-! ## Shapes -/

/-- The normal form has the shape, and is in the grammar. -/
inductive Describes : Shape → Folded → Prop where
  | constant (value : Bool) : Describes (.constant value) (.constant value)
  | test (negated : Bool) (test : FieldTest) :
      Describes (.test (testKind test)) (.tree (.leaf negated test))
  | disjunction (clause : IsClause kind (.group .or parts)) :
      Describes (.disjunction kind) (.tree (.group .or parts))
  | conjunction (each : ∀ part ∈ parts, IsConjunction part) :
      Describes .conjunction (.tree (.group .and parts))

/-- A constant or a tree of the grammar. -/
def IsEvaluable : Folded → Prop
  | .constant _ => True
  | .tree kept => IsConjunction kept

theorem evaluable_of_described (describes : Describes form folded) :
    IsEvaluable folded := by
  cases describes with
  | constant => trivial
  | test negated test => exact .clause (.leaf negated test)
  | disjunction clause => exact .clause clause
  | conjunction each => exact .conjunction each

/-- The kind of a shape is that of the clause it describes; there is none for a conjunction. -/
theorem kind_ok_iff (describes : Describes form (.tree tree)) :
    form.kind = .ok kind ↔ IsClause kind tree := by
  cases describes with
  | test negated test =>
    rw [clause_leaf_iff]
    simp [Shape.kind]
  | disjunction clause =>
    constructor
    · rintro ⟨⟩
      exact clause
    · intro other
      rw [clause_kind_unique clause other]
      rfl
  | conjunction each => exact ⟨nofun, fun clause => (not_clause_and clause).elim⟩

section
variable {forms : List Shape} {trees : List TestTree}

theorem disjunction_from_ok_iff
    (describe : List.Forall₂ (fun form tree => Describes form (.tree tree)) forms trees) :
    disjunctionFrom kind forms = .ok form ↔
      form = .disjunction kind ∧ ∀ tree ∈ trees, IsClause kind tree := by
  induction describe with
  | nil => simp [disjunctionFrom, eq_comm]
  | @cons first tree rest others head _ ih =>
    rw [disjunctionFrom, except_bind_ok, List.forall_mem_cons]
    constructor
    · rintro ⟨other, known, finished⟩
      split at finished
      · rename_i same
        subst same
        obtain ⟨rfl, each⟩ := ih.mp finished
        exact ⟨rfl, (kind_ok_iff head).mp known, each⟩
      · cases finished
    · rintro ⟨rfl, clause, each⟩
      refine ⟨kind, (kind_ok_iff head).mpr clause, ?_⟩
      rw [if_pos rfl]
      exact ih.mpr ⟨rfl, each⟩

theorem evaluable_of_all_described
    (describe : List.Forall₂ (fun form tree => Describes form (.tree tree)) forms trees) :
    ∀ tree ∈ trees, IsConjunction tree :=
  forall₂_right (describe.imp fun _ _ head => evaluable_of_described head)

/-- The shape of a combination describes the combination of the trees that its parts describe. -/
theorem combination_describes
    (describe : List.Forall₂ (fun form tree => Describes form (.tree tree)) forms trees)
    (done : combination combinator forms = .ok form) :
    Describes form (.ofTrees combinator trees) := by
  cases describe with
  | nil =>
    cases done
    cases combinator <;> exact .constant _
  | cons head tail =>
    cases tail with
    | nil =>
      cases done
      exact head
    | cons next rest =>
      cases combinator with
      | and =>
        cases done
        exact .conjunction (evaluable_of_all_described (.cons head (.cons next rest)))
      | or =>
        simp only [combination, except_bind_ok] at done
        obtain ⟨kind, known, finished⟩ := done
        obtain ⟨rfl, each⟩ := (disjunction_from_ok_iff (.cons next rest)).mp finished
        have all_clauses := List.forall_mem_cons.mpr ⟨(kind_ok_iff head).mp known, each⟩
        exact .disjunction (.disjunction (List.cons_ne_nil _ _) all_clauses)

/-- The combination of trees has a shape if it is in the grammar. -/
theorem combination_succeeds
    (describe : List.Forall₂ (fun form tree => Describes form (.tree tree)) forms trees)
    (evaluable : IsEvaluable (.ofTrees combinator trees)) :
    ∃ form, combination combinator forms = .ok form := by
  cases describe with
  | nil => exact ⟨_, rfl⟩
  | cons head tail =>
    cases tail with
    | nil => exact ⟨_, rfl⟩
    | cons next rest =>
      cases combinator with
      | and => exact ⟨_, rfl⟩
      | or =>
        obtain ⟨kind, clause⟩ := conjunction_or_iff.mp evaluable
        obtain ⟨first, others⟩ := List.forall_mem_cons.mp (clause_or_iff.mp clause).2
        refine ⟨.disjunction kind, ?_⟩
        simp only [combination, except_bind_ok]
        exact ⟨kind, (kind_ok_iff head).mpr first,
          (disjunction_from_ok_iff (.cons next rest)).mpr ⟨rfl, others⟩⟩

end

/-! ## The check -/

/-- What is found of the parts of a combination, of which a constant other than `value` decides it:
that there is such a part, or shapes that describe all that is left of the parts. -/
inductive DescribesParts (value : Bool) : Option (List Shape) → List Folded → Prop where
  | decided (member : .constant (!value) ∈ parts) : DescribesParts value none parts
  | left (undecided : .constant (!value) ∉ parts)
      (describe : List.Forall₂ (fun form tree => Describes form (.tree tree)) forms
        (parts.filterMap Folded.tree?)) :
      DescribesParts value (some forms) parts

/-- A part that is the constant of the combination of nothing changes nothing. -/
theorem DescribesParts.cons_identity (found : DescribesParts value outcome rest) :
    DescribesParts value outcome (.constant value :: rest) := by
  have other : Folded.constant (!value) ≠ .constant value := by simp
  cases found with
  | decided member => exact .decided (List.mem_cons_of_mem _ member)
  | left undecided describe =>
    exact .left (fun member => (List.mem_cons.mp member).elim other undecided) describe

/-- The shape of a part that is left is found too. -/
theorem DescribesParts.cons_kept (found : DescribesParts value outcome rest)
    (kept : Describes form (.tree tree)) :
    DescribesParts value (outcome.map (form :: ·)) (.tree tree :: rest) := by
  cases found with
  | decided member => exact .decided (List.mem_cons_of_mem _ member)
  | left undecided describe =>
    exact .left (fun member => (List.mem_cons.mp member).elim nofun undecided)
      (.cons kept describe)

section
variable {negated value : Bool} {conditions : List Filter}

/-- A constant part is dropped, or decides the combination. -/
theorem shapes_cons_constant (found : shape negated condition = .ok (.constant first)) :
    shapes negated value (condition :: rest) =
      if first = value then shapes negated value rest else .ok none := by
  rw [shapes, found]
  rfl

theorem shapes_cons_kept (found : shape negated condition = .ok form)
    (kept : Describes form (.tree tree)) :
    shapes negated value (condition :: rest) =
      (shapes negated value rest).map (Option.map (form :: ·)) := by
  rw [shapes, found]
  cases kept <;> cases shapes negated value rest <;> rfl

theorem shapes_describe
    (each : ∀ condition ∈ conditions, ∀ form, shape negated condition = .ok form →
      Describes form (condition.spread negated).folded)
    (done : shapes negated value conditions = .ok outcome) :
    DescribesParts value outcome
      (conditions.map fun condition => (condition.spread negated).folded) := by
  induction conditions generalizing outcome with
  | nil =>
    cases done
    exact .left nofun .nil
  | cons condition rest ih =>
    obtain ⟨here, later⟩ := List.forall_mem_cons.mp each
    rw [List.map_cons]
    cases found : shape negated condition with
    | error error =>
      rw [shapes, found] at done
      cases done
    | ok form =>
      have described := here form found
      cases left : (condition.spread negated).folded with
      | constant first =>
        rw [left] at described
        cases described
        rw [shapes_cons_constant found] at done
        split at done
        · rename_i same
          subst same
          exact (ih later done).cons_identity
        · rename_i other
          have decides : first = !value := by
            cases first <;> cases value <;> simp_all
          subst decides
          cases done
          exact .decided List.mem_cons_self
      | tree kept =>
        rw [left] at described
        rw [shapes_cons_kept found described] at done
        cases others : shapes negated value rest with
        | error error =>
          rw [others] at done
          cases done
        | ok tail =>
          rw [others] at done
          cases done
          exact (ih later others).cons_kept described

/-- If every part of a combination has a shape, they all can be looked at. -/
theorem shapes_succeed (value : Bool)
    (each : ∀ condition ∈ conditions, ∃ form, shape negated condition = .ok form) :
    ∃ outcome, shapes negated value conditions = .ok outcome := by
  induction conditions with
  | nil => exact ⟨_, rfl⟩
  | cons condition rest ih =>
    obtain ⟨⟨form, found⟩, later⟩ := List.forall_mem_cons.mp each
    obtain ⟨tail, others⟩ := ih later
    simp only [shapes, found, except_bind_ok, Except.ok.injEq, exists_eq_left']
    cases form with
    | constant first =>
      simp only
      split
      · exact ⟨tail, others⟩
      · exact ⟨none, rfl⟩
    | test | disjunction | conjunction => exact ⟨_, by rw [others]; rfl⟩

end

theorem identity_eq_join (combinator : Combinator) : identity combinator = combinator.join [] := by
  cases combinator <;> rfl

/-- The shape of a list of values describes the list, spelled out if there are several. -/
theorem one_of_describes (done : shape negated (.oneOf field values) = .ok form) :
    Describes form (Filter.spread negated (.oneOf field values)).folded := by
  rw [Filter.spread_one_of_folded]
  simp only [shape, Filter.spread] at done ⊢
  by_cases few : values.length < 2
  · rw [if_pos (Nat.le_of_lt_succ few)] at done
    rw [if_pos few]
    cases done
    exact .test negated (.oneOf field values)
  · have spelled {comparison : Comparison} (facet : comparison = .eq ∨ comparison = .ne) :
        ∀ part ∈ values.map fun value => TestTree.leaf false (.compare field comparison value),
          IsClause .facet part := by
      intro part member
      obtain ⟨value, -, rfl⟩ := List.mem_map.mp member
      rcases facet with rfl | rfl
      · exact .leaf false (.compare field .eq value)
      · exact .leaf false (.compare field .ne value)
    rw [if_neg (by omega)] at done
    rw [if_neg few]
    cases negated with
    | false =>
      cases done
      refine .disjunction (.disjunction ?_ (spelled (.inl rfl)))
      rintro none
      simp [List.map_eq_nil_iff.mp none] at few
    | true =>
      cases done
      exact .conjunction fun part member => .clause (spelled (.inr rfl) part member)

/-- The shape that the check finds describes the normal form of the filter. -/
theorem shape_describes {filter : Filter} (done : shape negated filter = .ok form) :
    Describes form (filter.spread negated).folded := by
  induction filter generalizing negated form with
  | compare field comparison value =>
    cases done
    have kind : Kind.ofComparison comparison = testKind (.compare field comparison value) := by
      cases comparison <;> rfl
    rw [kind]
    exact .test negated (.compare field comparison value)
  | oneOf field values => exact one_of_describes done
  | between field low high =>
    cases done
    exact .test negated (.between field low high)
  | group combinator conditions ih =>
    rw [Filter.spread_group_folded]
    simp only [shape, except_bind_ok, identity_eq_join] at done
    obtain ⟨outcome, looked, finished⟩ := done
    have parts := shapes_describe (fun condition member form => ih condition member) looked
    cases parts with
    | decided member =>
      cases finished
      rw [Folded.combine_decided member]
      exact .constant _
    | left undecided describe =>
      rw [Folded.combine_undecided undecided]
      exact combination_describes describe finished
  | not condition ih => exact ih done

/-- A combination of filters that have shapes has one if its normal form is in the grammar. -/
theorem shape_group_succeeds
    (each : ∀ condition ∈ conditions, ∃ form, shape negated condition = .ok form)
    (whole : IsEvaluable (Filter.spread negated (.group combinator conditions)).folded) :
    ∃ form, shape negated (.group combinator conditions) = .ok form := by
  simp only [shape, except_bind_ok, identity_eq_join]
  obtain ⟨outcome, looked⟩ := shapes_succeed (Combinator.join _ []) each
  have parts := shapes_describe (fun condition _ form => shape_describes) looked
  cases parts with
  | decided => exact ⟨_, none, looked, rfl⟩
  | left undecided describe =>
    rw [Filter.spread_group_folded, Folded.combine_undecided undecided] at whole
    obtain ⟨form, found⟩ := combination_succeeds describe whole
    exact ⟨form, _, looked, found⟩

theorem shape_test_succeeds {test : Filter} (single : test.isTest = true) (negated : Bool) :
    ∃ form, shape negated test = .ok form := by
  cases test with
  | compare | between => exact ⟨_, rfl⟩
  | oneOf field values =>
    simp only [shape]
    split
    · exact ⟨_, rfl⟩
    · split <;> exact ⟨_, rfl⟩
  | group | not => cases single

/-- Each part of a filter has a normal form, under the sign that it has in the filter, which is a
constant or in the grammar. -/
def EvaluableThroughout (negated : Bool) (filter : Filter) : Prop :=
  ∀ (part : Filter) above reversed, part.Stands above reversed filter →
    IsEvaluable (part.spread (negated ^^ reversed)).folded

theorem evaluable_throughout_group_iff :
    EvaluableThroughout negated (.group combinator conditions) ↔
      IsEvaluable (Filter.spread negated (.group combinator conditions)).folded ∧
        ∀ condition ∈ conditions, EvaluableThroughout negated condition := by
  rw [EvaluableThroughout, Filter.forall_stands_group, Bool.xor_false]
  rfl

theorem evaluable_throughout_not_iff :
    EvaluableThroughout negated (.not condition) ↔
      IsEvaluable (condition.spread !negated).folded ∧
        EvaluableThroughout (!negated) condition := by
  rw [EvaluableThroughout, Filter.forall_stands_not, Bool.xor_false, Filter.spread]
  simp only [EvaluableThroughout, Bool.xor_not, Bool.not_xor]

/-- A filter has a shape if the normal form of each of its parts is a constant or in the grammar. -/
theorem shape_succeeds {filter : Filter} (sound : EvaluableThroughout negated filter) :
    ∃ form, shape negated filter = .ok form := by
  induction filter generalizing negated with
  | compare | oneOf | between => exact shape_test_succeeds rfl negated
  | group combinator conditions ih =>
    obtain ⟨whole, each⟩ := evaluable_throughout_group_iff.mp sound
    exact shape_group_succeeds (fun condition member => ih condition member (each condition member))
      whole
  | not condition ih => exact ih (evaluable_throughout_not_iff.mp sound).2

/-! ## Main statement -/

/-- Neither of two tags, at most ten pieces, and on sale or of one of two brands. -/
private def fewUntagged : Filter :=
  .not (.group .or [.oneOf "tag" [.string "a", .string "b"], .compare "pieces" .gt (.ofNat 10),
    .not (.group .or [.compare "sale" .eq (.bool true), .group .or [],
      .oneOf "brand" [.string "c", .string "d"]])])

/-- A formula is sent to Algolia only for a filter whose normal form, which accepts what the filter
accepts, is a conjunction of clauses of one kind each: no conjunction stands inside a disjunction,
and no disjunction mixes the kinds. -/
theorem formula_is_conjunction {filter : Filter} {formula : Formula}
    (done : Backend.algolia.compile (some filter) = .ok (.expression formula)) :
    ∃ tree, (filter.spread false).folded = .tree tree ∧ IsConjunction tree ∧
      (∀ parts, Occurs (.group .or parts) tree →
        (∀ others, ¬ Occurs (.group .and others) (.group .or parts)) ∧
          ∃ kind, ∀ negated test, Occurs (.leaf negated test) (.group .or parts) →
            testKind test = kind) ∧
      ∀ document, tree.holds document = filter.holds document := by
  obtain ⟨node, shaped⟩ := compile_some_ok.mp done
  have checked := shaped formula rfl
  simp only [Backend.checkShape, except_bind_ok] at checked
  obtain ⟨form, found, -⟩ := checked
  have evaluable := evaluable_of_described (shape_describes found)
  have left := compile_node_constant node
  have means document := TestTree.folded_holds document (filter.spread false)
  cases folded : (filter.spread false).folded with
  | constant value =>
    rw [folded] at left
    cases left
  | tree tree =>
    rw [folded] at evaluable means
    refine ⟨tree, rfl, evaluable, fun parts => disjunctions_are_plain evaluable, ?_⟩
    intro document
    have same := means document
    rwa [Filter.spread_holds, Bool.false_xor] at same

theorem formula_is_conjunction_few_untagged :
    ∃ formula, Backend.algolia.compile (some fewUntagged) = .ok (.expression formula) ∧
      ∃ tree, (fewUntagged.spread false).folded = .tree tree ∧ IsConjunction tree ∧
        (∀ parts, Occurs (.group .or parts) tree →
          (∀ others, ¬ Occurs (.group .and others) (.group .or parts)) ∧
            ∃ kind, ∀ negated test, Occurs (.leaf negated test) (.group .or parts) →
              testKind test = kind) ∧
        (∃ onSale brands, Occurs (.group .or [onSale, .group .or brands]) tree) ∧
        ∀ document, tree.holds document = fewUntagged.holds document := by
  have compiles : ∃ formula, Backend.algolia.compile (some fewUntagged) =
      .ok (.expression formula) := ⟨_, rfl⟩
  obtain ⟨formula, done⟩ := compiles
  obtain ⟨tree, folded, conjunction, plain, means⟩ := formula_is_conjunction done
  have whole : ∃ untagged few onSale brands, (fewUntagged.spread false).folded =
      .tree (.group .and [untagged, few, .group .or [onSale, .group .or brands]]) :=
    ⟨_, _, _, _, rfl⟩
  obtain ⟨untagged, few, onSale, brands, found⟩ := whole
  cases folded.symm.trans found
  exact ⟨formula, done, _, folded, conjunction, plain,
    ⟨onSale, brands, .inside (by simp) .here⟩, means⟩

end SearchIndex.Algolia
