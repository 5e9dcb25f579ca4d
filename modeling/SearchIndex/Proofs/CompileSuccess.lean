import SearchIndex.Proofs.CompileInversion

/-! When filters compile. The compiler and the check for literals go over a filter apart from each
other, and they refuse the same places: at MeiliSearch a filter compiles exactly when it passes its
check and none of its parts stands too deep, and at Typesense its texts must be free of backticks
besides. Folding spares no part from this, and whatever is refused is a fault of the filter. -/
namespace SearchIndex

/-! ## Literals -/

/-- The filter language has a way to write the value, if it is a literal at all: Typesense cannot
write a backtick. -/
def Backend.CanWrite (backend : Backend) (value : Value) : Prop :=
  backend = .typesense → ∀ text, value = .string text → '\x60' ∉ text.toList

theorem literal_exists_iff (backend : Backend) (operator field : String) (value : Value) :
    (∃ literal, backend.literal field value = .ok literal) ↔
      Filter.requireLiteral operator field value = .ok () ∧ backend.CanWrite value := by
  cases value with
  | null | array | object => simp [Backend.literal, Filter.requireLiteral]
  | bool | number => simp [Backend.literal, Filter.requireLiteral, Backend.CanWrite]
  | string text =>
    have accepted : Filter.requireLiteral operator field (.string text) = .ok () := rfl
    simp only [Backend.literal, accepted, true_and, Backend.CanWrite]
    split
    · rename_i refused
      simp [refused]
    · rename_i written
      simpa using written

theorem literals_exist_iff (backend : Backend) (operator field : String) (values : List Value) :
    (∃ literals, backend.literals field values = .ok literals) ↔
      Filter.requireLiterals operator field values = .ok () ∧
        ∀ value ∈ values, backend.CanWrite value := by
  simp only [literals_ok, exists_forall₂_iff, literal_exists_iff backend operator,
    Filter.require_literals_ok, forall_and]

/-! ## Nodes -/

/-- Below some number of nodes, all parts of a filter stand within the limit and compare with values
that the language can write. -/
def Backend.Admits (backend : Backend) (depth : Nat) (filter : Filter) : Prop :=
  ∀ (part : Filter) above reversed, part.Stands above reversed filter →
    depth + above ≤ Backend.depthLimit ∧ ∀ value ∈ part.operands, backend.CanWrite value

section
variable {backend : Backend} {depth : Nat}

theorem admits_test_iff {test : Filter} (single : test.isTest = true) :
    backend.Admits depth test ↔
      depth ≤ Backend.depthLimit ∧ ∀ value ∈ test.operands, backend.CanWrite value := by
  rw [Backend.Admits, Filter.forall_stands_test single]
  rfl

theorem admits_group_iff :
    backend.Admits depth (.group combinator conditions) ↔
      depth ≤ Backend.depthLimit ∧
        ∀ condition ∈ conditions, backend.Admits (depth + 1) condition := by
  simp only [Backend.Admits, Filter.forall_stands_group, Filter.operands, List.not_mem_nil,
    false_imp_iff, implies_true, and_true, Nat.add_zero, Nat.add_assoc, Nat.add_comm 1]

theorem admits_not_iff :
    backend.Admits depth (.not condition) ↔
      depth ≤ Backend.depthLimit ∧ backend.Admits (depth + 1) condition := by
  simp only [Backend.Admits, Filter.forall_stands_not, Filter.operands, List.not_mem_nil,
    false_imp_iff, implies_true, and_true, Nat.add_zero, Nat.add_assoc, Nat.add_comm 1]

/-- A combination compiles when each of its conditions does, wherever negation goes. -/
theorem compile_group_succeeds_iff :
    (∃ compiled, backend.compileNode negated depth (.group combinator conditions) =
        .ok compiled) ↔
      depth ≤ Backend.depthLimit ∧ ∀ condition ∈ conditions, ∃ part, backend.compileNode
        (if backend.negation = .group then false else negated) (depth + 1) condition =
          .ok part := by
  have inwards {negated : Bool} (inward : negated = false ∨ backend.negation ≠ .group) :
      (∃ compiled, backend.compileNode negated depth (.group combinator conditions) =
          .ok compiled) ↔
        depth ≤ Backend.depthLimit ∧ ∀ condition ∈ conditions, ∃ part,
          backend.compileNode negated (depth + 1) condition = .ok part := by
    rw [← exists_forall₂_iff]
    simp only [compile_group_ok inward, compile_nodes_ok]
    constructor
    · rintro ⟨_, shallow, parts, done, rfl⟩
      exact ⟨shallow, parts, done⟩
    · rintro ⟨shallow, parts, done⟩
      exact ⟨_, shallow, parts, done, rfl⟩
  cases negated with
  | false => simpa using inwards (.inl rfl)
  | true =>
    by_cases word : backend.negation = .group
    · rw [if_pos word, ← inwards (.inl rfl)]
      simp only [compile_negated_group_ok word]
      constructor
      · rintro ⟨_, outcome, done, rfl⟩
        exact ⟨outcome, done⟩
      · rintro ⟨outcome, done⟩
        exact ⟨_, outcome, done, rfl⟩
    · rw [if_neg word]
      exact inwards (.inr word)

/-- A filter compiles exactly when it passes its check, no part of it stands too deep, and the
language can write its values. -/
theorem compile_node_succeeds_iff {filter : Filter} :
    (∃ compiled, backend.compileNode negated depth filter = .ok compiled) ↔
      filter.check = .ok () ∧ backend.Admits depth filter := by
  induction filter generalizing negated depth with
  | compare field comparison value =>
    have spelled := literal_exists_iff backend comparison.symbol field value
    rw [admits_test_iff rfl, Filter.check]
    simp only [compile_compare_ok, Filter.operands, List.forall_mem_singleton]
    constructor
    · rintro ⟨_, shallow, literal, made, -⟩
      obtain ⟨valid, written⟩ := spelled.mp ⟨literal, made⟩
      exact ⟨valid, shallow, written⟩
    · rintro ⟨valid, shallow, written⟩
      obtain ⟨literal, made⟩ := spelled.mpr ⟨valid, written⟩
      exact ⟨_, shallow, literal, made, rfl⟩
  | oneOf field values =>
    have spelled := literals_exist_iff backend "in" field values
    rw [admits_test_iff rfl, Filter.check]
    simp only [compile_one_of_ok, Filter.operands]
    constructor
    · rintro ⟨_, shallow, inhabited, literals, made, -⟩
      obtain ⟨valid, written⟩ := spelled.mp ⟨literals, made⟩
      exact ⟨by simpa [inhabited] using valid, shallow, written⟩
    · rintro ⟨valid, shallow, written⟩
      by_cases empty : values = []
      · simp [empty] at valid
      · obtain ⟨literals, made⟩ := spelled.mpr ⟨by simpa [empty] using valid, written⟩
        exact ⟨_, shallow, empty, literals, made, rfl⟩
  | between field low high =>
    have spelledLow := literal_exists_iff backend "between" field low
    have spelledHigh := literal_exists_iff backend "between" field high
    rw [admits_test_iff rfl, Filter.check, except_then_ok]
    simp only [compile_between_ok, Filter.operands, List.forall_mem_cons (a := low),
      List.forall_mem_singleton]
    constructor
    · rintro ⟨_, shallow, least, madeLow, greatest, madeHigh, -⟩
      obtain ⟨validLow, writtenLow⟩ := spelledLow.mp ⟨least, madeLow⟩
      obtain ⟨validHigh, writtenHigh⟩ := spelledHigh.mp ⟨greatest, madeHigh⟩
      exact ⟨⟨validLow, validHigh⟩, shallow, writtenLow, writtenHigh⟩
    · rintro ⟨⟨validLow, validHigh⟩, shallow, writtenLow, writtenHigh⟩
      obtain ⟨least, madeLow⟩ := spelledLow.mpr ⟨validLow, writtenLow⟩
      obtain ⟨greatest, madeHigh⟩ := spelledHigh.mpr ⟨validHigh, writtenHigh⟩
      exact ⟨_, shallow, least, madeLow, greatest, madeHigh, rfl⟩
  | group combinator conditions ih =>
    rw [compile_group_succeeds_iff, admits_group_iff, Filter.check, Filter.check_all_ok]
    constructor
    · rintro ⟨shallow, each⟩
      have known condition member := (ih condition member).mp (each condition member)
      exact ⟨fun condition member => (known condition member).1, shallow,
        fun condition member => (known condition member).2⟩
    · rintro ⟨valid, shallow, each⟩
      exact ⟨shallow, fun condition member =>
        (ih condition member).mpr ⟨valid condition member, each condition member⟩⟩
  | not condition ih =>
    rw [admits_not_iff, Filter.check]
    simp only [compile_not_ok]
    rw [exists_and_left, ih]
    exact and_left_comm

end

/-! ## Failures -/

/-- If the result is a failure, a fault of a filter is to blame. -/
def BlamesFilter (result : Except Error α) : Prop :=
  ∀ error, result = .error error → ∃ fault, error = .ofFilter fault

theorem blames_fault (fault : FilterFault) :
    BlamesFilter (.error (.ofFilter fault) : Except Error α) := by
  rintro _ ⟨⟩
  exact ⟨fault, rfl⟩

theorem blames_ok (outcome : α) : BlamesFilter (.ok outcome) := nofun

theorem blames_bind {first : Except Error α} {second : α → Except Error β}
    (before : BlamesFilter first) (after : ∀ middle, BlamesFilter (second middle)) :
    BlamesFilter (first >>= second) := by
  cases first with
  | error error =>
    rintro _ ⟨⟩
    exact before error rfl
  | ok middle => exact after middle

theorem blames_map {result : Except Error α} (f : α → β) (before : BlamesFilter result) :
    BlamesFilter (result.map f) := by
  cases result with
  | error error =>
    rintro _ ⟨⟩
    exact before error rfl
  | ok outcome => exact blames_ok _

/-- A step taken on one element after another fails only as the step does. -/
theorem each_blames {step : α → Except Error β} (run : List α → Except Error (List β))
    (stop : run [] = .ok [])
    (next : ∀ first rest, run (first :: rest) = do
      let one ← step first
      let others ← run rest
      return one :: others) {items : List α} (each : ∀ item ∈ items, BlamesFilter (step item)) :
    BlamesFilter (run items) := by
  induction items with
  | nil =>
    rw [stop]
    exact blames_ok _
  | cons item rest ih =>
    obtain ⟨here, later⟩ := List.forall_mem_cons.mp each
    rw [next]
    exact blames_bind here fun _ => blames_bind (ih later) fun _ => blames_ok _

theorem depth_blames (depth : Nat) : BlamesFilter (Backend.checkDepth depth) := by
  unfold Backend.checkDepth
  split
  · exact blames_fault _
  · exact blames_ok _

theorem literal_blames (backend : Backend) (field : String) (value : Value) :
    BlamesFilter (backend.literal field value) := by
  cases value with
  | null | array | object => exact blames_fault _
  | bool | number => exact blames_ok _
  | string text =>
    simp only [Backend.literal]
    split
    · exact blames_fault _
    · exact blames_ok _

theorem literals_blame (backend : Backend) (field : String) (values : List Value) :
    BlamesFilter (backend.literals field values) :=
  each_blames (backend.literals field) rfl (fun _ _ => rfl)
    fun value _ => literal_blames backend field value

theorem nodes_blame {backend : Backend} {conditions : List Filter}
    (each : ∀ condition ∈ conditions, BlamesFilter (backend.compileNode negated depth condition)) :
    BlamesFilter (backend.compileNodes negated depth conditions) :=
  each_blames (backend.compileNodes negated depth) rfl (fun _ _ => rfl) each

theorem node_blames (backend : Backend) (negated : Bool) (depth : Nat) (filter : Filter) :
    BlamesFilter (backend.compileNode negated depth filter) := by
  induction filter generalizing negated depth with
  | compare field comparison value =>
    exact blames_bind (depth_blames _) fun _ =>
      blames_bind (literal_blames backend field _) fun _ => blames_ok _
  | oneOf field values =>
    refine blames_bind (depth_blames _) fun _ => ?_
    split
    · exact blames_fault _
    · exact blames_bind (literals_blame backend field _) fun _ => blames_ok _
  | between field low high =>
    exact blames_bind (depth_blames _) fun _ =>
      blames_bind (literal_blames backend field _) fun _ =>
        blames_bind (literal_blames backend field _) fun _ => blames_ok _
  | group combinator conditions ih =>
    refine blames_bind (depth_blames _) fun _ => ?_
    split
    · exact blames_bind (nodes_blame fun condition member => ih condition member _ _)
        fun _ => blames_ok _
    · exact blames_bind (nodes_blame fun condition member => ih condition member _ _)
        fun _ => blames_ok _
  | not condition ih => exact blames_bind (depth_blames _) fun _ => ih _ _

theorem kind_blames (shape : Algolia.Shape) : BlamesFilter shape.kind := by
  cases shape with
  | test | disjunction => exact blames_ok _
  | constant | conjunction => exact blames_fault _

theorem disjunction_blames (kind : Algolia.Kind) (parts : List Algolia.Shape) :
    BlamesFilter (Algolia.disjunctionFrom kind parts) := by
  induction parts with
  | nil => exact blames_ok _
  | cons part rest ih =>
    refine blames_bind (kind_blames part) fun _ => ?_
    split
    · exact ih
    · exact blames_fault _

theorem combination_blames (combinator : Combinator) (parts : List Algolia.Shape) :
    BlamesFilter (Algolia.combination combinator parts) := by
  match parts, combinator with
  | [], _ | [_], _ | _ :: _ :: _, .and => exact blames_ok _
  | first :: _ :: _, .or => exact blames_bind (kind_blames first) fun _ => disjunction_blames _ _

theorem shapes_blame {identity : Bool} {conditions : List Filter}
    (each : ∀ condition ∈ conditions, BlamesFilter (Algolia.shape negated condition)) :
    BlamesFilter (Algolia.shapes negated identity conditions) := by
  induction conditions with
  | nil => exact blames_ok _
  | cons condition rest ih =>
    obtain ⟨here, later⟩ := List.forall_mem_cons.mp each
    refine blames_bind here fun part => ?_
    cases part with
    | constant value =>
      simp only
      split
      · exact ih later
      · exact blames_ok _
    | test | disjunction | conjunction => exact blames_bind (ih later) fun _ => blames_ok _

theorem shape_blames (negated : Bool) (filter : Filter) :
    BlamesFilter (Algolia.shape negated filter) := by
  induction filter generalizing negated with
  | compare | between => exact blames_ok _
  | oneOf field values =>
    simp only [Algolia.shape]
    split
    · exact blames_ok _
    · split <;> exact blames_ok _
  | group combinator conditions ih =>
    refine blames_bind (shapes_blame fun condition member => ih condition member _) fun parts => ?_
    cases parts with
    | none => exact blames_ok _
    | some parts => exact combination_blames _ _
  | not condition ih => exact ih _

/-- Whatever the compiler refuses is a fault of the filter. -/
theorem compile_blames (backend : Backend) (filter : Filter) :
    BlamesFilter (backend.compile (some filter)) := by
  refine blames_bind (node_blames backend false 0 filter) fun compiled => ?_
  cases compiled with
  | everything | nothing => exact blames_ok _
  | expression formula =>
    refine blames_bind ?_ fun _ => blames_ok _
    cases backend with
    | algolia => exact blames_bind (shape_blames false filter) fun _ => blames_ok _
    | meilisearch | typesense => exact blames_ok _

/-! ## Main statement -/

/-- Away from Algolia, whose formulas have to have a certain shape besides, a filter compiles when
its tree does. -/
theorem compile_some_succeeds_iff {backend : Backend} (free : backend ≠ .algolia) :
    (∃ compiled, backend.compile (some filter) = .ok compiled) ↔
      filter.check = .ok () ∧ backend.Admits 0 filter := by
  have unchecked : backend.checkShape filter = .ok () := by
    cases backend with
    | algolia => exact absurd rfl free
    | meilisearch | typesense => rfl
  simp only [compile_some_ok, unchecked, implies_true, and_true, compile_node_succeeds_iff]

/-- No part of the filter has more than so many combinations and negations above it. -/
def Filter.IsWithin (limit : Nat) (filter : Filter) : Prop :=
  ∀ (part : Filter) above reversed, part.Stands above reversed filter → above ≤ limit

/-- No text that the filter compares with has a backtick. -/
def Filter.HasNoBacktick (filter : Filter) : Prop :=
  ∀ (part : Filter) above reversed, part.Stands above reversed filter →
    ∀ text, .string text ∈ part.operands → '\x60' ∉ text.toList

theorem admits_iff {backend : Backend} {filter : Filter} :
    backend.Admits 0 filter ↔
      filter.IsWithin 32 ∧ (backend = .typesense → filter.HasNoBacktick) := by
  constructor
  · intro admitted
    refine ⟨fun part above reversed stands => ?_, fun typesense part above reversed stands => ?_⟩
    · simpa [Backend.depthLimit] using (admitted part above reversed stands).1
    · intro text member
      exact (admitted part above reversed stands).2 _ member typesense text rfl
  · rintro ⟨within, written⟩ part above reversed stands
    refine ⟨by simpa [Backend.depthLimit] using within part above reversed stands, ?_⟩
    rintro value member typesense text rfl
    exact written typesense part above reversed stands text member

/-- MeiliSearch takes exactly the filters that pass their check and have nothing below more than 32
combinations and negations, Typesense those of them without backticks, and Algolia none but them. A
refusal is always a fault of the configuration, and no part that fails its check is ever overlooked,
also where it would fold away. -/
theorem compile_succeeds_iff (filter : Filter) :
    ((∃ compiled, Backend.meilisearch.compile (some filter) = .ok compiled) ↔
      filter.check = .ok () ∧ filter.IsWithin 32) ∧
    ((∃ compiled, Backend.typesense.compile (some filter) = .ok compiled) ↔
      (filter.check = .ok () ∧ filter.IsWithin 32) ∧ filter.HasNoBacktick) ∧
    ((∃ compiled, Backend.algolia.compile (some filter) = .ok compiled) →
      filter.check = .ok () ∧ filter.IsWithin 32) ∧
    (∀ backend error, Backend.compile backend (some filter) = .error error →
      ∃ fault, error = .config fault) ∧
    ∀ (part : Filter) above reversed, part.Stands above reversed filter → part.check ≠ .ok () →
      ∀ backend, ∃ fault, Backend.compile backend (some filter) = .error (.config fault) := by
  have refusal (backend : Backend) {error : Error}
      (failed : backend.compile (some filter) = .error error) : ∃ fault, error = .config fault := by
    obtain ⟨fault, rfl⟩ := compile_blames backend filter error failed
    exact ⟨.filter fault, rfl⟩
  refine ⟨?_, ?_, ?_, fun backend error => refusal backend, ?_⟩
  · simp [compile_some_succeeds_iff, admits_iff]
  · simp [compile_some_succeeds_iff, admits_iff, and_assoc]
  · rintro ⟨compiled, done⟩
    obtain ⟨node, -⟩ := compile_some_ok.mp done
    obtain ⟨valid, admitted⟩ := compile_node_succeeds_iff.mp ⟨compiled, node⟩
    exact ⟨valid, (admits_iff.mp admitted).1⟩
  · intro part above reversed stands invalid backend
    cases result : backend.compile (some filter) with
    | ok compiled =>
      obtain ⟨node, -⟩ := compile_some_ok.mp result
      exact absurd (Filter.check_of_stands stands (compile_node_checked node)) invalid
    | error error =>
      obtain ⟨fault, rfl⟩ := refusal backend result
      exact ⟨fault, rfl⟩

end SearchIndex
