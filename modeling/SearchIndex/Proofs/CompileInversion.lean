import SearchIndex.Dialect.Compile
import SearchIndex.Proofs.FilterStructure
import SearchIndex.Proofs.FormulaReading

/-! When the compiler succeeds, and with what. Each kind of filter has one statement that lists all
that has to succeed and gives the outcome, and every fact about compiled filters goes by these. -/
namespace SearchIndex

theorem forall₂_left {property : α → Prop}
    (each : List.Forall₂ (fun first (_ : β) => property first) firsts seconds) :
    ∀ first ∈ firsts, property first := by
  induction each with
  | nil => simp
  | cons head _ ih => exact List.forall_mem_cons.mpr ⟨head, ih⟩

theorem forall₂_right {property : β → Prop}
    (each : List.Forall₂ (fun (_ : α) second => property second) firsts seconds) :
    ∀ second ∈ seconds, property second := by
  induction each with
  | nil => simp
  | cons head _ ih => exact List.forall_mem_cons.mpr ⟨head, ih⟩

theorem mem_of_forall₂ {relation : α → β → Prop} (each : List.Forall₂ relation firsts seconds) :
    ∀ first ∈ firsts, ∃ second ∈ seconds, relation first second := by
  induction each with
  | nil => simp
  | cons head _ ih =>
    refine List.forall_mem_cons.mpr ⟨⟨_, List.mem_cons_self, head⟩, fun first member => ?_⟩
    obtain ⟨second, inside, related⟩ := ih first member
    exact ⟨second, List.mem_cons_of_mem _ inside, related⟩

theorem map_eq_of_forall₂ {f : α → γ} {g : β → γ}
    (each : List.Forall₂ (fun first second => g second = f first) firsts seconds) :
    seconds.map g = firsts.map f := by
  induction each with
  | nil => rfl
  | cons head _ ih => rw [List.map_cons, List.map_cons, head, ih]

theorem check_depth_ok {depth : Nat} :
    Backend.checkDepth depth = .ok () ↔ depth ≤ Backend.depthLimit := by
  unfold Backend.checkDepth
  split
  · rename_i deep
    simp [Nat.not_le.mpr deep]
  · rename_i shallow
    simp [Nat.not_lt.mp shallow]

/-- A literal spells the value it was made from. -/
theorem literal_spells {backend : Backend} {value : Value}
    (made : backend.literal field value = .ok literal) : literal.toValue = value := by
  cases value with
  | null | array | object => cases made
  | bool | number => cases made; rfl
  | string text =>
    simp only [Backend.literal] at made
    split at made <;> cases made
    rfl

/-- A value that a language can spell passes the check for literals. -/
theorem literal_valid {backend : Backend} {value : Value}
    (made : backend.literal field value = .ok literal) (operator : String) :
    Filter.requireLiteral operator field value = .ok () := by
  cases value with
  | null | array | object => cases made
  | bool | number | string => rfl

theorem literals_ok {backend : Backend} {values : List Value} {made : List Literal} :
    backend.literals field values = .ok made ↔
      List.Forall₂ (fun value literal => backend.literal field value = .ok literal) values made :=
  each_ok (backend.literal field) (backend.literals field) rfl fun _ _ => rfl

theorem literals_spell {backend : Backend} {values : List Value} {made : List Literal}
    (spelled : backend.literals field values = .ok made) : made.map Literal.toValue = values := by
  have each := literals_ok.mp spelled
  rw [map_eq_of_forall₂ (each.imp fun _ _ made => literal_spells made), List.map_id']

theorem literals_valid {backend : Backend} {values : List Value} {made : List Literal}
    (spelled : backend.literals field values = .ok made) (operator : String) :
    Filter.requireLiterals operator field values = .ok () := by
  have each := literals_ok.mp spelled
  rw [Filter.require_literals_ok]
  exact forall₂_left (each.imp fun _ _ made => literal_valid made operator)

/-! ## Nodes -/

section
variable {backend : Backend} {negated : Bool} {depth : Nat} {compiled : Compiled}

/-- A node compiles when it does not stand too deep and what comes behind the check does. -/
theorem compile_node_ok {filter : Filter} {behind : Except Error Compiled}
    (step : backend.compileNode negated depth filter =
      Backend.checkDepth depth >>= fun _ => behind) :
    backend.compileNode negated depth filter = .ok compiled ↔
      depth ≤ Backend.depthLimit ∧ behind = .ok compiled := by
  rw [step, except_then_ok, check_depth_ok]

theorem compile_compare_ok :
    backend.compileNode negated depth (.compare field comparison value) = .ok compiled ↔
      depth ≤ Backend.depthLimit ∧ ∃ literal, backend.literal field value = .ok literal ∧
        .expression (backend.comparison negated field comparison literal) = compiled := by
  rw [Backend.compileNode, except_then_ok, check_depth_ok]
  simp [except_bind_ok, pure, Except.pure]

theorem compile_one_of_ok :
    backend.compileNode negated depth (.oneOf field values) = .ok compiled ↔
      depth ≤ Backend.depthLimit ∧ values ≠ [] ∧
        ∃ literals, backend.literals field values = .ok literals ∧
          .expression (backend.membership negated field literals) = compiled := by
  refine (compile_node_ok rfl).trans ?_
  cases values with
  | nil => simp
  | cons value rest => simp [except_bind_ok, pure, Except.pure]

theorem compile_between_ok :
    backend.compileNode negated depth (.between field low high) = .ok compiled ↔
      depth ≤ Backend.depthLimit ∧ ∃ least, backend.literal field low = .ok least ∧
        ∃ greatest, backend.literal field high = .ok greatest ∧
          .expression (backend.range negated field least greatest) = compiled := by
  refine (compile_node_ok rfl).trans ?_
  simp [except_bind_ok, pure, Except.pure]

theorem compile_not_ok :
    backend.compileNode negated depth (.not condition) = .ok compiled ↔
      depth ≤ Backend.depthLimit ∧
        backend.compileNode (!negated) (depth + 1) condition = .ok compiled :=
  compile_node_ok rfl

theorem compile_nodes_ok {conditions : List Filter} {parts : List Compiled} :
    backend.compileNodes negated depth conditions = .ok parts ↔
      List.Forall₂ (fun condition part => backend.compileNode negated depth condition = .ok part)
        conditions parts :=
  each_ok (backend.compileNode negated depth) (backend.compileNodes negated depth) rfl
    fun _ _ => rfl

/-- Unless a word negates brackets, negation turns a combination into its dual and reaches each
condition. -/
theorem compile_group_ok (inward : negated = false ∨ backend.negation ≠ .group) :
    backend.compileNode negated depth (.group combinator conditions) = .ok compiled ↔
      depth ≤ Backend.depthLimit ∧ ∃ parts,
        backend.compileNodes negated (depth + 1) conditions = .ok parts ∧
          .combine (if negated then combinator.dual else combinator) parts = compiled := by
  have plain : (negated && backend.negation == .group) = false := by
    rcases inward with rfl | other
    · rfl
    · simp [other]
  refine (compile_node_ok rfl).trans ?_
  simp [plain, except_bind_ok, pure, Except.pure]

/-- Where a word negates brackets, a negated combination is the negation of the plain one. -/
theorem compile_negated_group_ok (word : backend.negation = .group) :
    backend.compileNode true depth (.group combinator conditions) = .ok compiled ↔
      ∃ plain, backend.compileNode false depth (.group combinator conditions) = .ok plain ∧
        plain.negate = compiled := by
  have reaches : (true && backend.negation == .group) = true := by simp [word]
  simp only [compile_group_ok (.inl rfl)]
  rw [compile_node_ok rfl, reaches]
  simp only [↓reduceIte, Bool.false_eq_true, except_bind_ok, pure, Except.pure, Except.ok.injEq]
  constructor
  · rintro ⟨shallow, parts, done, rfl⟩
    exact ⟨_, ⟨shallow, parts, done, rfl⟩, rfl⟩
  · rintro ⟨_, ⟨shallow, parts, done, rfl⟩, rfl⟩
    exact ⟨shallow, parts, done, rfl⟩

/-- Induction over successful compilations: what holds of tests, passes through negations, and
passes from the conditions of a combination to the whole, holds of every outcome. -/
theorem compile_node_induct {motive : Bool → Filter → Compiled → Prop}
    (compare : ∀ {negated field comparison value literal},
      backend.literal field value = .ok literal →
        motive negated (.compare field comparison value)
          (.expression (backend.comparison negated field comparison literal)))
    (oneOf : ∀ {negated field values literals}, values ≠ [] →
      backend.literals field values = .ok literals →
        motive negated (.oneOf field values)
          (.expression (backend.membership negated field literals)))
    (between : ∀ {negated field low high least greatest},
      backend.literal field low = .ok least → backend.literal field high = .ok greatest →
        motive negated (.between field low high)
          (.expression (backend.range negated field least greatest)))
    (not : ∀ {negated condition outcome}, motive (!negated) condition outcome →
      motive negated (.not condition) outcome)
    (group : ∀ {negated combinator conditions parts},
      negated = false ∨ backend.negation ≠ .group → List.Forall₂ (motive negated) conditions parts →
        motive negated (.group combinator conditions)
          (.combine (if negated then combinator.dual else combinator) parts))
    (negatedGroup : ∀ {combinator conditions outcome}, backend.negation = .group →
      motive false (.group combinator conditions) outcome →
        motive true (.group combinator conditions) outcome.negate)
    {filter : Filter} (done : backend.compileNode negated depth filter = .ok compiled) :
    motive negated filter compiled := by
  induction filter generalizing negated depth compiled with
  | compare field comparison value =>
    obtain ⟨_, literal, made, rfl⟩ := compile_compare_ok.mp done
    exact compare made
  | oneOf field values =>
    obtain ⟨_, inhabited, literals, made, rfl⟩ := compile_one_of_ok.mp done
    exact oneOf inhabited made
  | between field low high =>
    obtain ⟨_, least, madeLow, greatest, madeHigh, rfl⟩ := compile_between_ok.mp done
    exact between madeLow madeHigh
  | not condition ih => exact not (ih (compile_not_ok.mp done).2)
  | group combinator conditions ih =>
    have inwards {negated compiled} (inward : negated = false ∨ backend.negation ≠ .group)
        (done : backend.compileNode negated depth (.group combinator conditions) = .ok compiled) :
        motive negated (.group combinator conditions) compiled := by
      obtain ⟨_, parts, doneParts, rfl⟩ := (compile_group_ok inward).mp done
      have each := (List.forall₂_and_left _ _).mpr ⟨ih, compile_nodes_ok.mp doneParts⟩
      exact group inward (each.imp fun condition part known => known.1 known.2)
    cases negated with
    | false => exact inwards (.inl rfl) done
    | true =>
      by_cases word : backend.negation = .group
      · obtain ⟨plain, donePlain, rfl⟩ := (compile_negated_group_ok word).mp done
        exact negatedGroup word (inwards (.inl rfl) donePlain)
      · exact inwards (.inr word) done

/-- Only filters that pass their check compile. -/
theorem compile_node_checked {filter : Filter}
    (done : backend.compileNode negated depth filter = .ok compiled) : filter.check = .ok () := by
  refine compile_node_induct (motive := fun _ filter _ => filter.check = .ok ())
    ?compare ?oneOf ?between ?not ?group ?negatedGroup done
  case compare =>
    intro _ _ comparison _ _ made
    exact literal_valid made comparison.symbol
  case oneOf =>
    intro _ field values literals inhabited made
    have some_choice : values.isEmpty = false := by simpa using inhabited
    simpa [Filter.check, some_choice] using literals_valid made "in"
  case between =>
    intro _ field low high _ _ madeLow madeHigh
    rw [Filter.check, except_then_ok]
    exact ⟨literal_valid madeLow "between", literal_valid madeHigh "between"⟩
  case not =>
    intro _ condition _ valid
    exact valid
  case group =>
    intro _ _ conditions parts _ each
    rw [Filter.check, Filter.check_all_ok]
    exact forall₂_left each
  case negatedGroup =>
    intro _ _ _ _ valid
    exact valid

/-- A filter compiles when its node does and, if that is a formula, the service can evaluate it. -/
theorem compile_some_ok {filter : Filter} :
    backend.compile (some filter) = .ok compiled ↔
      backend.compileNode false 0 filter = .ok compiled ∧
        ∀ formula, compiled = .expression formula → backend.checkShape filter = .ok () := by
  simp only [Backend.compile, except_bind_ok]
  constructor
  · rintro ⟨middle, done, finished⟩
    cases middle with
    | everything | nothing =>
      cases finished
      exact ⟨done, nofun⟩
    | expression formula =>
      simp only [except_then_ok, pure, Except.pure, Except.ok.injEq] at finished
      obtain ⟨shaped, rfl⟩ := finished
      exact ⟨done, fun _ _ => shaped⟩
  · rintro ⟨done, shaped⟩
    refine ⟨compiled, done, ?_⟩
    cases compiled with
    | everything | nothing => rfl
    | expression formula =>
      simp [shaped formula rfl, bind, Except.bind, pure, Except.pure]

end

end SearchIndex
