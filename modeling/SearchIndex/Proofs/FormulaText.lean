import SearchIndex.Proofs.ClauseText
import SearchIndex.Proofs.DialectAgreement

/-! When the text of a MeiliSearch formula tells what the formula means. Brackets are read from the
end of a text: what closes there was opened at the last place where a formula can begin. A field name
stands in a formula as it is, so a name that looks like such a place can hide it. Where no name does,
formulas that are written alike hold of the same documents, and so do the filters that they were
compiled from; nothing in a literal can change that. -/
namespace SearchIndex.Meilisearch

/-! ## Where brackets open -/

/-- What may stand between the place where a formula begins and the first bracket that it opens. -/
def beginnings : List (List Char) := [[], Backend.negationWord ++ [' ']]

/-- The texts behind which a bracket opens a formula: it is the first one, of the whole text or inside
another bracket, or it follows the word between two formulas in brackets. -/
inductive Opens : List Char → Prop
  | start (begins : word ∈ beginnings) : Opens word
  | inside (outside : Opens front) (begins : word ∈ beginnings) : Opens (front ++ '(' :: word)
  | behind (front : List Char) (combinator : Combinator) :
      Opens (front ++ ')' :: spaced (Backend.meilisearch.joiner combinator))

/-- A field name that cannot hide a place where a bracket opens: it does not begin like a formula
that opens one, and does not have the word between two formulas with the brackets around it. -/
structure IsPlain (field : List Char) : Prop where
  begins : ∀ word ∈ beginnings, ¬ word ++ ['('] <+: field
  joins : ∀ combinator, ¬ ')' :: spaced (Backend.meilisearch.joiner combinator) ++ ['('] <:+: field

/-- Where a bracket stands in a text with a known ending. -/
theorem bracket_in_append (same : front ++ ending = other ++ '(' :: rest) :
    (∃ middle, ending = middle ++ '(' :: rest) ∨
      ∃ middle, front = other ++ '(' :: middle ∧ rest = middle ++ ending := by
  rcases List.append_eq_append_iff.mp same with ⟨middle, -, inside⟩ | ⟨middle, outside, inside⟩
  · exact .inl ⟨middle, inside⟩
  · cases middle with
    | nil => exact .inl ⟨[], inside.symm⟩
    | cons c middle =>
      obtain ⟨rfl, rest⟩ := List.cons.inj inside
      exact .inr ⟨middle, outside, rest⟩

theorem no_bracket_begins : ∀ word ∈ beginnings, '(' ∉ word := by decide

/-- No plain name goes on behind a place where a bracket opens. -/
theorem not_plain_of_opens (opens : Opens text) (reaches : text = front ++ '(' :: middle) :
    ¬ IsPlain (middle ++ '(' :: rest) := by
  have missing {ending before middle : List Char} (free : '(' ∉ ending) :
      ending ≠ before ++ '(' :: middle := by
    rintro rfl
    exact free (List.mem_append_right _ List.mem_cons_self)
  induction opens generalizing middle rest with
  | start begins => exact absurd reaches (missing (no_bracket_begins _ begins))
  | inside outside begins ih =>
    rcases bracket_in_append reaches with ⟨before, ending⟩ | ⟨middle, within, rfl⟩
    · cases before with
      | nil =>
        obtain ⟨-, rfl⟩ := List.cons.inj ending
        exact fun plain => plain.begins _ begins ⟨rest, by simp⟩
      | cons c before =>
        exact absurd (List.cons.inj ending).2 (missing (no_bracket_begins _ begins))
    · rw [List.append_assoc]
      exact ih within
  | behind front combinator =>
    rcases bracket_in_append reaches with ⟨before, ending⟩ | ⟨middle, within, rfl⟩
    · exact absurd ending (missing (by cases combinator <;> decide))
    · exact fun plain => plain.joins combinator ⟨middle, rest, by simp⟩

/-- A plain name is all that stands behind the bracket that opens its clause. -/
theorem opening_unique (opens : Opens front) (opens' : Opens other) (plain : IsPlain field)
    (plain' : IsPlain field') (same : front ++ '(' :: field = other ++ '(' :: field') :
    front = other ∧ field = field' := by
  rcases List.append_eq_append_iff.mp same with ⟨middle, behind, inside⟩ | ⟨middle, behind, inside⟩
  · cases middle with
    | nil => exact ⟨by simpa using behind.symm, (List.cons.inj inside).2⟩
    | cons c middle =>
      obtain ⟨rfl, rfl⟩ := List.cons.inj inside
      exact absurd plain (not_plain_of_opens opens' behind)
  · cases middle with
    | nil => exact ⟨by simpa using behind, (List.cons.inj inside).2.symm⟩
    | cons c middle =>
      obtain ⟨rfl, rfl⟩ := List.cons.inj inside
      exact absurd plain' (not_plain_of_opens opens behind)

/-! ## Formulas -/

/-- The formulas that MeiliSearch is sent, with the names that their fields may have. A chain has a
last part. -/
inductive IsWritten (named : String → Prop) : Formula → Prop
  | test (single : test.IsTest .meilisearch) (field : named test.field) :
      IsWritten named (.clause test)
  | notGroup (formula : Formula) (inside : IsWritten named formula) :
      IsWritten named (.notGroup formula)
  | chain (combinator : Combinator) (init : List Formula) (last : Formula)
      (each : ∀ part ∈ init ++ [last], IsWritten named part) :
      IsWritten named (.chain combinator (init ++ [last]))

/-- A formula is readable in front of a closing bracket if where it begins and what it means can be
told from there, whatever formula wrote the text. -/
def IsReadable (formula : Formula) : Prop :=
  ∀ second front other, IsWritten (fun name => IsPlain name.toList) second → Opens front →
    Opens other → front ++ '(' :: formula.chars .meilisearch = other ++ '(' :: second.chars .meilisearch →
    front = other ∧ ∀ document, formula.holds document = second.holds document

/-- The parts of a chain in brackets, each followed by the word between it and the next one. -/
def joined (combinator : Combinator) (parts : List Formula) : List Char :=
  (Formula.bracketAll .meilisearch parts).flatMap
    (· ++ spaced (Backend.meilisearch.joiner combinator))

theorem joined_before (front : List Char) (combinator : Combinator) (init : List Formula)
    (last : Formula) : front ++ '(' :: joined combinator (init ++ [last]) =
      front ++ '(' :: joined combinator init ++ '(' :: last.chars .meilisearch ++
        ')' :: spaced (Backend.meilisearch.joiner combinator) := by
  simp [joined, Formula.bracket_all_map, bracket]

theorem chain_chars (combinator : Combinator) (init : List Formula) (last : Formula) :
    (Formula.chain combinator (init ++ [last])).chars .meilisearch =
      joined combinator init ++ '(' :: last.chars .meilisearch ++ [')'] := by
  have listed : Formula.bracketAll .meilisearch (init ++ [last]) =
      Formula.bracketAll .meilisearch init ++ [bracket (last.chars .meilisearch)] := by
    simp [Formula.bracket_all_map]
  rw [Formula.chars, listed, intercalate_concat]
  simp [joined, bracket]

theorem chain_before (front : List Char) (combinator : Combinator) (init : List Formula)
    (last : Formula) :
    front ++ '(' :: (Formula.chain combinator (init ++ [last])).chars .meilisearch =
      front ++ '(' :: joined combinator init ++ '(' :: last.chars .meilisearch ++ [')'] := by
  simp [chain_chars]

theorem not_group_before (front : List Char) (formula : Formula) :
    front ++ '(' :: (Formula.notGroup formula).chars .meilisearch =
      front ++ '(' :: (Backend.negationWord ++ [' ']) ++ '(' :: formula.chars .meilisearch ++ [')'] := by
  simp [Formula.chars, bracket]

/-- A formula is a clause, or it ends with a bracket. -/
theorem written_forms (written : IsWritten named formula) :
    (∃ test, formula = .clause test ∧ test.IsTest .meilisearch) ∨
      (∀ test, formula ≠ .clause test) ∧ ∃ text, formula.chars .meilisearch = text ++ [')'] := by
  cases written with
  | test single => exact .inl ⟨_, rfl, single⟩
  | notGroup formula =>
    refine .inr ⟨by simp, Backend.negationWord ++ ' ' :: '(' :: formula.chars .meilisearch, ?_⟩
    simp [Formula.chars, bracket]
  | chain combinator init last => exact .inr ⟨by simp, _, chain_chars combinator init last⟩

theorem opens_negated (opens : Opens front) :
    Opens (front ++ '(' :: (Backend.negationWord ++ [' '])) :=
  .inside opens (List.mem_cons_of_mem _ List.mem_cons_self)

/-- The next part of a chain opens behind those before it. -/
theorem opens_joined (opens : Opens front) (combinator : Combinator) (init : List Formula) :
    Opens (front ++ '(' :: joined combinator init) := by
  rcases init.eq_nil_or_concat' with rfl | ⟨init, last, rfl⟩
  · exact .inside opens List.mem_cons_self
  · rw [joined_before]
    exact .behind _ combinator

/-- The word of negation is not the word between two parts of a chain. -/
theorem negated_not_joined (combinator : Combinator) (init : List Formula) :
    front ++ '(' :: (Backend.negationWord ++ [' ']) ≠ other ++ '(' :: joined combinator init := by
  intro same
  rcases init.eq_nil_or_concat' with rfl | ⟨init, last, rfl⟩
  · have ends := congrArg List.reverse same
    simp [joined, Formula.bracketAll] at ends
  · rw [joined_before] at same
    have ends := congrArg List.reverse same
    cases combinator <;> simp [spaced, Backend.joiner, Backend.negationWord] at ends

theorem clause_readable {test : Clause} (single : test.IsTest .meilisearch)
    (plain : IsPlain test.field.toList) : IsReadable (.clause test) := by
  intro second front other written opens opens' same
  cases written with
  | test single' plain' =>
    simp only [Formula.chars] at same
    rw [List.append_cons, List.append_cons other] at same
    obtain ⟨fields, alike⟩ := clause_at_end single single' same
    rw [← List.append_cons, ← List.append_cons] at fields
    obtain ⟨rfl, names⟩ := opening_unique opens opens' plain plain' fields
    rw [alike (String.toList_inj.mp names)]
    exact ⟨rfl, fun _ => rfl⟩
  | notGroup formula inside =>
    rw [not_group_before, List.append_cons front] at same
    exact absurd same (clause_not_bracketed single)
  | chain combinator init last each =>
    rw [chain_before, List.append_cons front] at same
    exact absurd same (clause_not_bracketed single)

theorem not_group_readable (readable : IsReadable formula) : IsReadable (.notGroup formula) := by
  intro second front other written opens opens' same
  rw [not_group_before] at same
  cases written with
  | test single plain =>
    rw [List.append_cons other] at same
    exact absurd same.symm (clause_not_bracketed single)
  | notGroup formula' inside =>
    rw [not_group_before] at same
    obtain ⟨fronts, meant⟩ := readable _ _ _ inside (opens_negated opens) (opens_negated opens')
      (List.append_cancel_right same)
    refine ⟨List.append_cancel_right fronts, fun document => ?_⟩
    rw [Formula.holds, Formula.holds, meant]
  | chain combinator init last each =>
    rw [chain_before] at same
    obtain ⟨fronts, -⟩ := readable _ _ _ (each last (by simp)) (opens_negated opens)
      (opens_joined opens' combinator init) (List.append_cancel_right same)
    exact absurd fronts (negated_not_joined combinator init)

/-- The word between two parts does not depend on what stands before it. -/
theorem joiner_at_end (same : front ++ ')' :: spaced (Backend.meilisearch.joiner combinator) =
      other ++ ')' :: spaced (Backend.meilisearch.joiner combinator')) :
    front = other ∧ combinator = combinator' := by
  have combinators : combinator = combinator' := by
    have ends := congrArg List.reverse same
    cases combinator <;> cases combinator' <;> first
      | rfl
      | simp [spaced, Backend.joiner] at ends
  subst combinators
  exact ⟨List.append_cancel_right same, rfl⟩

/-- Parts of a chain that are followed by another one are told from their ends, one by one. -/
theorem joined_unique {first second : List Formula} (readable : ∀ part ∈ first, IsReadable part)
    (written : ∀ part ∈ second, IsWritten (fun name => IsPlain name.toList) part)
    (opens : Opens front) (opens' : Opens other)
    (same : front ++ '(' :: joined combinator first = other ++ '(' :: joined combinator' second) :
    front = other ∧ (∀ document, first.map (Formula.holds document) =
      second.map (Formula.holds document)) ∧ (first ≠ [] → combinator = combinator') := by
  have never (front other : List Char) (combinator combinator' : Combinator) (init : List Formula)
      (last : Formula) : front ++ ['('] ≠ other ++ '(' :: joined combinator' (init ++ [last]) := by
    intro same
    rw [joined_before] at same
    have ends := congrArg List.reverse same
    simp [spaced] at ends
  induction first using List.reverseRecOn generalizing second with
  | nil =>
    rcases second.eq_nil_or_concat' with rfl | ⟨init, last, rfl⟩
    · exact ⟨List.append_cancel_right same, fun _ => rfl, fun inhabited => absurd rfl inhabited⟩
    · exact (never _ _ combinator combinator' init last same).elim
  | append_singleton init last ih =>
    rcases second.eq_nil_or_concat' with rfl | ⟨init', last', rfl⟩
    · exact (never _ _ combinator' combinator init last same.symm).elim
    · rw [joined_before, joined_before] at same
      obtain ⟨texts, rfl⟩ := joiner_at_end same
      obtain ⟨fronts, meant⟩ := readable last (by simp) _ _ _ (written last' (by simp))
        (opens_joined opens combinator init) (opens_joined opens' combinator init') texts
      obtain ⟨rfl, others, -⟩ := ih (fun part member => readable part (List.mem_append_left _ member))
        (fun part member => written part (List.mem_append_left _ member)) fronts
      refine ⟨rfl, fun document => ?_, fun _ => rfl⟩
      rw [List.map_append, List.map_append, others, List.map_singleton, List.map_singleton, meant]

theorem join_singleton (combinator other : Combinator) (value : Bool) :
    combinator.join [value] = other.join [value] := by
  cases combinator <;> cases other <;> simp [Combinator.join]

theorem chain_readable {init : List Formula} (combinator : Combinator)
    (readable : ∀ part ∈ init ++ [last], IsReadable part) :
    IsReadable (.chain combinator (init ++ [last])) := by
  intro second front other written opens opens' same
  rw [chain_before] at same
  cases written with
  | test single plain =>
    rw [List.append_cons other] at same
    exact absurd same.symm (clause_not_bracketed single)
  | notGroup formula inside =>
    rw [not_group_before] at same
    obtain ⟨fronts, -⟩ := readable last (by simp) _ _ _ inside (opens_joined opens combinator init)
      (opens_negated opens') (List.append_cancel_right same)
    exact absurd fronts.symm (negated_not_joined combinator init)
  | chain combinator' init' last' written =>
    rw [chain_before] at same
    obtain ⟨fronts, meant⟩ := readable last (by simp) _ _ _ (written last' (by simp))
      (opens_joined opens combinator init) (opens_joined opens' combinator' init')
      (List.append_cancel_right same)
    obtain ⟨rfl, others, joiners⟩ := joined_unique
      (fun part member => readable part (List.mem_append_left _ member))
      (fun part member => written part (List.mem_append_left _ member)) opens opens' fronts
    refine ⟨rfl, fun document => ?_⟩
    simp only [Formula.holds, Formula.holds_each_map, List.map_append, List.map_singleton, meant]
    rcases eq_or_ne init [] with rfl | several
    · -- A single part is not joined with anything, so the two may differ in the combinator.
      have single := (others document).symm
      rw [List.map_nil] at single ⊢
      rw [single]
      exact join_singleton combinator combinator' _
    · rw [others document, joiners several]

/-- Where all names are plain, every formula is readable. -/
theorem readable_of_written (written : IsWritten (fun name => IsPlain name.toList) formula) :
    IsReadable formula := by
  induction written with
  | test single plain => exact clause_readable single plain
  | notGroup formula _ readable => exact not_group_readable readable
  | chain combinator init last _ readable => exact chain_readable combinator readable

/-- Formulas that are written alike hold of the same documents, if each is a clause or has plain
names only. -/
theorem holds_of_same_text {first second : Formula} (written : IsWritten (fun _ => True) first)
    (written' : IsWritten (fun _ => True) second)
    (plain : (∀ test, first ≠ .clause test) → IsWritten (fun name => IsPlain name.toList) first)
    (plain' : (∀ test, second ≠ .clause test) → IsWritten (fun name => IsPlain name.toList) second)
    (same : first.chars .meilisearch = second.chars .meilisearch) (document : Document) :
    first.holds document = second.holds document := by
  rcases written_forms written with ⟨test, rfl, single⟩ | ⟨compound, text, ends⟩ <;>
    rcases written_forms written' with ⟨test', rfl, single'⟩ | ⟨compound', text', ends'⟩
  · have bare : [] ++ test.chars .meilisearch = [] ++ test'.chars .meilisearch := same
    obtain ⟨fields, alike⟩ := clause_at_end single single' bare
    rw [alike (String.toList_inj.mp fields)]
  · have bare : [] ++ test.chars .meilisearch = text' ++ [')'] := same.trans ends'
    exact absurd bare (clause_not_bracketed single)
  · have bare : [] ++ test'.chars .meilisearch = text ++ [')'] := same.symm.trans ends
    exact absurd bare (clause_not_bracketed single')
  · have bracketed : [] ++ '(' :: first.chars .meilisearch = [] ++ '(' :: second.chars .meilisearch := by
      rw [same]
    have start : Opens [] := .start List.mem_cons_self
    exact (readable_of_written (plain compound) _ _ _ (plain' compound') start start bracketed).2
      document

/-! ## Filters -/

theorem comparison_written (negated : Bool) (comparison : Comparison) (literal : Literal)
    (name : named field) :
    IsWritten named (Backend.meilisearch.comparison negated field comparison literal) := by
  cases negated with
  | false => exact .test trivial name
  | true =>
    by_cases unequal : comparison = .ne
    · subst unequal
      exact .test trivial name
    · simp only [Backend.comparison, unequal, Bool.not_true, Bool.false_eq_true, ↓reduceIte]
      exact .notGroup _ (.test trivial name)

theorem membership_written (negated : Bool) (literals : List Literal) (name : named field) :
    IsWritten named (Backend.meilisearch.membership negated field literals) := by
  cases negated with
  | false => exact .test trivial name
  | true => exact .notGroup _ (.test trivial name)

theorem range_written (negated : Bool) (low high : Literal) (name : named field) :
    IsWritten named (Backend.meilisearch.range negated field low high) := by
  cases negated with
  | false => exact .test trivial name
  | true => exact .notGroup _ (.test trivial name)

/-- The formula, if there is one, is one that MeiliSearch is sent, with these names. -/
def CompiledIsWritten (named : String → Prop) : Compiled → Prop
  | .expression formula => IsWritten named formula
  | .everything | .nothing => True

theorem combine_written {parts : List Compiled} (combinator : Combinator)
    (each : ∀ part ∈ parts, CompiledIsWritten named part) :
    CompiledIsWritten named (Compiled.combine combinator parts) := by
  unfold Compiled.combine
  split
  · cases combinator <;> trivial
  · split
    · cases combinator <;> trivial
    · rename_i some_formula
      obtain ⟨init, last, listed⟩ := (List.eq_nil_or_concat' _).resolve_left some_formula
      rw [listed]
      refine .chain combinator init last fun part member => ?_
      rw [← listed] at member
      obtain ⟨compiled, inside, found⟩ := List.mem_filterMap.mp member
      have whole := each compiled inside
      cases compiled with
      | everything | nothing => cases found
      | expression formula =>
        cases found
        exact whole

theorem negate_written (written : CompiledIsWritten named compiled) :
    CompiledIsWritten named compiled.negate := by
  cases compiled with
  | everything | nothing => trivial
  | expression formula => exact .notGroup formula written

/-- The formula of a filter has only names of fields that the filter tests. -/
theorem compile_node_written {filter : Filter} (named : String → Prop)
    (done : Backend.meilisearch.compileNode negated depth filter = .ok compiled)
    (names : ∀ (part : Filter) above reversed, part.Stands above reversed filter →
      ∀ field, part.field? = some field → named field) : CompiledIsWritten named compiled := by
  revert names
  refine compile_node_induct (motive := fun _ filter compiled =>
    (∀ (part : Filter) above reversed, part.Stands above reversed filter →
      ∀ field, part.field? = some field → named field) → CompiledIsWritten named compiled)
    ?compare ?oneOf ?between ?not ?group ?negatedGroup done
  case compare =>
    intro negated field comparison value literal _ names
    exact comparison_written negated comparison literal (names _ _ _ .here field rfl)
  case oneOf =>
    intro negated field values literals _ _ names
    exact membership_written negated literals (names _ _ _ .here field rfl)
  case between =>
    intro negated field low high least greatest _ _ names
    exact range_written negated least greatest (names _ _ _ .here field rfl)
  case not =>
    intro negated condition compiled ih names
    exact ih fun part above reversed stands => names part _ _ (.negation stands)
  case group =>
    intro negated combinator conditions parts _ each names
    have members := (List.forall₂_and_left conditions parts).mpr ⟨fun _ member => member, each⟩
    refine combine_written _ (forall₂_right (members.imp ?_))
    rintro condition part ⟨member, ih⟩
    exact ih fun part above reversed stands => names part _ _ (.condition member stands)
  case negatedGroup =>
    intro combinator conditions compiled _ ih names
    exact negate_written (ih names)

/-! ## Main statement -/

/-- The fields that the filter tests inside combinations and negations have plain names. -/
def NestsPlainNames (filter : Filter) : Prop :=
  ∀ (part : Filter) above reversed, part.Stands above reversed filter → 0 < above →
    ∀ field, part.field? = some field → IsPlain field.toList

/-- A single condition whose field is called like one condition and the beginning of another. -/
private def disguised : Filter := .group .and [.compare "a = 'x') AND (b" .eq (.string "y")]

/-- The two conditions that it looks like. -/
private def twofold : Filter :=
  .group .and [.compare "a" .eq (.string "x"), .compare "b" .eq (.string "y")]

/-- A condition whose literal looks like the end of one condition and the beginning of another, as
the only one of a combination. -/
private def quoted (combinator : Combinator) : Filter :=
  .group combinator [.compare "genre" .eq (.string "x') AND (y")]

/-- A filter that compiles to no clause is no test, so all names in it stand inside. -/
theorem plain_of_compound {filter : Filter} {formula : Formula}
    (done : Backend.meilisearch.compileNode false 0 filter = .ok (.expression formula))
    (plain : NestsPlainNames filter) (compound : ∀ test, formula ≠ .clause test) :
    IsWritten (fun name => IsPlain name.toList) formula := by
  have inside : ∀ (part : Filter) above reversed, part.Stands above reversed filter →
      ∀ field, part.field? = some field → IsPlain field.toList := by
    intro part above reversed stands field named
    cases above with
    | succ above => exact plain part _ _ stands (Nat.succ_pos above) field named
    | zero =>
      cases stands
      cases filter with
      | group | not => cases named
      | compare field comparison value =>
        obtain ⟨_, literal, _, made⟩ := compile_compare_ok.mp done
        cases made
        exact absurd rfl (compound _)
      | oneOf field values =>
        obtain ⟨_, _, literals, _, made⟩ := compile_one_of_ok.mp done
        cases made
        exact absurd rfl (compound _)
      | between field low high =>
        obtain ⟨_, least, _, greatest, _, made⟩ := compile_between_ok.mp done
        cases made
        exact absurd rfl (compound _)
  exact compile_node_written (fun name => IsPlain name.toList) done inside

/-- Filters that MeiliSearch is sent in the same words accept the same documents, if the names of
fields inside combinations and negations are plain. What literals hold makes no difference. -/
theorem same_text_same_documents {first second : Filter} {formula formula' : Formula}
    (done : Backend.meilisearch.compile (some first) = .ok (.expression formula))
    (done' : Backend.meilisearch.compile (some second) = .ok (.expression formula'))
    (plain : NestsPlainNames first) (plain' : NestsPlainNames second)
    (same : formula.text .meilisearch = formula'.text .meilisearch) :
    ∃ accepts accepts', first.predicate = .ok accepts ∧ second.predicate = .ok accepts' ∧
      ∀ document, accepts document = accepts' document := by
  obtain ⟨node, -⟩ := compile_some_ok.mp done
  obtain ⟨node', -⟩ := compile_some_ok.mp done'
  have written := compile_node_written (fun _ => True) node fun _ _ _ _ _ _ => trivial
  have written' := compile_node_written (fun _ => True) node' fun _ _ _ _ _ _ => trivial
  refine ⟨_, _, Filter.predicate_of_check (compile_node_checked node),
    Filter.predicate_of_check (compile_node_checked node'), fun document => ?_⟩
  have alike := holds_of_same_text written written' (plain_of_compound node plain)
    (plain_of_compound node' plain') (String.ofList_inj.mp same) document
  have meant := compile_holds_of_word (by decide) node document
  have meant' := compile_holds_of_word (by decide) node' document
  simp only [Bool.false_xor, Compiled.holds] at meant meant'
  rw [← meant, ← meant', alike]

/-- A name that is not plain can turn one condition into two: filters that are sent in the same
words need not accept the same documents. -/
theorem same_text_other_documents :
    ¬ ∀ (first second : Filter) (formula formula' : Formula) (accepts accepts' : Document → Bool),
      Backend.meilisearch.compile (some first) = .ok (.expression formula) →
      Backend.meilisearch.compile (some second) = .ok (.expression formula') →
      formula.text .meilisearch = formula'.text .meilisearch →
      first.predicate = .ok accepts → second.predicate = .ok accepts' →
      ∀ document, accepts document = accepts' document := by
  intro same
  have alike := same disguised twofold _ _ _ _ rfl rfl (by decide) rfl rfl
    (.ofId "1" [("a", .string "x"), ("b", .string "y")])
  exact absurd alike (by decide)

/-- Both filters are sent in the same words, and one of them alone accepts the document. -/
private def AreConfused (first second : Filter) (document : Document) : Prop :=
  ∃ formula formula' accepts accepts',
    Backend.meilisearch.compile (some first) = .ok (.expression formula) ∧
    Backend.meilisearch.compile (some second) = .ok (.expression formula') ∧
    formula.text .meilisearch = formula'.text .meilisearch ∧
    first.predicate = .ok accepts ∧ second.predicate = .ok accepts' ∧
    accepts document ≠ accepts' document

/-- Names that begin like a formula that opens a bracket do the same, where two of them make up for
each other's brackets. -/
example : AreConfused
    (.group .and [.compare "(c" .eq (.string "z"),
      .group .and [.compare "a" .eq (.string "x"), .compare "b" .eq (.string "y")]])
    (.group .and [.group .and [.compare "c" .eq (.string "z"), .compare "(a" .eq (.string "x"),
      .compare "b" .eq (.string "y")]])
    (.ofId "1" [("(c", .string "z"), ("a", .string "x"), ("b", .string "y")]) :=
  ⟨_, _, _, _, rfl, rfl, by decide, rfl, rfl, by decide⟩

example : AreConfused
    (.group .and [.group .and [.compare "a" .eq (.string "x"), .not (.compare "c" .eq (.string "z")),
      .compare "b" .eq (.string "y"), .compare "NOT (d" .eq (.string "w")]])
    (.group .and [.group .and [.compare "a" .eq (.string "x"), .compare "NOT (c" .eq (.string "z")],
      .compare "b" .eq (.string "y"), .not (.compare "d" .eq (.string "w"))])
    (.ofId "1" [("a", .string "x"), ("b", .string "y"), ("NOT (d", .string "w")]) :=
  ⟨_, _, _, _, rfl, rfl, by decide, rfl, rfl, by decide⟩

/-- A combination of one condition is written alike for both combinators, with any literal. -/
theorem same_text_same_documents_quoted :
    ∃ formula formula' accepts accepts',
      Backend.meilisearch.compile (some (quoted .and)) = .ok (.expression formula) ∧
      Backend.meilisearch.compile (some (quoted .or)) = .ok (.expression formula') ∧
      NestsPlainNames (quoted .and) ∧ NestsPlainNames (quoted .or) ∧
      formula.text .meilisearch = formula'.text .meilisearch ∧
      (quoted .and).predicate = .ok accepts ∧ (quoted .or).predicate = .ok accepts' ∧
      ∀ document, accepts document = accepts' document := by
  have name : IsPlain "genre".toList := by
    refine ⟨by decide, fun combinator => ?_⟩
    cases combinator <;> decide
  have plain (combinator : Combinator) : NestsPlainNames (quoted combinator) :=
    Filter.forall_stands_group.mpr ⟨nofun, List.forall_mem_singleton.mpr
      ((Filter.forall_stands_test rfl).mpr fun _ field named => by cases named; exact name)⟩
  have compiles : ∃ formula formula',
      Backend.meilisearch.compile (some (quoted .and)) = .ok (.expression formula) ∧
      Backend.meilisearch.compile (some (quoted .or)) = .ok (.expression formula') ∧
      formula.text .meilisearch = formula'.text .meilisearch := ⟨_, _, rfl, rfl, by decide⟩
  obtain ⟨formula, formula', done, done', same⟩ := compiles
  obtain ⟨accepts, accepts', first, second, alike⟩ :=
    same_text_same_documents done done' (plain .and) (plain .or) same
  exact ⟨formula, formula', accepts, accepts', done, done', plain .and, plain .or, same, first, second,
    alike⟩

end SearchIndex.Meilisearch
