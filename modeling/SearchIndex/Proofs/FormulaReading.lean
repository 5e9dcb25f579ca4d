import SearchIndex.Dialect.Compile
import SearchIndex.Filter.Meaning

/-! What formulas say and how they are spelled. A clause is read as the engine in memory reads the
comparison, the membership or the range that it spells, and words between clauses are boolean
connectives. The grammars of the filter languages are given apart from the compiler: a sentence is
a text with a reading, derived from the readings of its parts. -/
namespace SearchIndex

/-- The value that a literal spells. -/
def Literal.toValue : Literal → Value
  | .text string => .string string
  | .number n => .number n
  | .bool value => .bool value

/-- The truth value of a combination, from those of its parts. -/
def Combinator.join : Combinator → List Bool → Bool
  | .and, values => values.all id
  | .or, values => values.any id

/-- Whether a document passes a clause, read as the engine in memory reads the same test. -/
def Clause.holds (document : Document) : Clause → Bool
  | .compare field comparison literal => comparison.holds literal.toValue (document.get? field)
  | .between field low high => holdsBetween low.toValue high.toValue (document.get? field)
  | .oneOf field literals => holdsOneOf (literals.map Literal.toValue) (document.get? field)
  | .noneOf field literals => !holdsOneOf (literals.map Literal.toValue) (document.get? field)

namespace Formula

mutual

/-- Whether a document satisfies a formula. -/
def holds (document : Document) : Formula → Bool
  | .clause test => test.holds document
  | .notClause test => !test.holds document
  | .notGroup formula => !holds document formula
  | .chain combinator parts => combinator.join (holdsEach document parts)

/-- Which of some formulas a document satisfies. -/
def holdsEach (document : Document) : List Formula → List Bool
  | [] => []
  | formula :: rest => holds document formula :: holdsEach document rest

end

theorem holds_each_map (document : Document) (parts : List Formula) :
    holdsEach document parts = parts.map (holds document) := by
  induction parts with
  | nil => rfl
  | cons formula rest ih => simp [holdsEach, ih]

theorem bracket_all_map (backend : Backend) (parts : List Formula) :
    bracketAll backend parts = parts.map fun formula => bracket (formula.chars backend) := by
  induction parts with
  | nil => rfl
  | cons formula rest ih => simp [bracketAll, ih]

end Formula

/-- Whether a document is meant by what a filter compiles to. -/
def Compiled.holds (document : Document) : Compiled → Bool
  | .everything => true
  | .nothing => false
  | .expression formula => formula.holds document

/-! ## Grammars -/

/-- The clauses that are single tests in a language. Inequality and lists are no tests of their own
at Algolia, and at MeiliSearch no test asks for absence from a list. -/
def Clause.IsTest : Backend → Clause → Prop
  | .algolia, .compare _ comparison _ => comparison ≠ .ne
  | .algolia, .between .. => True
  | .algolia, _ => False
  | .meilisearch, .noneOf .. => False
  | _, _ => True

/-- The sentences of a filter language with their readings. A word of negation stands before a
single test or before a sentence in brackets, as the language has it; Algolia chains the values of
one field inside brackets; and sentences in brackets are joined by one and the same word. -/
inductive Sentence (backend : Backend) : List Char → (Document → Bool) → Prop where
  | test (clause : Clause) (single : clause.IsTest backend) :
      Sentence backend (clause.chars backend) fun document => clause.holds document
  | notTest (clause : Clause) (word : backend.negation = .clause)
      (single : clause.IsTest backend) :
      Sentence backend (Backend.negationWord ++ ' ' :: clause.chars backend)
        fun document => !clause.holds document
  | notGroup (word : backend.negation = .group) (inside : Sentence backend text reading) :
      Sentence backend (Backend.negationWord ++ ' ' :: bracket text)
        fun document => !reading document
  | values (field : String) (literals : List Literal) (chains : backend = .algolia)
      (several : 2 ≤ literals.length) :
      Sentence backend
        (bracket ((spaced (backend.joiner .or)).intercalate
          (literals.map fun literal => (Clause.compare field .eq literal).chars backend)))
        fun document => literals.any fun literal => (Clause.compare field .eq literal).holds document
  | noValues (field : String) (literals : List Literal) (chains : backend = .algolia)
      (several : 2 ≤ literals.length) :
      Sentence backend
        (bracket ((spaced (backend.joiner .and)).intercalate (literals.map fun literal =>
          Backend.negationWord ++ ' ' :: (Clause.compare field .eq literal).chars backend)))
        fun document =>
          literals.all fun literal => !(Clause.compare field .eq literal).holds document
  | chain (combinator : Combinator) (parts : List (List Char × (Document → Bool)))
      (inhabited : parts ≠ []) (each : ∀ part ∈ parts, Sentence backend part.1 part.2) :
      Sentence backend
        ((spaced (backend.joiner combinator)).intercalate (parts.map fun part => bracket part.1))
        fun document => combinator.join (parts.map fun part => part.2 document)

/-- What a filter compiles to is a constant or a sentence that is read as the formula is. -/
def Compiled.IsSentence (backend : Backend) : Compiled → Prop
  | .expression formula =>
    Sentence backend (formula.chars backend) fun document => formula.holds document
  | _ => True

/-! ## Fields and what they offer -/

/-- The values that a field offers to a test. -/
def offered : Option Value → List Value
  | none => []
  | some (.array items) => items.filter fun item => !item.isNull
  | some value => [value]

theorem offers_any (test : Value → Bool) (found : Option Value) :
    offers test found = (offered found).any test := by
  match found with
  | none => rfl
  | some (.array items) => simp [offers, offered, List.any_filter]
  | some .null | some (.bool _) | some (.number _) | some (.string _) | some (.object _) =>
    simp [offers, offered]

theorem offers_iff (test : Value → Bool) (found : Option Value) :
    offers test found = true ↔ ∃ value ∈ offered found, test value = true := by
  rw [offers_any, List.any_eq_true]

/-- Membership in a list is equality with one of its values. -/
theorem holds_one_of_values (values : List Value) (found : Option Value) :
    holdsOneOf values found = values.any fun value => Comparison.eq.holds value found := by
  rw [Bool.eq_iff_iff]
  simp only [holdsOneOf, Comparison.holds, offers_iff, List.any_eq_true]
  constructor
  · rintro ⟨value, inside, choice, member, equal⟩
    exact ⟨choice, member, value, inside, equal⟩
  · rintro ⟨choice, member, value, inside, equal⟩
    exact ⟨value, inside, choice, member, equal⟩

/-- Membership in a list is equality with one of its literals. -/
theorem holds_one_of_any (literals : List Literal) (found : Option Value) :
    holdsOneOf (literals.map Literal.toValue) found =
      literals.any fun literal => Comparison.eq.holds literal.toValue found := by
  rw [holds_one_of_values, List.any_map]
  rfl

end SearchIndex
