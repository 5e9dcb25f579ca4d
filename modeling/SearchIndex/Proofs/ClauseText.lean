import Mathlib.Data.List.Induction
import SearchIndex.Proofs.FormulaReading
import SearchIndex.Proofs.LiteralText

/-! How far the text of a MeiliSearch clause tells what stands in it. Literals and clauses are read
from the end of a text: a literal ends where the quote, the blank or the bracket before it says, and
no text in quotes can pretend to be such a place. So the end of a clause tells its test and its
literals, whatever stands before it, and only the name of the field has no beginning that could be
seen. -/
namespace SearchIndex

/-- The field that a clause tests. -/
def Clause.field : Clause → String
  | .compare field .. | .between field .. | .oneOf field _ | .noneOf field _ => field

namespace Meilisearch

/-! ## Quoted texts -/

section Escape
variable {quote : Char}

/-- An escaped text does not begin with the quote. -/
theorem escape_head (other : quote ≠ '\\') (text rest : List Char) :
    escapeQuote quote text ≠ quote :: rest := by
  cases text with
  | nil => exact nofun
  | cons c text =>
    rw [escape_cons]
    split
    · intro same
      exact other (List.cons.inj same).1.symm
    · rename_i plain
      intro same
      simp [(List.cons.inj same).1] at plain

/-- Every quote in an escaped text has a backslash before it. -/
theorem escape_before_quote (other : quote ≠ '\\') {text : List Char}
    (split : escapeQuote quote text = front ++ c :: quote :: rest) : c = '\\' := by
  induction text generalizing front with
  | nil => simp [escapeQuote] at split
  | cons d text ih =>
    have head := escape_head other text rest
    rw [escape_cons] at split
    split at split
    · match front with
      | [] => exact (List.cons.inj split).1.symm
      | [_] => exact absurd (List.cons.inj (List.cons.inj split).2).2 head
      | _ :: _ :: front => exact ih (List.cons.inj (List.cons.inj split).2).2
    · match front with
      | [] => exact absurd (List.cons.inj split).2 head
      | _ :: front => exact ih (List.cons.inj split).2

end Escape

/-! ## Literals -/

theorem text_chars (text : String) : (Literal.text text).chars .meilisearch =
    '\'' :: (escapeQuote '\'' text.toList ++ ['\'']) := rfl

/-- The characters of literals without quotes: none of them means anything between literals. -/
def IsBare (c : Char) : Prop := c ∉ [' ', '[', ']', '(', ')', '\'']

theorem number_bare (number : Number) : ∀ c ∈ number.chars, IsBare c := by
  unfold IsBare
  exact number_chars_all number (by decide)

/-- A literal is a text in quotes, or nothing in it means anything between literals. -/
theorem literal_forms (literal : Literal) :
    (∃ text, literal = .text text) ∨
      ((∀ c ∈ literal.chars .meilisearch, IsBare c) ∧ literal.chars .meilisearch ≠ []) := by
  cases literal with
  | text text => exact .inl ⟨text, rfl⟩
  | number number => exact .inr ⟨number_bare number, number.chars_ne_nil⟩
  | bool value => cases value <;> exact .inr ⟨by simp [Literal.chars, IsBare], nofun⟩

theorem not_bare_quote : ¬ IsBare '\'' := by simp [IsBare]

theorem number_not_bool (number : Number) (value : Bool) :
    number.chars ≠ (Literal.bool value).chars .meilisearch := by
  intro same
  obtain ⟨numeral, read⟩ := number.chars_read
  rw [same] at read
  cases value <;> cases read

/-- Literals that are written alike are the same. -/
theorem literal_injective {a b : Literal}
    (same : a.chars .meilisearch = b.chars .meilisearch) : a = b := by
  have quoted (text : String) (other : Literal) (bare : ∀ c ∈ other.chars .meilisearch, IsBare c) :
      (Literal.text text).chars .meilisearch ≠ other.chars .meilisearch := by
    intro same
    rw [← same] at bare
    exact not_bare_quote (bare '\'' List.mem_cons_self)
  rcases literal_forms a with ⟨s, rfl⟩ | ⟨bareA, -⟩ <;> rcases literal_forms b with ⟨t, rfl⟩ | ⟨bareB, -⟩
  · rw [text_chars, text_chars] at same
    have inside := (quoted_unique (by decide) (List.cons.inj same).2).1
    rw [String.toList_inj.mp inside]
  · exact absurd same (quoted s b bareB)
  · exact absurd same.symm (quoted t a bareA)
  · cases a with
    | text s => exact absurd rfl (quoted s _ bareA)
    | number m =>
      cases b with
      | text t => exact absurd rfl (quoted t _ bareB)
      | number n => rw [Number.chars_injective same]
      | bool value => exact absurd same (number_not_bool m value)
    | bool value =>
      cases b with
      | text t => exact absurd rfl (quoted t _ bareB)
      | number n => exact absurd same.symm (number_not_bool n value)
      | bool other => cases value <;> cases other <;> first | rfl | cases same

/-- What stands before a literal ends in a blank or a square bracket. -/
def BeforeLiteral (front : List Char) : Prop :=
  front.getLast? = some ' ' ∨ front.getLast? = some '['

/-- No literal ends in another literal with the mark of a beginning before it. -/
theorem literal_suffix_free {a b : Literal} (before : BeforeLiteral middle) :
    a.chars .meilisearch ≠ middle ++ b.chars .meilisearch := by
  intro same
  obtain ⟨init, c, rfl, mark⟩ : ∃ init c, middle = init ++ [c] ∧ (c = ' ' ∨ c = '[') := by
    rcases before with blank | square
    · exact ⟨_, ' ', (List.getLast?_eq_some_iff.mp blank).choose_spec, .inl rfl⟩
    · exact ⟨_, '[', (List.getLast?_eq_some_iff.mp square).choose_spec, .inr rfl⟩
  have marked : ¬ IsBare c := by rcases mark with rfl | rfl <;> simp [IsBare]
  rcases literal_forms a with ⟨s, rfl⟩ | ⟨bare, -⟩
  · rw [text_chars] at same
    cases init with
    | nil => rcases mark with rfl | rfl <;> cases same
    | cons first init =>
      have inside : escapeQuote '\'' s.toList ++ ['\''] = init ++ [c] ++ b.chars .meilisearch :=
        (List.cons.inj same).2
      rcases literal_forms b with ⟨t, rfl⟩ | ⟨bare, inhabited⟩
      · rw [text_chars] at inside
        have escaped : escapeQuote '\'' s.toList ++ ['\''] =
            init ++ c :: '\'' :: escapeQuote '\'' t.toList ++ ['\''] := by simpa using inside
        have backslash := escape_before_quote (by decide) (List.append_cancel_right escaped)
        rcases mark with rfl | rfl <;> cases backslash
      · have last := congrArg List.getLast? inside
        rw [List.getLast?_concat, List.getLast?_append_of_ne_nil _ inhabited] at last
        exact not_bare_quote (bare _ (List.mem_of_getLast? last.symm))
  · rw [same] at bare
    exact marked (bare c (by simp))

/-- A literal at the end of a text does not depend on what stands before it. -/
theorem literal_at_end {a b : Literal} (before : BeforeLiteral front) (before' : BeforeLiteral other)
    (same : front ++ a.chars .meilisearch = other ++ b.chars .meilisearch) :
    front = other ∧ a = b := by
  have alike {a b : Literal} {front middle : List Char} (before : BeforeLiteral (front ++ middle))
      (inside : a.chars .meilisearch = middle ++ b.chars .meilisearch) : middle = [] ∧ a = b := by
    by_cases empty : middle = []
    · subst empty
      exact ⟨rfl, literal_injective inside⟩
    · rw [BeforeLiteral, List.getLast?_append_of_ne_nil _ empty] at before
      exact absurd inside (literal_suffix_free before)
  rcases List.append_eq_append_iff.mp same with ⟨middle, rfl, inside⟩ | ⟨middle, rfl, inside⟩
  · obtain ⟨rfl, rfl⟩ := alike before' inside
    exact ⟨(List.append_nil _).symm, rfl⟩
  · obtain ⟨rfl, rfl⟩ := alike before inside
    exact ⟨List.append_nil _, rfl⟩

/-- The last character of a literal is none that ends a list or a bracket. -/
theorem literal_last (literal : Literal) (front : List Char) :
    ∃ c, (front ++ literal.chars .meilisearch).getLast? = some c ∧ c ≠ '[' ∧ c ≠ ']' ∧ c ≠ ')' := by
  rcases literal_forms literal with ⟨text, rfl⟩ | ⟨bare, inhabited⟩
  · refine ⟨'\'', ?_, by decide⟩
    rw [text_chars, ← List.cons_append, ← List.append_assoc, List.getLast?_concat]
  · obtain ⟨c, last⟩ := List.getLast?_isSome.mpr inhabited |> Option.isSome_iff_exists.mp
    refine ⟨c, by rw [List.getLast?_append_of_ne_nil _ inhabited, last], ?_⟩
    have none_of := bare c (List.mem_of_getLast? last)
    simp only [IsBare, List.mem_cons, List.not_mem_nil, or_false, not_or] at none_of
    exact ⟨none_of.2.1, none_of.2.2.1, none_of.2.2.2.2.1⟩

/-! ## Lists of literals -/

/-- Texts with a word between them are each followed by the word, but for the last one. -/
theorem intercalate_concat (word : List Char) (init : List (List Char)) (last : List Char) :
    word.intercalate (init ++ [last]) = init.flatMap (· ++ word) ++ last := by
  induction init with
  | nil => exact List.intercalate_singleton
  | cons first init ih =>
    obtain ⟨next, rest, more⟩ := List.exists_cons_of_ne_nil (List.concat_ne_nil last init)
    rw [List.cons_append, more, List.intercalate_cons_cons, ← more, ih, List.flatMap_cons]
    simp only [List.append_assoc]

/-- Literals in a list, each followed by what separates it from the next one. -/
def separated (literals : List Literal) : List Char :=
  (literals.map (Literal.chars .meilisearch)).flatMap (· ++ [',', ' '])

theorem literals_concat (init : List Literal) (last : Literal) :
    [',', ' '].intercalate ((init ++ [last]).map (Literal.chars .meilisearch)) =
      separated init ++ last.chars .meilisearch := by
  rw [List.map_append, List.map_singleton, intercalate_concat]
  rfl

theorem listed_concat (front : List Char) (init : List Literal) (last : Literal) :
    front ++ '[' :: separated (init ++ [last]) =
      front ++ '[' :: separated init ++ last.chars .meilisearch ++ [',', ' '] := by
  simp [separated]

theorem separated_last (front : List Char) (init : List Literal) (last : Literal) :
    (front ++ '[' :: separated (init ++ [last])).getLast? = some ' ' := by
  have ends : front ++ '[' :: separated (init ++ [last]) =
      (front ++ '[' :: separated init ++ last.chars .meilisearch ++ [',']) ++ [' '] := by
    simp [separated]
  rw [ends, List.getLast?_concat]

theorem before_listed (front : List Char) (init : List Literal) :
    BeforeLiteral (front ++ '[' :: separated init) := by
  rcases init.eq_nil_or_concat' with rfl | ⟨init, last, rfl⟩
  · exact .inr List.getLast?_concat
  · exact .inl (separated_last front init last)

theorem separated_unique {first second : List Literal}
    (same : front ++ '[' :: separated first = other ++ '[' :: separated second) :
    front = other ∧ first = second := by
  have never (front other : List Char) (init : List Literal) (last : Literal) :
      front ++ ['['] ≠ other ++ '[' :: separated (init ++ [last]) := by
    intro same
    have ends := separated_last other init last
    rw [← same, List.getLast?_concat] at ends
    cases ends
  induction first using List.reverseRecOn generalizing second with
  | nil =>
    rcases second.eq_nil_or_concat' with rfl | ⟨init, last, rfl⟩
    · exact ⟨List.append_cancel_right same, rfl⟩
    · exact absurd same (never front other init last)
  | append_singleton init last ih =>
    rcases second.eq_nil_or_concat' with rfl | ⟨init', last', rfl⟩
    · exact absurd same.symm (never other front init last)
    · rw [listed_concat, listed_concat] at same
      obtain ⟨fronts, rfl⟩ := literal_at_end (before_listed _ _) (before_listed _ _)
        (List.append_cancel_right same)
      obtain ⟨rfl, rfl⟩ := ih fronts
      exact ⟨rfl, rfl⟩

/-- A list of literals behind a square bracket does not depend on what stands before it. -/
theorem literals_at_end {first second : List Literal}
    (same : front ++ '[' :: [',', ' '].intercalate (first.map (Literal.chars .meilisearch)) =
      other ++ '[' :: [',', ' '].intercalate (second.map (Literal.chars .meilisearch))) :
    front = other ∧ first = second := by
  have never (front other : List Char) (init : List Literal) (last : Literal) :
      front ++ ['['] ≠ other ++ '[' :: (separated init ++ last.chars .meilisearch) := by
    intro same
    obtain ⟨c, ends, bracket, -⟩ := literal_last last (other ++ '[' :: separated init)
    rw [List.append_assoc, List.cons_append, ← same, List.getLast?_concat] at ends
    exact bracket (Option.some.inj ends).symm
  rcases first.eq_nil_or_concat' with rfl | ⟨init, last, rfl⟩ <;>
    rcases second.eq_nil_or_concat' with rfl | ⟨init', last', rfl⟩
  · exact ⟨List.append_cancel_right same, rfl⟩
  · rw [literals_concat] at same
    exact absurd same (never front other init' last')
  · rw [literals_concat] at same
    exact absurd same.symm (never other front init last)
  · rw [literals_concat, literals_concat, ← List.cons_append, ← List.append_assoc, ← List.cons_append,
      ← List.append_assoc] at same
    obtain ⟨fronts, rfl⟩ := literal_at_end (before_listed _ _) (before_listed _ _) same
    obtain ⟨rfl, rfl⟩ := separated_unique fronts
    exact ⟨rfl, rfl⟩

/-! ## Clauses -/

/-- A word without blanks at the end of a text does not depend on what stands before it. -/
theorem word_at_end (plain : ' ' ∉ word) (plain' : ' ' ∉ word')
    (same : front ++ ' ' :: word = other ++ ' ' :: word') : front = other ∧ word = word' := by
  have alike {word word' middle : List Char} (plain : ' ' ∉ word)
      (inside : ' ' :: word = middle ++ ' ' :: word') : middle = [] ∧ word = word' := by
    cases middle with
    | nil => exact ⟨rfl, (List.cons.inj inside).2⟩
    | cons c middle =>
      rw [(List.cons.inj inside).2] at plain
      simp at plain
  rcases List.append_eq_append_iff.mp same with ⟨middle, rfl, inside⟩ | ⟨middle, rfl, inside⟩
  · obtain ⟨rfl, rfl⟩ := alike plain inside
    exact ⟨(List.append_nil _).symm, rfl⟩
  · obtain ⟨rfl, rfl⟩ := alike plain' inside
    exact ⟨List.append_nil _, rfl⟩

theorem symbol_plain (comparison : Comparison) : ' ' ∉ comparison.symbol.toList := by
  cases comparison <;> decide

theorem symbol_injective {comparison other : Comparison}
    (same : comparison.symbol.toList = other.symbol.toList) : comparison = other := by
  cases comparison <;> cases other <;> first | rfl | exact absurd same (by decide)

theorem symbol_not_to (comparison : Comparison) : comparison.symbol.toList ≠ ['T', 'O'] := by
  cases comparison <;> decide

theorem compare_chars (front : List Char) (field : String) (comparison : Comparison)
    (literal : Literal) : front ++ (Clause.compare field comparison literal).chars .meilisearch =
      front ++ field.toList ++ ' ' :: comparison.symbol.toList ++ [' '] ++
        literal.chars .meilisearch := by
  simp [Clause.chars, Clause.compareChars, spaced]

theorem between_chars (front : List Char) (field : String) (low high : Literal) :
    front ++ (Clause.between field low high).chars .meilisearch =
      front ++ field.toList ++ [' '] ++ low.chars .meilisearch ++ ' ' :: ['T', 'O'] ++ [' '] ++
        high.chars .meilisearch := by
  simp [Clause.chars, Clause.betweenChars, spaced]

theorem one_of_chars (front : List Char) (field : String) (literals : List Literal) :
    front ++ (Clause.oneOf field literals).chars .meilisearch =
      front ++ field.toList ++ [' ', 'I', 'N', ' '] ++ '[' ::
        [',', ' '].intercalate (literals.map (Literal.chars .meilisearch)) ++ [']'] := by
  simp [Clause.chars, Clause.oneOfChars]

theorem before_blank (front : List Char) : BeforeLiteral (front ++ [' ']) :=
  .inl List.getLast?_concat

theorem compare_at_end (same : front ++ (Clause.compare f c a).chars .meilisearch =
      other ++ (Clause.compare g d b).chars .meilisearch) :
    front ++ f.toList = other ++ g.toList ∧ c = d ∧ a = b := by
  rw [compare_chars, compare_chars] at same
  obtain ⟨fronts, literals⟩ := literal_at_end (before_blank _) (before_blank _) same
  obtain ⟨fields, symbols⟩ := word_at_end (symbol_plain c) (symbol_plain d)
    (List.append_cancel_right fronts)
  exact ⟨fields, symbol_injective symbols, literals⟩

theorem between_at_end (same : front ++ (Clause.between f a₁ a₂).chars .meilisearch =
      other ++ (Clause.between g b₁ b₂).chars .meilisearch) :
    front ++ f.toList = other ++ g.toList ∧ a₁ = b₁ ∧ a₂ = b₂ := by
  rw [between_chars, between_chars] at same
  obtain ⟨fronts, high⟩ := literal_at_end (before_blank _) (before_blank _) same
  have words := List.append_cancel_right (List.append_cancel_right fronts)
  obtain ⟨blanks, low⟩ := literal_at_end (before_blank _) (before_blank _) words
  exact ⟨List.append_cancel_right blanks, low, high⟩

theorem one_of_at_end (same : front ++ (Clause.oneOf f first).chars .meilisearch =
      other ++ (Clause.oneOf g second).chars .meilisearch) :
    front ++ f.toList = other ++ g.toList ∧ first = second := by
  rw [one_of_chars, one_of_chars] at same
  obtain ⟨fronts, literals⟩ := literals_at_end (List.append_cancel_right same)
  exact ⟨List.append_cancel_right fronts, literals⟩

theorem compare_not_between : front ++ (Clause.compare f c a).chars .meilisearch ≠
    other ++ (Clause.between g b₁ b₂).chars .meilisearch := by
  intro same
  rw [compare_chars, between_chars] at same
  obtain ⟨fronts, -⟩ := literal_at_end (before_blank _) (before_blank _) same
  obtain ⟨-, symbol⟩ := word_at_end (symbol_plain c) (by decide) (List.append_cancel_right fronts)
  exact symbol_not_to c symbol

theorem literal_not_list (literal : Literal) : front ++ literal.chars .meilisearch ≠
    other ++ (Clause.oneOf g literals).chars .meilisearch := by
  intro same
  obtain ⟨c, last, -, bracket, -⟩ := literal_last literal front
  rw [same, one_of_chars, List.getLast?_concat] at last
  exact bracket (Option.some.inj last).symm

/-- A clause at the end of a text tells its test and its literals, whatever its field is called. -/
theorem clause_at_end {first second : Clause} (single : first.IsTest .meilisearch)
    (single' : second.IsTest .meilisearch)
    (same : front ++ first.chars .meilisearch = other ++ second.chars .meilisearch) :
    front ++ first.field.toList = other ++ second.field.toList ∧
      (first.field = second.field → first = second) := by
  cases first with
  | compare f c a =>
    cases second with
    | compare g d b =>
      obtain ⟨fields, rfl, rfl⟩ := compare_at_end same
      exact ⟨fields, fun named => congrArg (Clause.compare · c a) named⟩
    | between g b₁ b₂ => exact absurd same compare_not_between
    | oneOf g literals =>
      rw [compare_chars] at same
      exact absurd same (literal_not_list a)
    | noneOf => cases single'
  | between f a₁ a₂ =>
    cases second with
    | compare g d b => exact absurd same.symm compare_not_between
    | between g b₁ b₂ =>
      obtain ⟨fields, rfl, rfl⟩ := between_at_end same
      exact ⟨fields, fun named => congrArg (Clause.between · a₁ a₂) named⟩
    | oneOf g literals =>
      rw [between_chars] at same
      exact absurd same (literal_not_list a₂)
    | noneOf => cases single'
  | oneOf f literals =>
    cases second with
    | compare g d b =>
      rw [compare_chars _ g] at same
      exact absurd same.symm (literal_not_list b)
    | between g b₁ b₂ =>
      rw [between_chars _ g] at same
      exact absurd same.symm (literal_not_list b₂)
    | oneOf g others =>
      obtain ⟨fields, rfl⟩ := one_of_at_end same
      exact ⟨fields, fun named => congrArg (Clause.oneOf · literals) named⟩
    | noneOf => cases single'
  | noneOf => cases single

/-- No clause ends like a formula in brackets. -/
theorem clause_not_bracketed {test : Clause} (single : test.IsTest .meilisearch) :
    front ++ test.chars .meilisearch ≠ other ++ [')'] := by
  have never (front : List Char) (literal : Literal) :
      front ++ literal.chars .meilisearch ≠ other ++ [')'] := by
    intro same
    obtain ⟨c, last, -, -, bracket⟩ := literal_last literal front
    rw [same, List.getLast?_concat] at last
    exact bracket (Option.some.inj last).symm
  cases test with
  | compare field comparison literal =>
    rw [compare_chars]
    exact never _ literal
  | between field low high =>
    rw [between_chars]
    exact never _ high
  | oneOf field literals =>
    intro same
    rw [one_of_chars] at same
    have ends := congrArg List.getLast? same
    rw [List.getLast?_concat, List.getLast?_concat] at ends
    cases ends
  | noneOf => cases single

end Meilisearch

end SearchIndex
