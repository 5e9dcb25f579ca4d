import Mathlib.Data.List.TakeWhile
import SearchIndex.Proofs.NumberText
import SearchIndex.Search.Options

/-! Pages as callers spell them. A text spells a page with decimal digits, blanks around them aside,
and every page of a 64-bit word has such a text. A page given as a number is kept in a signed word:
from `2^63` on it turns into a negative one and is refused, while its text is not. -/
namespace SearchIndex

/-! ## Blanks around a text -/

theorem digit_is_no_blank (digit : c.isDigit = true) : isBlank c = false := by
  obtain ⟨low, high⟩ : 48 ≤ c.toNat ∧ c.toNat ≤ 57 := by
    simpa [Char.isDigit, UInt32.le_iff_toNat_le] using digit
  simp only [isBlank, blankRanges, inRanges]
  grind

/-- What trimming leaves stood between blanks. -/
theorem trim_surrounded (text : List Char) : ∃ before after,
    text = before ++ (trimChars text ++ after) ∧ (∀ c ∈ before, isBlank c = true) ∧
      ∀ c ∈ after, isBlank c = true := by
  refine ⟨text.takeWhile isBlank, ((text.dropWhile isBlank).reverse.takeWhile isBlank).reverse,
    ?_, fun c => List.mem_takeWhile_imp, fun c inside => ?_⟩
  · rw [trimChars, ← List.reverse_append, List.takeWhile_append_dropWhile,
      List.reverse_reverse, List.takeWhile_append_dropWhile]
  · exact List.mem_takeWhile_imp (List.mem_reverse.mp inside)

/-- Trimming leaves nothing of blanks alone. -/
theorem trim_eq_nil : trimChars text = [] ↔ ∀ c ∈ text, isBlank c = true := by
  constructor
  · intro nothing
    obtain ⟨before, after, shape, leading, trailing⟩ := trim_surrounded text
    rw [shape, nothing]
    simpa [or_imp, forall_and] using ⟨leading, trailing⟩
  · intro blanks
    rw [trimChars, List.dropWhile_eq_nil_iff.mpr blanks]
    rfl

/-- Trimming leaves a text between blanks that neither begins nor ends with one. -/
theorem trim_between (leading : ∀ c ∈ before, isBlank c = true)
    (trailing : ∀ c ∈ after, isBlank c = true) (inhabited : core ≠ [])
    (first : ∀ c ∈ core.head?, isBlank c = false)
    (last : ∀ c ∈ core.getLast?, isBlank c = false) :
    trimChars (before ++ (core ++ after)) = core := by
  have backwards : ∀ c ∈ after.reverse, isBlank c = true := fun c inside =>
    trailing c (List.mem_reverse.mp inside)
  have begins : ∀ c ∈ (core ++ after).head?, isBlank c = false := by
    rwa [List.head?_append_of_ne_nil core inhabited]
  rw [← List.head?_reverse] at last
  rw [trimChars, (span_stopped _ leading begins).2, List.reverse_append,
    (span_stopped _ backwards last).2, List.reverse_reverse]

/-! ## Numbers of a word -/

/-- The text consists of digits that make a number of a 64-bit word. -/
structure IsWordDigits (text : List Char) (word : Nat) : Prop where
  inhabited : text ≠ []
  digits : ∀ c ∈ text, c.isDigit = true
  value : ofDigits text = word
  bound : word < 18446744073709551616

/-- The text spells a number of a 64-bit word: its digits, or a plus and its digits. -/
inductive SpellsWord : List Char → Nat → Prop where
  | plain (is_digits : IsWordDigits text word) : SpellsWord text word
  | plus (is_digits : IsWordDigits text word) : SpellsWord ('+' :: text) word

theorem is_word_digits_iff : IsWordDigits text word ↔
    (if text.isEmpty || !text.all Char.isDigit then none
      else if ofDigits text < 18446744073709551616 then some (ofDigits text) else none) =
        some word := by
  constructor
  · rintro ⟨inhabited, digits, rfl, bound⟩
    have all_digits : text.all Char.isDigit = true := List.all_eq_true.mpr digits
    simp [inhabited, all_digits, bound]
  · intro read
    split at read
    · cases read
    · rename_i accepted
      simp only [Bool.or_eq_true, List.isEmpty_iff, Bool.not_eq_true', not_or,
        Bool.not_eq_false, List.all_eq_true] at accepted
      split at read
      · rename_i bound
        cases read
        exact ⟨accepted.1, accepted.2, rfl, bound⟩
      · cases read

/-- Reading accepts the texts that spell a number of a word and no others. -/
theorem read_word_iff : readWord? text = some word ↔ SpellsWord text word := by
  unfold readWord?
  split
  · -- A plus is no digit, so it can only stand in front of them.
    refine is_word_digits_iff.symm.trans ⟨.plus, ?_⟩
    rintro (is_digits | is_digits)
    · exact absurd (is_digits.digits '+' List.mem_cons_self) (by decide)
    · exact is_digits
  · rename_i unsigned
    refine is_word_digits_iff.symm.trans ⟨.plain, ?_⟩
    rintro (is_digits | is_digits)
    · exact is_digits
    · exact absurd rfl (unsigned _)

/-- The decimal text of a number of a word spells it. -/
theorem digits_spell_word (bound : word < 18446744073709551616) :
    SpellsWord (digitsOf word) word :=
  .plain ⟨digits_ne_nil word, digits_are_digits word, of_digits_of word, bound⟩

namespace SpellsWord

theorem ne_nil (spelled : SpellsWord text word) : text ≠ [] := by
  cases spelled with
  | plain is_digits => exact is_digits.inhabited
  | plus is_digits => exact List.cons_ne_nil _ _

theorem no_blanks (spelled : SpellsWord text word) : ∀ c ∈ text, isBlank c = false := by
  cases spelled with
  | plain is_digits => exact fun c inside => digit_is_no_blank (is_digits.digits c inside)
  | plus is_digits =>
    refine List.forall_mem_cons.mpr ⟨rfl, fun c inside => ?_⟩
    exact digit_is_no_blank (is_digits.digits c inside)

/-- Trimming takes off the blanks around a number and nothing else. -/
theorem trim (spelled : SpellsWord text word) (leading : ∀ c ∈ before, isBlank c = true)
    (trailing : ∀ c ∈ after, isBlank c = true) :
    trimChars (before ++ (text ++ after)) = text :=
  trim_between leading trailing spelled.ne_nil
    (fun c first => spelled.no_blanks c (List.mem_of_mem_head? first))
    (fun c last => spelled.no_blanks c (List.mem_of_mem_getLast? last))

end SpellsWord

/-! ## Pages -/

namespace LoosePage

/-- What stands for a page: a number that is not negative, blanks or nothing for the first page, or
a number of a 64-bit word between blanks. -/
inductive Spells : LoosePage → Nat → Prop where
  | number (page : Nat) : Spells (.number page) page
  | blank (blanks : ∀ c ∈ written.toList, isBlank c = true) : Spells (.text written) 0
  | word (shape : written.toList = before ++ (core ++ after))
      (leading : ∀ c ∈ before, isBlank c = true) (trailing : ∀ c ∈ after, isBlank c = true)
      (spelled : SpellsWord core page) : Spells (.text written) page

theorem resolve_number {number : Int} :
    (LoosePage.number number).resolve = .ok page ↔ number = page := by
  rw [resolve]
  split
  · exact ⟨nofun, fun same => by omega⟩
  · rw [Except.ok.injEq]
    omega

theorem resolve_text : (LoosePage.text written).resolve = .ok page ↔
    (trimChars written.toList = [] ∧ page = 0) ∨ SpellsWord (trimChars written.toList) page := by
  simp only [resolve, trimText, String.toList_ofList]
  split
  · rename_i empty
    have nothing : trimChars written.toList = [] := by simpa using empty
    rw [nothing]
    constructor
    · rintro ⟨⟩
      exact .inl ⟨rfl, rfl⟩
    · rintro (⟨-, rfl⟩ | spelled)
      · rfl
      · exact absurd rfl spelled.ne_nil
  · rename_i filled
    have something : trimChars written.toList ≠ [] := by simpa using filled
    rw [← read_word_iff]
    split
    · rename_i read
      simp [something, read]
    · rename_i refused
      simp [something, refused]

/-- A page resolves exactly when it spells one, and then to that. -/
theorem resolve_ok : LoosePage.resolve loose = .ok page ↔ loose.Spells page := by
  cases loose with
  | number number =>
    rw [resolve_number]
    constructor
    · rintro rfl
      exact .number page
    · rintro ⟨⟩
      rfl
  | text written =>
    rw [resolve_text, trim_eq_nil]
    constructor
    · rintro (⟨blanks, rfl⟩ | spelled)
      · exact .blank blanks
      · obtain ⟨before, after, shape, leading, trailing⟩ := trim_surrounded written.toList
        exact .word shape leading trailing spelled
    · intro spells
      cases spells with
      | blank blanks => exact .inl ⟨blanks, rfl⟩
      | word shape leading trailing spelled =>
        rw [shape, spelled.trim leading trailing]
        exact .inr spelled

/-- Every page of a word is spelled by its decimal text between blanks. -/
theorem decimal_spells {before after : String} (word : page < 18446744073709551616)
    (leading : ∀ c ∈ before.toList, isBlank c = true)
    (trailing : ∀ c ∈ after.toList, isBlank c = true) :
    (LoosePage.text (before ++ toString page ++ after)).Spells page := by
  have shape : (before ++ toString page ++ after).toList =
      before.toList ++ (digitsOf page ++ after.toList) := by
    simp [digitsOf]
  exact .word shape leading trailing (digits_spell_word word)

/-- A signed word holds pages below `2^63` as they are and turns the others into negative numbers.
-/
theorem of_nat_eq (word : page < 18446744073709551616) : LoosePage.ofNat page =
    .number (if page < 9223372036854775808 then page else page - 18446744073709551616) := by
  have wrapped : Int.bmod page 18446744073709551616 =
      if page < 9223372036854775808 then (page : Int) else page - 18446744073709551616 := by
    rw [Int.bmod_def]
    omega
  rw [ofNat, wrapped]

/-- A page given as a number resolves to itself below `2^63` and is refused as negative from there.
-/
theorem resolve_of_nat (word : page < 18446744073709551616) : (LoosePage.ofNat page).resolve =
    if page < 9223372036854775808 then .ok page
    else .error (.options (.negativePage (page - 18446744073709551616))) := by
  rw [of_nat_eq word]
  split
  · exact resolve_number.mpr rfl
  · exact if_pos (by omega)

end LoosePage

/-! ## Options -/

namespace LooseOptions

/-- Options with a page amount to those without it, turned to that page; a fault of the others comes
first. -/
theorem resolve_page (options : LooseOptions) (page : LoosePage) :
    LooseOptions.resolve { options with page := some page } = do
      let canonical ← LooseOptions.resolve { options with page := none }
      return { canonical with page := ← page.resolve } := by
  simp only [resolve, resolvePage]
  cases resolveFilters options.filters with
  | error fault => rfl
  | ok filters => rfl

/-- Options with a page that is spelled resolve to that page, however it is spelled. -/
theorem resolve_spelled {options : LooseOptions} {canonical : Options} {page : Nat}
    (accepted : LooseOptions.resolve { options with page := none } = .ok canonical)
    (spelled : loose.Spells page) :
    LooseOptions.resolve { options with page := some loose } =
      .ok { canonical with page := page } := by
  rw [resolve_page, accepted, LoosePage.resolve_ok.mpr spelled]
  rfl

/-- Options with the decimal text of a page between blanks resolve to that page for every page of a
word. With the page as a number they do below `2^63`, and from there they are refused for a negative
page. -/
theorem page_spellings {options : LooseOptions} {canonical : Options} {page : Nat}
    {before after : String} (word : page < 18446744073709551616)
    (leading : ∀ c ∈ before.toList, isBlank c = true)
    (trailing : ∀ c ∈ after.toList, isBlank c = true)
    (accepted : LooseOptions.resolve { options with page := none } = .ok canonical) :
    LooseOptions.resolve { options with page := some (.text (before ++ toString page ++ after)) } =
      .ok { canonical with page := page } ∧
    LooseOptions.resolve { options with page := some (.ofNat page) } =
      if page < 9223372036854775808 then .ok { canonical with page := page }
      else .error (.options (.negativePage (page - 18446744073709551616))) := by
  refine ⟨resolve_spelled accepted (LoosePage.decimal_spells word leading trailing), ?_⟩
  rw [resolve_page, accepted, LoosePage.resolve_of_nat word]
  split <;> rfl

end LooseOptions

/-- Options for hats in order of price. -/
private def hatsByPrice : LooseOptions :=
  { LooseOptions.empty with
    sort := some (.one "price")
    filters := some (.tree (.compare "kind" .eq (.string "hat"))) }

private def hatsByPriceCanonical : Options :=
  { Options.initial with
    sort := [⟨"price", .ascending⟩]
    filters := some (.compare "kind" .eq (.string "hat")) }

/-- The last page of a word is found by its text, and its number is taken for minus one. -/
theorem last_page_spelled :
    18446744073709551615 < 18446744073709551616 ∧
      (∀ c ∈ "\t ".toList, isBlank c = true) ∧ (∀ c ∈ "\n".toList, isBlank c = true) ∧
      LooseOptions.resolve { hatsByPrice with page := none } = .ok hatsByPriceCanonical ∧
      LooseOptions.resolve
          { hatsByPrice with
            page := some (.text ("\t " ++ toString 18446744073709551615 ++ "\n")) } =
        .ok { hatsByPriceCanonical with page := 18446744073709551615 } ∧
      LooseOptions.resolve { hatsByPrice with page := some (.ofNat 18446744073709551615) } =
        .error (.options (.negativePage (-1))) := by
  have leading : ∀ c ∈ "\t ".toList, isBlank c = true := List.all_eq_true.mp rfl
  have trailing : ∀ c ∈ "\n".toList, isBlank c = true := List.all_eq_true.mp rfl
  have accepted : LooseOptions.resolve { hatsByPrice with page := none } =
      .ok hatsByPriceCanonical := rfl
  exact ⟨by decide, leading, trailing, accepted,
    LooseOptions.page_spellings (by decide) leading trailing accepted⟩

/-- A page in the upper half of a word resolves when it is given as text and is refused when it is
given as a number. -/
theorem number_of_page_overflows :
    LooseOptions.resolve { LooseOptions.empty with page := some (.text "9223372036854775808") } =
        .ok { Options.initial with page := 9223372036854775808 } ∧
      LooseOptions.resolve { LooseOptions.empty with page := some (.ofNat 9223372036854775808) } =
        .error (.options (.negativePage (-9223372036854775808))) :=
  ⟨rfl, rfl⟩

end SearchIndex
