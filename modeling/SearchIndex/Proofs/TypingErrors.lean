import Mathlib.Algebra.Order.Ring.Nat
import Mathlib.Data.List.Basic
import Mathlib.Order.Nat

/-! Typing errors between two words, told in two ways. A word may be changed by one slip after
another, in any order and at any place; or the intended word is read once from the left while the
other is typed, stroke by stroke, so that an exchange of two characters says at once what was lost
and added between them. Whatever some number of slips does, strokes do with no more errors, and the
other way round. -/
namespace SearchIndex.Distance

/-! ## Slips -/

/-- One typing error somewhere in a word: a character is replaced, left out or put in, or two
neighbours change places. -/
inductive Slip : List Char → List Char → Prop where
  | replaced (front rest : List Char) (c d : Char) : Slip (front ++ c :: rest) (front ++ d :: rest)
  | dropped (front rest : List Char) (c : Char) : Slip (front ++ c :: rest) (front ++ rest)
  | added (front rest : List Char) (c : Char) : Slip (front ++ rest) (front ++ c :: rest)
  | exchanged (front rest : List Char) (c d : Char) :
    Slip (front ++ c :: d :: rest) (front ++ d :: c :: rest)

/-- A number of slips, one after another, that turn one word into another. -/
inductive Slips : Nat → List Char → List Char → Prop where
  | none (word : List Char) : Slips 0 word word
  | more {count : Nat} {intended typed next : List Char} (slips : Slips count intended typed)
    (slip : Slip typed next) : Slips (count + 1) intended next

theorem Slips.trans (first : Slips m intended middle) (second : Slips n middle typed) :
    Slips (m + n) intended typed := by
  induction second with
  | none => exact first
  | more _ slip ih => exact (ih first).more slip

theorem Slip.slips (slip : Slip intended typed) : Slips 1 intended typed := (Slips.none _).more slip

theorem Slip.between (front rest : List Char) (slip : Slip intended typed) :
    Slip (front ++ intended ++ rest) (front ++ typed ++ rest) := by
  cases slip with
  | replaced before after c d => simpa using Slip.replaced (front ++ before) (after ++ rest) c d
  | dropped before after c => simpa using Slip.dropped (front ++ before) (after ++ rest) c
  | added before after c => simpa using Slip.added (front ++ before) (after ++ rest) c
  | exchanged before after c d => simpa using Slip.exchanged (front ++ before) (after ++ rest) c d

/-- Slips in a part of a word are slips in the word. -/
theorem Slips.between (front rest : List Char) (slips : Slips count intended typed) :
    Slips count (front ++ intended ++ rest) (front ++ typed ++ rest) := by
  induction slips with
  | none => exact .none _
  | more _ slip ih => exact ih.more (slip.between front rest)

theorem Slips.append (first : Slips m intended typed) (second : Slips n intended' typed') :
    Slips (m + n) (intended ++ intended') (typed ++ typed') := by
  have left := first.between [] intended'
  have right := second.between typed []
  simp only [List.nil_append, List.append_nil] at left right
  exact left.trans right

theorem slips_dropping (word : List Char) : Slips word.length word [] := by
  induction word with
  | nil => exact .none []
  | cons c word ih => simpa [Nat.add_comm] using (Slip.dropped [] word c).slips.trans ih

theorem slips_adding (word : List Char) : Slips word.length [] word := by
  induction word with
  | nil => exact .none []
  | cons c word ih => exact ih.more (.added [] word c)

/-! ## Strokes -/

/-- What becomes of the next characters of the intended word. -/
inductive Stroke where
  | kept (c : Char)
  | replaced (c d : Char)
  | dropped (c : Char)
  | added (c : Char)
  /-- Two characters change places; what stood between them is lost, and what stands there now was
  put in. -/
  | exchanged (c d : Char) (lost put : List Char)

/-- The characters of the intended word that a stroke covers. -/
def Stroke.intended : Stroke → List Char
  | .kept c | .replaced c _ | .dropped c => [c]
  | .added _ => []
  | .exchanged c d lost _ => c :: (lost ++ [d])

/-- The characters that a stroke types. -/
def Stroke.typed : Stroke → List Char
  | .kept c | .replaced _ c | .added c => [c]
  | .dropped _ => []
  | .exchanged c d _ put => d :: (put ++ [c])

/-- The number of errors in a stroke. -/
def Stroke.errors : Stroke → Nat
  | .kept _ => 0
  | .replaced .. | .dropped _ | .added _ => 1
  | .exchanged _ _ lost put => lost.length + 1 + put.length

/-- Some strokes with no more than a number of errors type a word where another is intended. -/
def Types (errors : Nat) (intended typed : List Char) : Prop :=
  ∃ strokes : List Stroke, strokes.flatMap Stroke.intended = intended ∧
    strokes.flatMap Stroke.typed = typed ∧ (strokes.map Stroke.errors).sum ≤ errors

theorem types_nil : Types 0 [] [] := ⟨[], rfl, rfl, le_rfl⟩

theorem Types.mono (types : Types m intended typed) (less : m ≤ n) : Types n intended typed := by
  obtain ⟨strokes, covers, typing, errors⟩ := types
  exact ⟨strokes, covers, typing, errors.trans less⟩

theorem Types.append (first : Types m intended typed) (second : Types n intended' typed') :
    Types (m + n) (intended ++ intended') (typed ++ typed') := by
  obtain ⟨strokes, rfl, rfl, errors⟩ := first
  obtain ⟨strokes', rfl, rfl, errors'⟩ := second
  exact ⟨strokes ++ strokes', by simp, by simp, by simpa using Nat.add_le_add errors errors'⟩

theorem Stroke.types (stroke : Stroke) : Types stroke.errors stroke.intended stroke.typed :=
  ⟨[stroke], by simp, by simp, by simp⟩

theorem types_of_strokes (strokes : List Stroke) : Types (strokes.map Stroke.errors).sum
    (strokes.flatMap Stroke.intended) (strokes.flatMap Stroke.typed) :=
  ⟨strokes, rfl, rfl, le_rfl⟩

theorem types_self (word : List Char) : Types 0 word word := by
  induction word with
  | nil => exact types_nil
  | cons c word ih => exact (Stroke.kept c).types.append ih

theorem types_dropping (word : List Char) : Types word.length word [] := by
  induction word with
  | nil => exact types_nil
  | cons c word ih =>
    exact ((Stroke.dropped c).types.append ih).mono (Nat.add_comm 1 word.length).le

theorem types_adding (word : List Char) : Types word.length [] word := by
  induction word with
  | nil => exact types_nil
  | cons c word ih => exact ((Stroke.added c).types.append ih).mono (Nat.add_comm 1 word.length).le

/-! ## Strokes are slips -/

theorem Stroke.slips (stroke : Stroke) : Slips stroke.errors stroke.intended stroke.typed := by
  cases stroke with
  | kept c => exact .none [c]
  | replaced c d => exact (Slip.replaced [] [] c d).slips
  | dropped c => exact slips_dropping [c]
  | added c => exact slips_adding [c]
  | exchanged c d lost put =>
    -- First what stood between the two goes, then they change places, then comes the rest.
    have losing : Slips lost.length (c :: (lost ++ [d])) [c, d] := by
      simpa using (slips_dropping lost).between [c] [d]
    have putting : Slips put.length [d, c] (d :: (put ++ [c])) := by
      simpa using (slips_adding put).between [d] [c]
    exact (losing.more (.exchanged [] [] c d)).trans putting

theorem slips_of_types (types : Types errors intended typed) :
    ∃ count ≤ errors, Slips count intended typed := by
  obtain ⟨strokes, rfl, rfl, few⟩ := types
  refine ⟨_, few, ?_⟩
  clear few
  induction strokes with
  | nil => exact .none []
  | cons stroke strokes ih => exact stroke.slips.append ih

/-! ## Slips are strokes -/

/-- Where a character in the second of two cuts of a text stands in the first. -/
private theorem cut_at {first second front rest : List Char}
    (same : first ++ second = front ++ c :: rest) :
    (∃ middle, front = first ++ middle ∧ second = middle ++ c :: rest) ∨
      ∃ behind, first = front ++ c :: behind ∧ rest = behind ++ second := by
  rcases List.append_eq_append_iff.mp same with ⟨middle, rfl, later⟩ | ⟨middle, rfl, later⟩
  · exact .inl ⟨middle, rfl, later⟩
  · cases middle with
    | nil => exact .inl ⟨[], by simp, later.symm⟩
    | cons d behind =>
      obtain ⟨rfl, rfl⟩ := List.cons.inj later
      exact .inr ⟨behind, rfl, rfl⟩

/-- A stroke that types a character does with no more errors without it, unless it keeps it. -/
private theorem Stroke.types_without {stroke : Stroke} (typing : stroke.typed = front ++ c :: rest) :
    Types stroke.errors stroke.intended (front ++ rest) ∨
      stroke = .kept c ∧ front = [] ∧ rest = [] := by
  cases stroke with
  | kept d =>
    obtain ⟨rfl, same⟩ | ⟨_, _, same⟩ := List.append_eq_cons_iff.mp typing.symm
    · cases same
      exact .inr ⟨rfl, rfl, rfl⟩
    · simp at same
  | replaced d e =>
    obtain ⟨rfl, same⟩ | ⟨_, _, same⟩ := List.append_eq_cons_iff.mp typing.symm
    · cases same
      exact .inl (types_dropping [d])
    · simp at same
  | dropped => simp [typed] at typing
  | added d =>
    obtain ⟨rfl, same⟩ | ⟨_, _, same⟩ := List.append_eq_cons_iff.mp typing.symm
    · cases same
      exact .inl (types_nil.mono (Nat.zero_le 1))
    · simp at same
  | exchanged d e lost put =>
    left
    obtain ⟨rfl, same⟩ | ⟨behind, rfl, same⟩ := List.append_eq_cons_iff.mp typing.symm
    · -- Without the first character the other one is kept.
      cases same
      have parts := ((types_adding put).append (types_self [d])).append (types_dropping (lost ++ [c]))
      refine Types.mono (by simpa [intended] using parts) ?_
      simp [errors]
      omega
    · rcases rest.eq_nil_or_concat' with rfl | ⟨rest, last, rfl⟩
      · -- Without the last character the first one is kept.
        obtain ⟨rfl, rfl⟩ : put = behind ∧ d = c := by simpa using same
        have parts := ((types_dropping (d :: lost)).append (types_self [e])).append (types_adding put)
        refine Types.mono (by simpa [intended] using parts) ?_
        simp [errors]
      · have inside : put ++ [d] = (behind ++ c :: rest) ++ [last] := by simpa using same
        obtain ⟨rfl, ends⟩ := List.append_inj' inside rfl
        cases ends
        have parts := (Stroke.exchanged d e lost (behind ++ rest)).types
        refine Types.mono (by simpa [intended, typed] using parts) ?_
        simp [errors]

/-- One character less is typed with no more errors, unless the character was intended there. -/
theorem types_without (types : Types errors intended (front ++ c :: rest)) :
    Types errors intended (front ++ rest) ∨
      ∃ before after early late, intended = before ++ c :: after ∧ early + late ≤ errors ∧
        Types early before front ∧ Types late after rest := by
  obtain ⟨strokes, rfl, typing, few⟩ := types
  induction strokes generalizing front errors with
  | nil => simp at typing
  | cons stroke strokes ih =>
    rw [List.flatMap_cons] at typing ⊢
    rw [List.map_cons, List.sum_cons] at few
    rcases cut_at typing with ⟨middle, rfl, later⟩ | ⟨behind, here, rfl⟩
    · rcases ih later le_rfl with fewer | ⟨before, after, early, late, covers, errors, first, second⟩
      · exact .inl (by simpa using (stroke.types.append fewer).mono few)
      · refine .inr ⟨stroke.intended ++ before, after, stroke.errors + early, late, ?_, ?_,
          stroke.types.append first, second⟩
        · rw [covers, List.append_assoc]
        · omega
    · rcases stroke.types_without here with fewer | ⟨rfl, rfl, rfl⟩
      · exact .inl (by simpa using (fewer.append (types_of_strokes strokes)).mono few)
      · exact .inr ⟨[], _, 0, _, rfl, by simpa [Stroke.errors] using few, types_nil,
          types_of_strokes strokes⟩

/-- One character more in what a stroke types is one more error. -/
private theorem Stroke.types_with {stroke : Stroke} (typing : stroke.typed = front ++ rest)
    (c : Char) : Types (stroke.errors + 1) stroke.intended (front ++ c :: rest) := by
  cases front with
  | nil =>
    have parts := (Stroke.added c).types.append stroke.types
    rw [typing] at parts
    exact parts.mono (Nat.add_comm 1 stroke.errors).le
  | cons first front =>
    rcases rest.eq_nil_or_concat' with rfl | ⟨rest, last, rfl⟩
    · have parts := stroke.types.append (Stroke.added c).types
      rw [typing] at parts
      simpa [intended, typed, errors] using parts
    · cases stroke with
      | kept | replaced | dropped | added => simp [typed] at typing
      | exchanged d e lost put =>
        obtain ⟨rfl, inside⟩ := List.cons.inj typing
        have ended : put ++ [d] = (front ++ rest) ++ [last] := by simpa using inside
        obtain ⟨rfl, ends⟩ := List.append_inj' ended rfl
        cases ends
        have parts := (Stroke.exchanged last e lost (front ++ c :: rest)).types
        refine Types.mono (by simpa [intended, typed] using parts) ?_
        simp [errors]
        omega

/-- One character more is one more error. -/
theorem types_with (types : Types errors intended (front ++ rest)) (c : Char) :
    Types (errors + 1) intended (front ++ c :: rest) := by
  obtain ⟨strokes, rfl, typing, few⟩ := types
  induction strokes generalizing front errors with
  | nil =>
    obtain ⟨rfl, rfl⟩ := List.append_eq_nil_iff.mp typing.symm
    exact (types_adding [c]).mono (Nat.le_add_left 1 errors)
  | cons stroke strokes ih =>
    rw [List.flatMap_cons] at typing ⊢
    rw [List.map_cons, List.sum_cons] at few
    rcases List.append_eq_append_iff.mp typing with ⟨middle, rfl, later⟩ | ⟨middle, here, rfl⟩
    · rw [List.append_assoc]
      exact (stroke.types.append (ih later le_rfl)).mono (by omega)
    · have parts := (stroke.types_with here c).append (types_of_strokes strokes)
      refine Types.mono (by simpa using parts) ?_
      omega

/-- Characters that are intended and not typed are all errors. -/
theorem length_le_of_types_nil (types : Types errors intended []) : intended.length ≤ errors := by
  obtain ⟨strokes, rfl, typing, few⟩ := types
  refine le_trans ?_ few
  clear few
  induction strokes with
  | nil => exact le_rfl
  | cons stroke strokes ih =>
    obtain ⟨here, later⟩ := List.append_eq_nil_iff.mp typing
    have single : stroke.intended.length ≤ stroke.errors := by
      cases stroke <;> simp_all [Stroke.typed, Stroke.intended, Stroke.errors]
    simpa using Nat.add_le_add single (ih later)

/-- After one more slip strokes need one more error. -/
theorem Types.slip (types : Types errors intended typed) (slip : Slip typed next) :
    Types (errors + 1) intended next := by
  cases slip with
  | replaced front rest c d =>
    rcases types_without types with fewer | ⟨before, after, early, late, rfl, few, first, second⟩
    · exact types_with fewer d
    · refine (first.append ((Stroke.replaced c d).types.append second)).mono ?_
      simp only [Stroke.errors]
      omega
  | dropped front rest c =>
    rcases types_without types with fewer | ⟨before, after, early, late, rfl, few, first, second⟩
    · exact fewer.mono (Nat.le_succ errors)
    · refine (first.append ((Stroke.dropped c).types.append second)).mono ?_
      simp only [Stroke.errors]
      omega
  | added front rest c => exact types_with types c
  | exchanged front rest c d =>
    rcases types_without types with fewer | ⟨before, after, early, late, rfl, few, first, second⟩
    · have behind : Types errors intended ((front ++ [d]) ++ rest) := by simpa using fewer
      simpa using types_with behind c
    · have second : Types late after ([] ++ d :: rest) := second
      rcases types_without second with
        fewer | ⟨between, after, soon, later, rfl, few', none, third⟩
      · -- The second character was not intended there: it is typed before the first instead.
        have parts := first.append ((Stroke.added d).types.append ((Stroke.kept c).types.append fewer))
        refine parts.mono ?_
        simp only [Stroke.errors]
        omega
      · -- Both were intended, and nothing was typed between them.
        have lost := length_le_of_types_nil none
        have parts := first.append ((Stroke.exchanged c d between []).types.append third)
        refine Types.mono (by simpa [Stroke.intended, Stroke.typed] using parts) ?_
        simp only [Stroke.errors, List.length_nil]
        omega

/-- What slips do strokes do with no more errors. -/
theorem types_of_slips (slips : Slips count intended typed) : Types count intended typed := by
  induction slips with
  | none word => exact types_self word
  | more _ slip ih => exact ih.slip slip

end SearchIndex.Distance
