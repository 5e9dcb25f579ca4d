import Mathlib.Data.List.TakeWhile
import SearchIndex.Proofs.SegmentEncoding

/-! How a URL is read that has path segments written behind a base. What the base spells in front of
them does not depend on them: it fixes the origin and the segments that stand above. A base that
has begun a query or a fragment hides what follows it from the path. -/
namespace SearchIndex.Url

section Splitting

variable {p : α → Bool} {rest : List α}

private theorem drop_while_stopped (stops : ∀ c ∈ rest.head?, p c = false) (front : List α) :
    (front ++ rest).dropWhile p = front.dropWhile p ++ rest := by
  rw [List.dropWhile_append]
  split
  · rename_i through
    rw [List.isEmpty_iff] at through
    rw [through, List.nil_append]
    cases rest with
    | nil => rfl
    | cons c rest => exact List.dropWhile_cons_of_neg (by simp [stops c rfl])
  · rfl

private theorem take_while_stopped (stops : ∀ c ∈ rest.head?, p c = false) (front : List α) :
    (front ++ rest).takeWhile p = front.takeWhile p := by
  have none_taken : rest.takeWhile p = [] := by
    cases rest with
    | nil => rfl
    | cons c rest => exact List.takeWhile_cons_of_neg (by simp [stops c rfl])
  rw [List.takeWhile_append, none_taken, List.append_nil]
  split
  · rename_i whole
    exact ((List.takeWhile_prefix p).eq_of_length whole).symm
  · rfl

end Splitting

/-! ## The ends of a text -/

/-- Whether a character does not count at the ends of a URL. -/
def isOuter (c : Char) : Bool := c.toNat ≤ 32

/-- Whether a character does not count anywhere in a URL. -/
def isBreak (c : Char) : Bool := ['\t', '\n', '\r'].contains c

/-- The part of a base that stands in front of what is written behind it. -/
def lead (base : List Char) : List Char := (base.dropWhile isOuter).filter fun c => !isBreak c

theorem tidy_eq (text : List Char) :
    tidy text = (((text.dropWhile isOuter).reverse.dropWhile isOuter).reverse).filter
      fun c => !isBreak c := rfl

theorem not_outer {c : Char} (visible : 32 < c.toNat) : isOuter c = false :=
  decide_eq_false (Nat.not_le.mpr visible)

theorem not_break {c : Char} (visible : 32 < c.toNat) : isBreak c = false := by
  have outer : (['\t', '\n', '\r'].all isOuter) = true := rfl
  rw [isBreak, Bool.eq_false_iff, ne_eq, List.contains_iff_mem]
  intro member
  have blank := List.all_eq_true.mp outer c member
  rw [not_outer visible] at blank
  cases blank

/-- What is written behind a base is not trimmed, and neither is the end of the base. -/
theorem tidy_append (base : List Char) {rest : List Char} (written : rest ≠ [])
    (solid : ∀ c ∈ rest, 32 < c.toNat) : tidy (base ++ rest) = lead base ++ rest := by
  have starts : ∀ c ∈ rest.head?, isOuter c = false := fun c first =>
    not_outer (solid c (List.mem_of_mem_head? first))
  have ends : ∀ c ∈ (rest.reverse ++ (base.dropWhile isOuter).reverse).head?,
      isOuter c = false := by
    cases turned : rest.reverse with
    | nil => exact absurd (List.reverse_eq_nil_iff.mp turned) written
    | cons last others =>
      rintro c ⟨⟩
      exact not_outer (solid last (List.mem_reverse.mp (turned ▸ List.mem_cons_self)))
  have kept : rest.filter (fun c => !isBreak c) = rest := by
    rw [List.filter_eq_self]
    intro c inside
    rw [not_break (solid c inside)]
    rfl
  rw [tidy_eq, lead, drop_while_stopped starts, List.reverse_append, ← List.nil_append (_ ++ _),
    drop_while_stopped ends, List.dropWhile_nil, List.nil_append, List.reverse_append,
    List.reverse_reverse, List.reverse_reverse, List.filter_append, kept]

theorem mem_lead {base : List Char} (inside : c ∈ base) (visible : 32 < c.toNat) :
    c ∈ lead base := by
  rw [← List.takeWhile_append_dropWhile (p := isOuter) (l := base), List.mem_append] at inside
  rcases inside with outer | inner
  · have blank := List.mem_takeWhile_imp outer
    rw [not_outer visible] at blank
    cases blank
  · refine List.mem_filter.mpr ⟨inner, ?_⟩
    rw [not_break visible]
    rfl

/-! ## The scheme -/

private theorem take_scheme_iff {scheme front rest : List Char}
    (outside : ∀ c ∈ rest.head?, c.toLower ∉ scheme) :
    ((front ++ rest).take scheme.length).map Char.toLower = scheme ↔
      (front.take scheme.length).map Char.toLower = scheme := by
  by_cases long : scheme.length ≤ front.length
  · rw [List.take_append_of_le_length long]
  · cases rest with
    | nil => rw [List.append_nil]
    | cons stop rest =>
      constructor
      · intro same
        have inside : stop ∈ (front ++ stop :: rest).take scheme.length := by
          rw [List.take_append, List.mem_append]
          right
          rw [show scheme.length - front.length = (scheme.length - front.length - 1) + 1 by omega]
          exact List.mem_cons_self
        have lower := List.mem_map_of_mem (f := Char.toLower) inside
        rw [same] at lower
        exact absurd lower (outside stop rfl)
      · intro same
        have lengths := congrArg List.length same
        simp only [List.length_map, List.length_take] at lengths
        omega

/-- The scheme of an absolute URL and what follows it. -/
def splitScheme? (url : List Char) : Option (List Char × List Char) :=
  ["http:".toList, "https:".toList].findSome? fun scheme =>
    if (url.take scheme.length).map Char.toLower == scheme then
      some (scheme, url.drop scheme.length)
    else none

/-- Whether a character is a slash or stands for one. -/
def isSlash (c : Char) : Bool := c = '/' || c = '\\'

/-- What follows a scheme begins with none of its characters. -/
def EndsScheme (rest : List Char) : Prop := ∀ c ∈ rest.head?, c ∈ ['/', '?', '#']

private theorem scheme_of_append {scheme front rest : List Char}
    (outside : ∀ c ∈ rest.head?, c.toLower ∉ scheme) :
    (if ((front ++ rest).take scheme.length).map Char.toLower == scheme then
      some (scheme, ((front ++ rest).drop scheme.length).dropWhile isSlash) else none) =
    (if (front.take scheme.length).map Char.toLower == scheme then
      some (scheme, front.drop scheme.length) else none).map fun found =>
        (found.1, (found.2 ++ rest).dropWhile isSlash) := by
  simp only [beq_iff_eq, take_scheme_iff outside]
  split
  · rename_i same
    have lengths := congrArg List.length same
    rw [List.length_map, List.length_take] at lengths
    rw [List.drop_append_of_le_length (by omega)]
    rfl
  · rfl

theorem scheme_append {front rest : List Char} (ends : EndsScheme rest) :
    scheme? (front ++ rest) = (splitScheme? front).map fun found =>
      (found.1, (found.2 ++ rest).dropWhile isSlash) := by
  have outside (scheme : List Char) (known : scheme ∈ ["http:".toList, "https:".toList]) :
      ∀ c ∈ rest.head?, c.toLower ∉ scheme := by
    intro c first
    have mark := ends c first
    simp only [List.mem_cons, List.not_mem_nil, or_false] at mark known
    rcases mark with rfl | rfl | rfl <;> rcases known with rfl | rfl <;> decide
  rw [splitScheme?, List.map_findSome?]
  simp only [scheme?, List.findSome?_cons, Function.comp]
  rw [← scheme_of_append (outside _ (.head _)), ← scheme_of_append (outside _ (.tail _ (.head _)))]
  rfl

/-! ## The authority, the path and the query -/

/-- The URL of a request whose address has an authority and a path, without a query. -/
def place? (scheme authority path : List Char) : Option Url :=
  let location := (authority.reverse.takeWhile (· != '@')).reverse.map Char.toLower
  if isLocation location then
    some {
      origin := scheme ++ '/' :: '/' :: location
      path := resolvePath (if path.isEmpty then ['/'] else path)
      query := none }
  else none

/-- Whether a character belongs to the authority of a URL. -/
def isAuthority (c : Char) : Bool := !(['/', '\\', '?', '#'].contains c)

/-- The query that follows a mark, if there is one. -/
def queryOf : List Char → Option (List Char)
  | [] => none
  | _ :: query => some (query.flatMap queryChar)

/-- Whether a character begins neither a query nor a fragment. -/
def inPath (c : Char) : Bool := c != '?' && c != '#'

/-- A text without a query or a fragment. -/
def IsBare (text : List Char) : Prop := ∀ c ∈ text, inPath c = true

instance (text : List Char) : Decidable (IsBare text) :=
  List.decidableBAll (fun c => inPath c = true) text

/-- A text with which a query or a fragment begins, or no text. -/
def EndsPath (back : List Char) : Prop := ∀ c ∈ back.head?, c = '?' ∨ c = '#'

theorem IsBare.of_subset (bare : IsBare text) (within : part ⊆ text) : IsBare part :=
  fun c inside => bare c (within inside)

theorem bare_of_lead (bare : IsBare (lead base)) : IsBare base := by
  intro c inside
  by_cases visible : 32 < c.toNat
  · exact bare c (mem_lead inside visible)
  · have marks : ∀ mark, mark = '?' ∨ mark = '#' → 32 < mark.toNat := by
      rintro mark (rfl | rfl) <;> decide
    rw [inPath, Bool.and_eq_true, bne_iff_ne, bne_iff_ne]
    exact ⟨fun same => visible (marks c (.inl same)), fun same => visible (marks c (.inr same))⟩

/-- The URL of a scheme and what follows it and its slashes. -/
def readLocated? (scheme located : List Char) : Option Url :=
  let rest := (located.dropWhile isAuthority).takeWhile (· != '#')
  (place? scheme (located.takeWhile isAuthority) (rest.takeWhile (· != '?'))).map fun url =>
    { url with query := queryOf (rest.dropWhile (· != '?')) }

theorem read_eq (text : List Char) :
    read? text = (scheme? (tidy text)).bind fun found => readLocated? found.1 found.2 := by
  unfold read?
  cases scheme? (tidy text) with
  | none => rfl
  | some found =>
    obtain ⟨scheme, located⟩ := found
    change (if isLocation _ then _ else none) = readLocated? scheme located
    unfold readLocated? place?
    dsimp only
    split
    · rename_i placed
      exact if_pos placed ▸ rfl
    · rename_i misplaced
      exact if_neg misplaced ▸ rfl

theorem read_located_append (bare : IsBare located) (ends : EndsPath back) (scheme : List Char) :
    readLocated? scheme (located ++ back) =
      (place? scheme (located.takeWhile isAuthority) (located.dropWhile isAuthority)).map
        fun url => { url with query := queryOf (back.takeWhile (· != '#')) } := by
  have authority : ∀ c ∈ back.head?, isAuthority c = false := by
    intro c first
    rcases ends c first with rfl | rfl <;> rfl
  have asks : ∀ c ∈ (back.takeWhile (· != '#')).head?, (c != '?') = false := by
    intro c first
    cases back with
    | nil => cases first
    | cons stop back =>
      rcases ends stop rfl with rfl | rfl
      · cases first
        rfl
      · cases first
  have path : IsBare (located.dropWhile isAuthority) :=
    bare.of_subset (List.dropWhile_suffix _).subset
  have before : ∀ c ∈ located.dropWhile isAuthority, (c != '#') = true := fun c inside =>
    (Bool.and_eq_true_iff.mp (path c inside)).2
  have above : ∀ c ∈ located.dropWhile isAuthority, (c != '?') = true := fun c inside =>
    (Bool.and_eq_true_iff.mp (path c inside)).1
  have whole := drop_while_stopped asks []
  rw [List.dropWhile_nil, List.nil_append] at whole
  unfold readLocated?
  rw [take_while_stopped authority, drop_while_stopped authority,
    List.takeWhile_append_of_pos before]
  dsimp only
  rw [take_while_stopped asks, List.dropWhile_append_of_pos above,
    List.takeWhile_eq_self_iff.mpr above, whole]

theorem split_scheme_bare (bare : IsBare front)
    (found : splitScheme? front = some (scheme, after)) : IsBare after := by
  obtain ⟨_, _, tested⟩ := List.exists_of_findSome?_eq_some found
  split at tested
  · cases tested
    exact bare.of_subset (List.drop_subset _ _)
  · cases tested

/-- The URL that a text without query and fragment spells. -/
def readBare? (front : List Char) : Option Url :=
  (splitScheme? front).bind fun found =>
    let located := found.2.dropWhile isSlash
    place? found.1 (located.takeWhile isAuthority) (located.dropWhile isAuthority)

/-- A query or a fragment does not change what is in front of it. -/
theorem read_split {text front back : List Char} (whole : tidy text = front ++ back)
    (bare : IsBare front) (ends : EndsPath back) :
    read? text = (readBare? front).map fun url =>
      { url with query := queryOf (back.takeWhile (· != '#')) } := by
  have stop : EndsScheme back := by
    intro c first
    rcases ends c first with rfl | rfl <;> decide
  have slashes : ∀ c ∈ back.head?, isSlash c = false := by
    intro c first
    rcases ends c first with rfl | rfl <;> rfl
  rw [read_eq, whole, scheme_append stop, readBare?]
  cases split : splitScheme? front with
  | none => rfl
  | some found =>
    obtain ⟨scheme, after⟩ := found
    have located : IsBare (after.dropWhile isSlash) :=
      (split_scheme_bare bare split).of_subset (List.dropWhile_suffix _).subset
    rw [Option.map_some, Option.bind_some, drop_while_stopped slashes]
    exact read_located_append located ends scheme

/-! ## Segments behind a base -/

/-- Texts that are written as segments. -/
def AreSegments (segments : List (List Char)) : Prop :=
  ∀ segment ∈ segments, ∀ c ∈ segment, isSegmentChar c = true

theorem are_segments_cons :
    AreSegments (first :: rest) ↔ (∀ c ∈ first, isSegmentChar c = true) ∧ AreSegments rest :=
  List.forall_mem_cons

theorem are_segments_encode (texts : List String) : AreSegments (texts.map encodeSegment) := by
  intro segment found
  obtain ⟨text, _, rfl⟩ := List.mem_map.mp found
  exact fun _ inside => segment_char_of_mem inside

theorem in_path_of_segment {c : Char} (kept : isSegmentChar c = true) : inPath c = true := by
  rw [inPath, Bool.and_eq_true, bne_iff_ne, bne_iff_ne]
  exact ⟨segment_char_ne kept rfl, segment_char_ne kept rfl⟩

theorem mem_join_slashes (segments : AreSegments segs) (inside : c ∈ joinSlashes segs) :
    c = '/' ∨ isSegmentChar c = true := by
  obtain ⟨segment, found, inside⟩ := List.mem_flatMap.mp inside
  rcases List.mem_cons.mp inside with rfl | inside
  · exact .inl rfl
  · exact .inr (segments segment found c inside)

theorem join_slashes_solid (segments : AreSegments segs) :
    ∀ c ∈ joinSlashes segs, 32 < c.toNat := by
  intro c inside
  rcases mem_join_slashes segments inside with rfl | plain
  · decide
  · exact (segment_char_bounds plain).1

/-- The segments that a path has in front of those written behind it. -/
def leadSegments (path : List Char) : List (List Char) :=
  (((path.map fun c => if c = '\\' then '/' else c).flatMap pathChar).splitOn '/').drop 1

theorem split_join_slashes (segments : AreSegments segs) (front : List Char) :
    (front ++ joinSlashes segs).splitOn '/' = front.splitOn '/' ++ segs := by
  induction segs generalizing front with
  | nil => rw [joinSlashes, List.flatMap_nil, List.append_nil, List.append_nil]
  | cons segment rest ih =>
    obtain ⟨plain, others⟩ := are_segments_cons.mp segments
    have inner : '/' ∉ segment := fun slash => absurd (plain '/' slash) (by decide)
    calc (front ++ '/' :: (segment ++ joinSlashes rest)).splitOn '/'
      _ = front.splitOn '/' ++ (segment ++ joinSlashes rest).splitOn '/' :=
        List.splitOn_append_cons_self front _
      _ = front.splitOn '/' ++ ([segment] ++ rest) := by
        rw [ih others, List.splitOn_eq_singleton inner]

theorem resolve_path_append (segments : AreSegments segs) (front : List Char) :
    resolvePath (front ++ joinSlashes segs) =
      joinSlashes (resolveDots [] (leadSegments front ++ segs)) := by
  have kept : ((joinSlashes segs).map fun c => if c = '\\' then '/' else c).flatMap pathChar =
      joinSlashes segs := by
    have same : ∀ c ∈ joinSlashes segs, pathChar (if c = '\\' then '/' else c) = [c] := by
      intro c inside
      rcases mem_join_slashes segments inside with rfl | plain
      · rfl
      · rw [if_neg (segment_char_ne plain rfl), path_char_of_segment plain]
    rw [List.flatMap_map, List.flatMap_def, List.map_congr_left same, ← List.flatMap_def,
      List.flatMap_singleton']
  have parted : 1 ≤ (((front.map fun c => if c = '\\' then '/' else c).flatMap pathChar).splitOn
      '/').length :=
    List.length_pos_iff.mpr (List.splitOn_ne_nil _ _)
  rw [resolvePath, List.map_append, List.flatMap_append, kept, split_join_slashes segments,
    List.drop_append_of_le_length parted]
  rfl

/-- The segments in front, last first, after one more that is not the last. -/
def enter (done : List (List Char)) (segment : List Char) : List (List Char) :=
  if isDoubleDot segment then done.tail
  else if isSingleDot segment then done
  else segment :: done

theorem resolve_dots_cons (done : List (List Char)) (segment : List Char)
    {rest : List (List Char)} (more : rest ≠ []) :
    resolveDots done (segment :: rest) = resolveDots (enter done segment) rest := by
  have inner : ¬ rest.isEmpty = true := mt List.isEmpty_iff.mp more
  rw [resolveDots, if_neg inner, if_neg inner, enter]
  split
  · rfl
  · split <;> rfl

/-- What is resolved of the segments in front does not depend on those that follow. -/
theorem resolve_dots_append (done front : List (List Char)) {rest : List (List Char)}
    (more : rest ≠ []) :
    resolveDots done (front ++ rest) = resolveDots (front.foldl enter done) rest := by
  induction front generalizing done with
  | nil => rfl
  | cons segment front ih =>
    have left : front ++ rest ≠ [] := List.append_ne_nil_of_right_ne_nil _ more
    rw [List.cons_append, resolve_dots_cons done segment left, ih, List.foldl_cons]

theorem join_slashes_concat (segments : List (List Char)) (segment : List Char) :
    joinSlashes (segments ++ [segment]) = joinSlashes segments ++ '/' :: segment := by
  rw [joinSlashes, List.flatMap_append, List.flatMap_singleton]
  rfl

/-- A text that is not written with dots alone stays where it is written. -/
theorem resolve_dots_encode {text : String} (plain : text ≠ "." ∧ text ≠ "..")
    (done rest : List (List Char)) :
    resolveDots done (encodeSegment text :: rest) =
      resolveDots (encodeSegment text :: done) rest := by
  rw [resolveDots, if_neg (mt is_double_dot_encode.mp plain.2),
    if_neg (mt is_single_dot_encode.mp plain.1)]

/-- Where a path with a text as its last segment leads. -/
theorem resolve_dots_last (text : String) (done : List (List Char)) :
    joinSlashes (resolveDots done [encodeSegment text]) =
      if text = ".." then joinSlashes done.tail.reverse ++ ['/']
      else if text = "." then joinSlashes done.reverse ++ ['/']
      else joinSlashes done.reverse ++ '/' :: encodeSegment text := by
  rw [resolveDots]
  by_cases up : text = ".."
  · rw [if_pos (is_double_dot_encode.mpr up), if_pos up, List.isEmpty_nil, if_pos rfl,
      List.reverse_cons, join_slashes_concat]
  by_cases stay : text = "."
  · rw [if_neg (mt is_double_dot_encode.mp up), if_pos (is_single_dot_encode.mpr stay), if_neg up,
      if_pos stay, List.isEmpty_nil, if_pos rfl, List.reverse_cons, join_slashes_concat]
  · rw [if_neg (mt is_double_dot_encode.mp up), if_neg (mt is_single_dot_encode.mp stay), if_neg up,
      if_neg stay, resolveDots, List.reverse_cons, join_slashes_concat]

theorem place_below {scheme authority path : List Char} (written : path ≠ []) :
    place? scheme authority path =
      (place? scheme authority []).map fun url => { url with path := resolvePath path } := by
  have long : path.isEmpty = false := by simpa using written
  unfold place?
  dsimp only
  rw [long]
  split <;> rfl

theorem join_slashes_starts (segments : List (List Char)) :
    ∀ c ∈ (joinSlashes segments).head?, c = '/' := by
  cases segments with
  | nil => nofun
  | cons segment rest =>
    rintro c ⟨⟩
    rfl

theorem read_located_segments (bare : IsBare front) (segments : AreSegments segs)
    (more : segs ≠ []) (scheme : List Char) :
    readLocated? scheme (front ++ joinSlashes segs) =
      (place? scheme (front.takeWhile isAuthority) []).map fun url => ⟨url.origin,
        joinSlashes (resolveDots [] (leadSegments (front.dropWhile isAuthority) ++ segs)),
        none⟩ := by
  have authority : ∀ c ∈ (joinSlashes segs).head?, isAuthority c = false := by
    intro c first
    rw [join_slashes_starts segs c first]
    rfl
  have whole : IsBare (front ++ joinSlashes segs) := by
    intro c inside
    rcases List.mem_append.mp inside with inside | inside
    · exact bare c inside
    rcases mem_join_slashes segments inside with rfl | plain
    · rfl
    · exact in_path_of_segment plain
  have read := read_located_append whole (show EndsPath [] from nofun) scheme
  have written : front.dropWhile isAuthority ++ joinSlashes segs ≠ [] := by
    cases segs with
    | nil => exact absurd rfl more
    | cons segment rest => exact List.append_ne_nil_of_right_ne_nil _ (List.cons_ne_nil _ _)
  rw [List.append_nil, take_while_stopped authority, drop_while_stopped authority,
    place_below written, Option.map_map, resolve_path_append segments] at read
  rw [read]
  rfl

/-- If nothing but slashes follows the scheme, the first segment is the authority. -/
private theorem located_below {first : List Char} (bare : IsBare after) (named : first ≠ [])
    (plain : ∀ c ∈ first, isSegmentChar c = true) :
    ∃ front above, IsBare front ∧ AreSegments above ∧ ∀ rest,
      (after ++ joinSlashes (first :: rest)).dropWhile isSlash =
        front ++ joinSlashes (above ++ rest) := by
  by_cases through : after.dropWhile isSlash = []
  · refine ⟨first, [], fun c inside => ?_, nofun, fun rest => ?_⟩
    · exact in_path_of_segment (plain c inside)
    · have stops : ∀ c ∈ (first ++ joinSlashes rest).head?, isSlash c = false := by
        cases first with
        | nil => exact absurd rfl named
        | cons c first =>
          rintro c ⟨⟩
          have kept := plain c (.head _)
          exact Bool.or_eq_false_iff.mpr ⟨decide_eq_false (segment_char_ne kept rfl),
            decide_eq_false (segment_char_ne kept rfl)⟩
      have unslashed := drop_while_stopped stops ['/']
      rw [List.dropWhile_append, if_pos (List.isEmpty_iff.mpr through)]
      exact unslashed
  · refine ⟨after.dropWhile isSlash, [first], bare.of_subset (List.dropWhile_suffix _).subset,
      List.forall_mem_singleton.mpr plain, fun rest => ?_⟩
    rw [List.dropWhile_append, if_neg (mt List.isEmpty_iff.mp through)]
    rfl

/-- Behind a base without query and fragment, segments name a place that the base and the first of
them fix. -/
theorem read_below {base first : List Char} (bare : IsBare base) (named : first ≠ [])
    (plain : ∀ c ∈ first, isSegmentChar c = true) :
    ∃ place : Option (List Char × List (List Char)), ∀ rest ≠ [], AreSegments rest →
      read? (base ++ joinSlashes (first :: rest)) = place.map fun found =>
        ⟨found.1, joinSlashes (resolveDots found.2 rest), none⟩ := by
  have lead_bare : IsBare (lead base) := bare.of_subset fun c inside =>
    (List.dropWhile_suffix _).subset (List.mem_filter.mp inside).1
  have tidied (rest) (segments : AreSegments rest) :
      read? (base ++ joinSlashes (first :: rest)) = (splitScheme? (lead base)).bind fun found =>
        readLocated? found.1 ((found.2 ++ joinSlashes (first :: rest)).dropWhile isSlash) := by
    have solid := join_slashes_solid (are_segments_cons.mpr ⟨plain, segments⟩)
    have ends : EndsScheme (joinSlashes (first :: rest)) := by
      intro c starts
      rw [join_slashes_starts _ c starts]
      decide
    have written : joinSlashes (first :: rest) ≠ [] := List.cons_ne_nil _ _
    rw [read_eq, tidy_append base written solid, scheme_append ends, Option.bind_map]
    rfl
  cases split : splitScheme? (lead base) with
  | none => exact ⟨none, fun rest _ segments => by rw [tidied rest segments, split]; rfl⟩
  | some found =>
    obtain ⟨scheme, after⟩ := found
    obtain ⟨front, above, front_bare, above_plain, located⟩ :=
      located_below (split_scheme_bare lead_bare split) named plain
    refine ⟨(place? scheme (front.takeWhile isAuthority) []).map fun url => (url.origin,
      (leadSegments (front.dropWhile isAuthority) ++ above).foldl enter []),
      fun rest more segments => ?_⟩
    have written : AreSegments (above ++ rest) := List.forall_mem_append.mpr ⟨above_plain, segments⟩
    rw [tidied rest segments, split, Option.bind_some, located,
      read_located_segments front_bare written (List.append_ne_nil_of_right_ne_nil _ more),
      ← List.append_assoc, resolve_dots_append [] _ more, Option.map_map]
    rfl

/-- Behind a base that has begun a query or a fragment, nothing belongs to the path. -/
theorem read_behind_query {base : List Char} (asks : ¬ IsBare base) :
    ∃ place : Option Url, ∀ rest ≠ [], (∀ c ∈ rest, 32 < c.toNat) →
      ∃ query, read? (base ++ rest) = place.map fun url => { url with query } := by
  have before : IsBare ((lead base).takeWhile inPath) := fun c inside =>
    List.mem_takeWhile_imp inside
  have asked : (lead base).dropWhile inPath ≠ [] := by
    rw [ne_eq, List.dropWhile_eq_nil_iff]
    exact mt bare_of_lead asks
  have ends (rest : List Char) : EndsPath ((lead base).dropWhile inPath ++ rest) := by
    intro c first
    have stopped := List.head?_dropWhile_not inPath (lead base)
    cases back : (lead base).dropWhile inPath with
    | nil => exact absurd back asked
    | cons stop others =>
      rw [back] at first stopped
      cases first
      simp only [List.head?_cons, inPath, Bool.and_eq_false_iff, bne_eq_false_iff_eq] at stopped
      exact stopped
  refine ⟨readBare? ((lead base).takeWhile inPath), fun rest written solid => ?_⟩
  have whole : tidy (base ++ rest) =
      (lead base).takeWhile inPath ++ ((lead base).dropWhile inPath ++ rest) := by
    rw [tidy_append base written solid, ← List.append_assoc, List.takeWhile_append_dropWhile]
  exact ⟨_, read_split whole before (ends rest)⟩

end SearchIndex.Url
