import SearchIndex.Http.Url
import SearchIndex.Value.Reader
import SearchIndex.Hosted.Meilisearch

/-! A text written as a path segment is read back from it. Reading turns each percent sign with two
digits into a byte and takes the bytes as UTF-8. A written segment holds nothing that ends it and
nothing that a URL rewrites, but the texts `.` and `..` are written as themselves. -/
namespace SearchIndex.Url

/-- The bytes that a percent-encoded text stands for. A percent sign without two digits stands for
itself. -/
def percentBytes : List Char → List UInt8
  | [] => []
  | '%' :: high :: low :: rest =>
    match Reader.hexValue? high, Reader.hexValue? low with
    | some upper, some lower => UInt8.ofNat (upper * 16 + lower) :: percentBytes rest
    | _, _ => String.utf8EncodeChar '%' ++ percentBytes (high :: low :: rest)
  | c :: rest => String.utf8EncodeChar c ++ percentBytes rest

/-- The text that a percent-encoded one stands for, if its bytes are UTF-8. -/
def percentDecode? (text : List Char) : Option String :=
  String.fromUTF8? (percentBytes text).toByteArray

/-- The characters that a path segment is written with. -/
def isSegmentChar (c : Char) : Bool := c.isAlphanum || ['-', '_', '.', '~', '%'].contains c

/-! ## Reading back -/

private theorem char_lt (c : Char) : c.val.toNat < 0x110000 := by
  have valid := c.valid
  simp only [UInt32.isValidChar, Nat.isValidChar] at valid
  omega

/-- The bytes of a character are its encoding. -/
theorem utf8_bytes_eq (c : Char) : (utf8Bytes c).map UInt8.ofNat = String.utf8EncodeChar c := by
  have bound := char_lt c
  simp only [utf8Bytes, Char.toNat, String.utf8EncodeChar]
  generalize c.val.toNat = n at bound ⊢
  by_cases one : n < 0x80
  · rw [if_pos one, if_pos (by omega)]
    rfl
  by_cases two : n < 0x800
  · rw [if_neg one, if_pos two, if_neg (by omega), if_pos (by omega),
      show n / 64 % 32 = n / 64 by omega, Nat.add_comm (n / 64), Nat.add_comm (n % 64)]
    rfl
  by_cases three : n < 0x10000
  · rw [if_neg one, if_neg two, if_pos three, if_neg (by omega), if_neg (by omega),
      if_pos (by omega), show n / 4096 % 16 = n / 4096 by omega, Nat.add_comm (n / 4096),
      Nat.add_comm (n / 64 % 64), Nat.add_comm (n % 64)]
    rfl
  · rw [if_neg one, if_neg two, if_neg three, if_neg (by omega), if_neg (by omega),
      if_neg (by omega), show n / 262144 % 8 = n / 262144 by omega, Nat.add_comm (n / 262144),
      Nat.add_comm (n / 4096 % 64), Nat.add_comm (n / 64 % 64), Nat.add_comm (n % 64)]
    rfl

theorem utf8_byte_lt {c : Char} {byte : Nat} (inside : byte ∈ utf8Bytes c) : byte < 256 := by
  have bound : c.toNat < 0x110000 := char_lt c
  simp only [utf8Bytes] at inside
  repeat' split at inside
  all_goals
    simp only [List.mem_cons, List.not_mem_nil, or_false] at inside
    omega

theorem hex_digit_value : ∀ {n : Nat}, n < 16 → Reader.hexValue? (hexDigit n) = some n := by
  decide

theorem hex_digit_alphanum : ∀ {n : Nat}, n < 16 → (hexDigit n).isAlphanum = true := by
  decide

theorem percent_bytes_byte {byte : Nat} (small : byte < 256) (rest : List Char) :
    percentBytes ('%' :: hexDigit (byte / 16) :: hexDigit (byte % 16) :: rest) =
      UInt8.ofNat byte :: percentBytes rest := by
  rw [percentBytes, hex_digit_value (by omega : byte / 16 < 16),
    hex_digit_value (by omega : byte % 16 < 16)]
  simp only [Nat.div_add_mod']

theorem percent_bytes_plain {c : Char} (plain : c ≠ '%') (rest : List Char) :
    percentBytes (c :: rest) = String.utf8EncodeChar c ++ percentBytes rest := by
  rw [percentBytes]
  rintro high low left rfl
  contradiction

theorem percent_bytes_of_bytes {bytes : List Nat} (small : ∀ byte ∈ bytes, byte < 256)
    (rest : List Char) :
    percentBytes
        (bytes.flatMap (fun byte => ['%', hexDigit (byte / 16), hexDigit (byte % 16)]) ++ rest) =
      bytes.map UInt8.ofNat ++ percentBytes rest := by
  induction bytes with
  | nil => rfl
  | cons byte bytes ih =>
    obtain ⟨first, others⟩ := List.forall_mem_cons.mp small
    calc percentBytes (_ ++ rest)
      _ = UInt8.ofNat byte :: percentBytes (bytes.flatMap _ ++ rest) := percent_bytes_byte first _
      _ = (byte :: bytes).map UInt8.ofNat ++ percentBytes rest := by rw [ih others]; rfl

/-- A character inside a path segment. -/
def segmentForm (c : Char) : List Char :=
  if c.isAlphanum || c = '-' || c = '_' || c = '.' || c = '~' then [c] else percentChar c

theorem encode_segment_eq (text : String) : encodeSegment text = text.toList.flatMap segmentForm :=
  rfl

theorem percent_bytes_form (c : Char) (rest : List Char) :
    percentBytes (segmentForm c ++ rest) = String.utf8EncodeChar c ++ percentBytes rest := by
  unfold segmentForm
  split
  · rename_i kept
    refine percent_bytes_plain ?_ rest
    rintro rfl
    exact absurd kept (by decide)
  · rw [percentChar, percent_bytes_of_bytes fun _ => utf8_byte_lt, utf8_bytes_eq]

/-- A text is read back from the segment that it is written as. -/
@[simp] theorem percent_decode_encode (text : String) :
    percentDecode? (encodeSegment text) = some text := by
  have bytes : ∀ chars : List Char,
      percentBytes (chars.flatMap segmentForm) = chars.flatMap String.utf8EncodeChar := by
    intro chars
    induction chars with
    | nil => rfl
    | cons c chars ih => rw [List.flatMap_cons, percent_bytes_form, ih, List.flatMap_cons]
  have encoded : (percentBytes (encodeSegment text)).toByteArray = text.toByteArray := by
    rw [encode_segment_eq, bytes]
    exact String.utf8Encode_toList
  unfold percentDecode? String.fromUTF8?
  simp only [encoded, text.isValidUTF8, ↓reduceDIte]
  rfl

theorem encode_segment_injective {one other : String}
    (same : encodeSegment one = encodeSegment other) : one = other := by
  have read := percent_decode_encode one
  rw [same, percent_decode_encode] at read
  exact (Option.some.inj read).symm

/-! ## What a segment holds -/

theorem segment_char_of_form {c x : Char} (inside : x ∈ segmentForm c) :
    isSegmentChar x = true := by
  unfold segmentForm at inside
  split at inside
  · rename_i kept
    cases List.mem_singleton.mp inside
    simp only [Bool.or_eq_true, decide_eq_true_eq] at kept
    rcases kept with (((kept | rfl) | rfl) | rfl) | rfl
    · simp only [isSegmentChar, kept, Bool.true_or]
    all_goals decide
  · obtain ⟨byte, found, inside⟩ := List.mem_flatMap.mp inside
    have small := utf8_byte_lt found
    simp only [List.mem_cons, List.not_mem_nil, or_false] at inside
    rcases inside with rfl | rfl | rfl
    · decide
    · rw [isSegmentChar, hex_digit_alphanum (by omega), Bool.true_or]
    · rw [isSegmentChar, hex_digit_alphanum (by omega), Bool.true_or]

/-- A segment is written with letters, digits and five marks. -/
theorem segment_char_of_mem {text : String} {c : Char} (inside : c ∈ encodeSegment text) :
    isSegmentChar c = true := by
  obtain ⟨_, _, inside⟩ := List.mem_flatMap.mp inside
  exact segment_char_of_form inside

theorem segment_char_bounds {c : Char} (kept : isSegmentChar c = true) :
    32 < c.toNat ∧ c.toNat < 127 := by
  simp only [isSegmentChar, Bool.or_eq_true, List.contains_iff_mem, List.mem_cons,
    List.not_mem_nil, or_false] at kept
  rcases kept with kept | rfl | rfl | rfl | rfl | rfl
  · have ranges : (decide ('A'.val ≤ c.val ∧ c.val ≤ 'Z'.val) ||
        (decide ('a'.val ≤ c.val) && decide (c.val ≤ 'z'.val)) ||
        (decide ('0'.val ≤ c.val) && decide (c.val ≤ '9'.val))) = true := kept
    simp only [Bool.or_eq_true, Bool.and_eq_true, decide_eq_true_eq, UInt32.le_iff_toNat_le]
      at ranges
    have value : c.toNat = c.val.toNat := rfl
    have bounds : 'Z'.val.toNat = 90 ∧ 'z'.val.toNat = 122 ∧ '9'.val.toNat = 57 ∧
        'A'.val.toNat = 65 ∧ 'a'.val.toNat = 97 ∧ '0'.val.toNat = 48 := by decide
    omega
  all_goals decide

/-- Other characters do not occur in a segment. -/
theorem segment_char_ne {c other : Char} (kept : isSegmentChar c = true)
    (outside : isSegmentChar other = false) : c ≠ other := by
  rintro rfl
  rw [kept] at outside
  cases outside

/-- A URL does not rewrite the characters of a segment. -/
theorem path_char_of_segment {c : Char} (kept : isSegmentChar c = true) : pathChar c = [c] := by
  obtain ⟨low, high⟩ := segment_char_bounds kept
  refine if_neg ?_
  simp only [Bool.or_eq_true, decide_eq_true_eq, List.contains_iff_mem]
  rintro ((small | large) | marked)
  · omega
  · omega
  · have outside : (['"', '<', '>', '\x60', '^', '\x7b', '\x7d'].all
        fun mark => !isSegmentChar mark) = true := by decide
    have marked_out := List.all_eq_true.mp outside c marked
    exact absurd kept (by simpa using marked_out)

/-! ## Dots -/

theorem decode_single_dot {segment : List Char} (dot : isSingleDot segment = true) :
    percentDecode? segment = some "." := by
  simp only [isSingleDot, Bool.or_eq_true, beq_iff_eq] at dot
  rcases dot with (rfl | rfl) | rfl
  all_goals exact percent_decode_encode "."

theorem decode_double_dot {segment : List Char} (dots : isDoubleDot segment = true) :
    percentDecode? segment = some ".." := by
  simp only [isDoubleDot, List.any_eq_true, beq_iff_eq, List.mem_cons, List.not_mem_nil,
    or_false] at dots
  obtain ⟨first, one, second, two, rfl⟩ := dots
  rcases one with rfl | rfl | rfl <;> rcases two with rfl | rfl | rfl
  all_goals exact percent_decode_encode ".."

/-- Only one text is written as a segment that stays where it is. -/
theorem is_single_dot_encode {text : String} :
    isSingleDot (encodeSegment text) = true ↔ text = "." := by
  constructor
  · intro dot
    have read := decode_single_dot dot
    rw [percent_decode_encode] at read
    exact Option.some.inj read
  · rintro rfl
    rfl

/-- Only one text is written as a segment that goes up. -/
theorem is_double_dot_encode {text : String} :
    isDoubleDot (encodeSegment text) = true ↔ text = ".." := by
  constructor
  · intro dots
    have read := decode_double_dot dots
    rw [percent_decode_encode] at read
    exact Option.some.inj read
  · rintro rfl
    rfl

/-- Only the empty text is written as the empty segment. -/
theorem encode_segment_nil {text : String} : encodeSegment text = [] ↔ text = "" := by
  constructor
  · intro empty
    exact encode_segment_injective empty
  · rintro rfl
    rfl

end SearchIndex.Url

namespace SearchIndex.Meilisearch

theorem decode_encode_chars (chars : List Char) : decodeChars (encodeChars chars) = chars := by
  induction chars using encodeChars.induct with
  | case1 => rfl
  | case2 rest ih => rw [encodeChars, decodeChars, ih]
  | case3 rest ih => rw [encodeChars, decodeChars, ih]
  | case4 c rest minus slash ih =>
    rw [encodeChars, decodeChars, ih]
    · exact fun _ same _ => minus same
    · exact fun _ same _ => minus same
    · exact minus
    · exact slash

/-- An identifier is read back from the form that the service keeps. -/
@[simp] theorem decode_encode_id (id : String) : decodeId (encodeId id) = id := by
  rw [decodeId, encodeId, String.toList_ofList, decode_encode_chars, String.ofList_toList]

end SearchIndex.Meilisearch
