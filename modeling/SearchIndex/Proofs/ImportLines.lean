import SearchIndex.Proofs.CriteriaReading
import SearchIndex.Proofs.NumberText
import SearchIndex.Proofs.SegmentEncoding
import SearchIndex.Proofs.ServiceAnswers

/-! Imports of documents at Typesense, line by line. The compact text of a value has no control
character, whatever its strings hold, so a document takes one line of the request. Of the answer the
first line that tells of no success is the error; that there are as many lines as documents is not
looked at. -/
namespace SearchIndex

/-! ## Texts without control characters -/

/-- The text has no control character, and with that no line break. -/
def IsOneLine (text : List Char) : Prop := ∀ c ∈ text, 32 ≤ c.toNat

theorem one_line_cons {text : List Char} :
    IsOneLine (c :: text) ↔ 32 ≤ c.toNat ∧ IsOneLine text := List.forall_mem_cons

theorem one_line_singleton : IsOneLine [c] ↔ 32 ≤ c.toNat := List.forall_mem_singleton

theorem one_line_append {front rest : List Char} :
    IsOneLine (front ++ rest) ↔ IsOneLine front ∧ IsOneLine rest := List.forall_mem_append

theorem hex_digit_printable : ∀ {n : Nat}, n < 16 → 32 ≤ (hexDigit n).toNat := by decide

/-- A control character is written with others. -/
theorem quoted_char_one_line (c : Char) : IsOneLine (quotedChar c) := by
  unfold quotedChar
  split_ifs with _ _ _ _ _ _ _ control
  any_goals solve | simp [IsOneLine]
  · have digits : IsOneLine [hexDigit (c.toNat / 16), hexDigit (c.toNat % 16)] :=
      one_line_cons.mpr ⟨hex_digit_printable (by omega),
        one_line_singleton.mpr (hex_digit_printable (by omega))⟩
    have mark : IsOneLine ['\\', 'u', '0', '0'] := by simp [IsOneLine]
    exact one_line_append.mpr ⟨mark, digits⟩
  · exact one_line_singleton.mpr (not_lt.mp control)

theorem quoted_chars_one_line (text : List Char) : IsOneLine (quotedChars text) := by
  have within : IsOneLine (text.flatMap quotedChar) := by
    intro x inside
    obtain ⟨c, -, inside⟩ := List.mem_flatMap.mp inside
    exact quoted_char_one_line c x inside
  have closing : IsOneLine ['"'] := by simp [IsOneLine]
  exact one_line_cons.mpr ⟨by decide, one_line_append.mpr ⟨within, closing⟩⟩

namespace Value

theorem items_chars_one_line {items : List Value} (each : ∀ item ∈ items, IsOneLine item.chars) :
    IsOneLine (itemsChars items) := by
  have closing : IsOneLine [']'] := by simp [IsOneLine]
  induction items with
  | nil => exact closing
  | cons item rest ih =>
    obtain ⟨first, others⟩ := List.forall_mem_cons.mp each
    cases rest with
    | nil => exact one_line_append.mpr ⟨first, closing⟩
    | cons next rest =>
      exact one_line_append.mpr ⟨first, one_line_cons.mpr ⟨by decide, ih others⟩⟩

theorem entries_chars_one_line {entries : List (String × Value)}
    (each : ∀ entry ∈ entries, IsOneLine entry.2.chars) : IsOneLine (entriesChars entries) := by
  have closing : IsOneLine ['\x7d'] := by simp [IsOneLine]
  induction entries with
  | nil => exact closing
  | cons entry rest ih =>
    obtain ⟨key, value⟩ := entry
    obtain ⟨first, others⟩ := List.forall_mem_cons.mp each
    have named := quoted_chars_one_line key.toList
    cases rest with
    | nil =>
      have closed : IsOneLine (value.chars ++ ['\x7d']) := one_line_append.mpr ⟨first, closing⟩
      exact one_line_append.mpr ⟨named, one_line_cons.mpr ⟨by decide, closed⟩⟩
    | cons next rest =>
      have parted : IsOneLine (value.chars ++ ',' :: entriesChars (next :: rest)) :=
        one_line_append.mpr ⟨first, one_line_cons.mpr ⟨by decide, ih others⟩⟩
      exact one_line_append.mpr ⟨named, one_line_cons.mpr ⟨by decide, parted⟩⟩

/-- The compact text of a value is one line, at any depth of lists and records. -/
theorem chars_one_line (value : Value) : IsOneLine value.chars := by
  induction value using Value.by_parts with
  | null => simp [IsOneLine, Value.chars]
  | bool value => cases value <;> simp [IsOneLine, Value.chars]
  | number n => exact number_chars_all n (by decide)
  | string text => exact quoted_chars_one_line text.toList
  | array items ih => exact one_line_cons.mpr ⟨by decide, items_chars_one_line ih⟩
  | object entries ih => exact one_line_cons.mpr ⟨by decide, entries_chars_one_line ih⟩

end Value

namespace Typesense

/-! ## Lines of a request -/

/-- The lines of an import are the texts of the documents, behind which nothing is left. -/
theorem split_import_lines {breaks : Char → Bool} (feed : breaks '\n' = true)
    (control : ∀ c, breaks c = true → c.toNat < 32) (documents : List Document) :
    (importLines documents).splitOnP breaks =
      documents.map (fun document => document.toValue.chars) ++ [[]] := by
  induction documents with
  | nil => rfl
  | cons document rest ih =>
    have whole : ∀ c ∈ document.toValue.chars, breaks c = false := by
      intro c inside
      refine Bool.eq_false_iff.mpr fun stops => ?_
      exact absurd (control c stops) (not_lt.mpr (document.toValue.chars_one_line c inside))
    have parted : importLines (document :: rest) =
        document.toValue.chars ++ '\n' :: importLines rest := by
      rw [importLines, List.flatMap_cons, List.append_assoc]
      rfl
    rw [parted, List.splitOnP_append_cons_of_forall_mem whole _ feed, ih]
    rfl

namespace Service

/-- The path that documents are written to. -/
def writePath (service : Service) : List Char :=
  service.collectionPath ++ "/import?action=upsert".toList

theorem submit_request (service : Service) (documents : List Document)
    (reaches : service.client.Reaches service.writePath) :
    ∃ request, (service.submit documents).request? = some request ∧
      request.body = .text (String.ofList (importLines documents)) :=
  Client.request_of_reaches reaches ..

/-- The body of an import has one line for each document, which is not empty and is the compact text
of the document, and ends with the break behind the last line. This is so at line feeds, and as well
where other control characters count as line breaks. -/
theorem import_has_line_per_document {service : Service} (documents : List Document)
    (reaches : service.client.Reaches service.writePath) :
    ∃ request body, (service.submit documents).request? = some request ∧
      request.body = .text body ∧
      (∀ breaks : Char → Bool, breaks '\n' = true → (∀ c, breaks c = true → c.toNat < 32) →
        body.toList.splitOnP breaks =
          documents.map (fun document => document.toValue.chars) ++ [[]]) ∧
      ∀ document ∈ documents, document.toValue.chars ≠ [] := by
  obtain ⟨request, sent, carries⟩ := service.submit_request documents reaches
  refine ⟨request, _, sent, carries, fun breaks feed control => ?_, fun document _ => ?_⟩
  · rw [String.toList_ofList]
    exact split_import_lines feed control documents
  · exact List.cons_ne_nil _ _

end Service

private def hatCollection : Service :=
  ⟨⟨.typesense, "http://localhost:8108".toList, []⟩, "hats", 5, "title"⟩

private theorem hats_reached : hatCollection.client.Reaches hatCollection.writePath :=
  ⟨by decide +kernel, rfl⟩

/-- Two hats with line breaks in their fields. -/
private def twoHats : List Document :=
  [.ofId "a" [("note", .string "one\n\r\"two\"\\")], .ofId "b" [("new\nline", .array [.null])]]

theorem two_hats_take_two_lines :
    hatCollection.client.Reaches hatCollection.writePath ∧
    ∃ request body, (hatCollection.submit twoHats).request? = some request ∧
      request.body = .text body ∧ body.toList.splitOn '\n' =
        ["\x7b\"note\":\"one\\n\\r\\\"two\\\"\\\\\",\"id\":\"a\"\x7d".toList,
          "\x7b\"new\\nline\":[null],\"id\":\"b\"\x7d".toList, []] := by
  obtain ⟨request, body, sent, carries, lines, -⟩ :=
    Service.import_has_line_per_document twoHats hats_reached
  have feeds : ∀ c, (c == '\n') = true → c.toNat < 32 := by
    intro c feed
    rw [eq_of_beq feed]
    decide
  exact ⟨hats_reached, request, body, sent, carries, lines (· == '\n') rfl feeds⟩

/-! ## Lines of an answer -/

/-- The lines of an answer that are not blank. -/
def answerLines (body : String) : List (List Char) :=
  (body.toList.splitOn '\n').filter fun line => !line.all isBlank

/-- What stands in a line for the reason of a refusal: a text, null or nothing. -/
inductive GivesReason : Option Value → Option String → Prop where
  | absent : GivesReason none none
  | null : GivesReason (some .null) none
  | text : GivesReason (some (.string reason)) (some reason)

/-- The line tells whether a document was taken, and for what reason it was not: it spells a record
with these two fields among others, or a list of them, of which the second may be left out. -/
inductive Tells (line : List Char) : Bool → Option String → Prop where
  | record
      (spelled : Record.ofText? ["success", "error"] (String.ofList line) = some (.object entries))
      (success : Fields.get? entries "success" = some (.bool taken))
      (error : GivesReason (Fields.get? entries "error") reason) : Tells line taken reason
  | short (spelled : Record.ofText? ["success", "error"] (String.ofList line) =
        some (.array [.bool taken])) : Tells line taken none
  | long (spelled : Record.ofText? ["success", "error"] (String.ofList line) =
        some (.array [.bool taken, last])) (error : GivesReason (some last) reason) :
      Tells line taken reason

/-- The line tells that a document was taken. -/
def TellsSuccess (line : List Char) : Prop := ∃ reason, Tells line true reason

/-- What is wrong with a line: it tells of no document, or that one was not taken. -/
inductive IsFault (line : List Char) : Error → Prop where
  | malformed (silent : ∀ taken reason, ¬ Tells line taken reason) :
      IsFault line (.decoding "the answer does not have the expected form")
  | unsuccessful (told : Tells line false reason) :
      IsFault line (.rejected .typesense (reason.getD "import failed"))

theorem gives_reason_iff {found : Option Value} :
    Record.optional Value.string? found = some reason ↔ GivesReason found reason := by
  constructor
  · intro read
    cases found with
    | none =>
      cases read
      exact .absent
    | some value =>
      cases value with
      | null =>
        cases read
        exact .null
      | string text =>
        cases read
        exact .text
      | bool | number | array | object => cases read
  · rintro (_ | _ | _) <;> rfl

theorem success_iff {found : Option Value} :
    Record.required Value.bool? found = some taken ↔ found = some (.bool taken) := by
  constructor
  · intro read
    cases found with
    | none => cases read
    | some value =>
      cases value with
      | bool told =>
        cases read
        rfl
      | null | number | string | array | object => cases read
  · rintro rfl
    rfl

/-- The two fields are all that is read of a line. -/
theorem read_import_line_parts {line : List Char} :
    readImportLine? (String.ofList line) = some (taken, reason) ↔ ∃ value success error,
      Record.ofText? ["success", "error"] (String.ofList line) = some value ∧
      Record.fields? ["success", "error"] value = some [success, error] ∧
      success = some (.bool taken) ∧ GivesReason error reason := by
  simp only [← success_iff, ← gives_reason_iff]
  constructor
  · intro read
    obtain ⟨value, spelled, read⟩ := Option.bind_eq_some_iff.mp read
    obtain ⟨fields, parts, read⟩ := Option.bind_eq_some_iff.mp read
    split at read
    · rename_i success error
      obtain ⟨told, done, read⟩ := Option.bind_eq_some_iff.mp read
      obtain ⟨given, reads, read⟩ := Option.bind_eq_some_iff.mp read
      cases read
      exact ⟨value, success, error, spelled, parts, done, reads⟩
    · cases read
  · rintro ⟨value, success, error, spelled, parts, done, reads⟩
    simp only [readImportLine?, Option.bind_eq_bind, spelled, parts, done, reads, Option.bind_some]
    rfl

theorem read_import_line_iff {line : List Char} :
    readImportLine? (String.ofList line) = some (taken, reason) ↔ Tells line taken reason := by
  rw [read_import_line_parts]
  constructor
  · rintro ⟨value, success, error, spelled, fields, rfl, given⟩
    cases value with
    | object entries =>
      obtain ⟨found, others⟩ := List.cons.inj (Option.some.inj fields)
      obtain ⟨last, -⟩ := List.cons.inj others
      exact .record spelled found (last ▸ given)
    | array items =>
      match items with
      | [] => cases fields
      | [first] =>
        cases fields
        cases given
        exact .short spelled
      | [first, last] =>
        cases fields
        exact .long spelled given
      | _ :: _ :: _ :: _ => cases fields
    | null | bool | number | string => cases fields
  · intro tells
    cases tells with
    | record spelled success error => exact ⟨_, _, _, spelled, rfl, success, error⟩
    | short spelled => exact ⟨_, _, _, spelled, rfl, rfl, .absent⟩
    | long spelled error => exact ⟨_, _, _, spelled, rfl, rfl, error⟩

theorem import_line_ok {line : List Char} :
    (∃ done, importLineOutcome line = .ok done) ↔ TellsSuccess line := by
  simp only [TellsSuccess, ← read_import_line_iff, importLineOutcome]
  cases told : readImportLine? (String.ofList line) with
  | none => exact iff_of_false nofun nofun
  | some found =>
    match found with
    | (true, reason) => exact iff_of_true ⟨(), rfl⟩ ⟨reason, rfl⟩
    | (false, reason) => exact iff_of_false nofun nofun

theorem import_line_error {line : List Char} :
    importLineOutcome line = .error error ↔ IsFault line error := by
  constructor
  · intro failed
    rw [importLineOutcome] at failed
    cases told : readImportLine? (String.ofList line) with
    | none =>
      rw [told] at failed
      cases failed
      refine .malformed fun taken reason tells => ?_
      cases told.symm.trans (read_import_line_iff.mpr tells)
    | some found =>
      rw [told] at failed
      match found with
      | (true, reason) => cases failed
      | (false, reason) =>
        cases failed
        exact .unsuccessful (read_import_line_iff.mp told)
  · intro fault
    rw [importLineOutcome]
    cases fault with
    | malformed silent =>
      have unread : readImportLine? (String.ofList line) = none :=
        Option.eq_none_iff_forall_ne_some.mpr fun found told =>
          silent _ _ (read_import_line_iff.mp told)
      rw [unread]
      rfl
    | unsuccessful told =>
      rw [read_import_line_iff.mpr told]
      rfl

/-- Of the lines that are not blank one is looked at after another. -/
theorem import_lines_eq (lines : List (List Char)) : importLinesOutcome lines =
    ((lines.filter fun line => !line.all isBlank).mapM importLineOutcome).map fun _ => () := by
  induction lines with
  | nil => rfl
  | cons line rest ih =>
    rw [importLinesOutcome, ih, List.filter_cons]
    cases line.all isBlank with
    | true => rfl
    | false =>
      simp only [Bool.not_false, if_true, List.mapM_cons]
      cases importLineOutcome line with
      | error error => rfl
      | ok done => cases List.mapM importLineOutcome _ <;> rfl

theorem import_ok {body : String} :
    importOutcome body = .ok () ↔ ∀ line ∈ answerLines body, TellsSuccess line := by
  rw [importOutcome, import_lines_eq, except_map_ok]
  simp only [each_ok importLineOutcome (List.mapM importLineOutcome) rfl fun _ _ => List.mapM_cons,
    and_true, exists_forall₂_iff, import_line_ok]
  rfl

/-- The first line that is at fault decides. -/
theorem import_error {body : String} :
    importOutcome body = .error error ↔ ∃ before line behind,
      answerLines body = before ++ line :: behind ∧
        (∀ other ∈ before, TellsSuccess other) ∧ IsFault line error := by
  rw [importOutcome, import_lines_eq, except_map_error,
    each_error importLineOutcome (List.mapM importLineOutcome) rfl fun _ _ => List.mapM_cons]
  simp only [import_line_ok, import_line_error]
  rfl

/-! ## Main statement on answers -/

/-- The answer has a line for every document, and each line tells of success. -/
structure AcknowledgesAll (documents : List Document) (body : String) : Prop where
  successful : ∀ line ∈ answerLines body, TellsSuccess line
  enough : documents.length ≤ (answerLines body).length

/-- Each line of the answer tells of success, but there are fewer lines than documents. -/
structure FallsShort (documents : List Document) (body : String) : Prop where
  successful : ∀ line ∈ answerLines body, TellsSuccess line
  fewer : (answerLines body).length < documents.length

theorem acknowledges_or_falls_short {documents : List Document} :
    AcknowledgesAll documents body ∨ FallsShort documents body ↔
      ∀ line ∈ answerLines body, TellsSuccess line := by
  constructor
  · rintro (all | short)
    · exact all.successful
    · exact short.successful
  · intro successful
    rcases le_or_gt documents.length (answerLines body).length with enough | fewer
    · exact .inl ⟨successful, enough⟩
    · exact .inr ⟨successful, fewer⟩

namespace Service

/-- What a successful response to an import comes to is told by its text. -/
theorem submit_run {service : Service} {documents : List Document} {response : Response}
    (reaches : service.client.Reaches service.writePath) (success : response.isSuccess = true) :
    (service.submit documents).run (fun _ => .ok response) = importOutcome response.body := by
  obtain ⟨request, asks⟩ := Client.send_of_reaches reaches .post []
    (.text (String.ofList (importLines documents))) fun response =>
      service.client.successText response >>= importOutcome
  have submitted : service.submit documents = .ask request _ := asks
  have read : service.client.successText response = .ok response.body := if_pos success
  calc (service.submit documents).run (fun _ => .ok response)
    _ = (service.client.successText response >>= importOutcome) := by rw [submitted]; rfl
    _ = importOutcome response.body := by rw [read]; rfl

/-- Documents are written without an error when the answer has a line for each of them and all lines
tell of success, and otherwise only when all lines there are tell of success but are too few. An
error is that of the first line at fault. -/
theorem submit_follows_answer {service : Service} {response : Response} (documents : List Document)
    (reaches : service.client.Reaches service.writePath) (success : response.isSuccess = true) :
    ((service.submit documents).run (fun _ => .ok response) = .ok () ↔
      AcknowledgesAll documents response.body ∨ FallsShort documents response.body) ∧
    ∀ error, (service.submit documents).run (fun _ => .ok response) = .error error ↔
      ∃ before line behind, answerLines response.body = before ++ line :: behind ∧
        (∀ other ∈ before, TellsSuccess other) ∧ IsFault line error := by
  rw [submit_run reaches success, acknowledges_or_falls_short]
  exact ⟨import_ok, fun _ => import_error⟩

end Service

private theorem success_told : TellsSuccess "\x7b\"success\":true\x7d".toList :=
  ⟨none, read_import_line_iff.mp (by cbv)⟩

/-- The answer to an import of which the second document was refused. -/
private def secondRefused : Response := ⟨200,
  "\x7b\"success\":true\x7d\n \n\x7b\"success\":false,\"error\":\"too large\"\x7d\nlater"⟩

theorem second_hat_refused :
    hatCollection.client.Reaches hatCollection.writePath ∧ secondRefused.isSuccess = true ∧
      (hatCollection.submit twoHats).run (fun _ => .ok secondRefused) =
        .error (.rejected .typesense "too large") := by
  have lines : answerLines secondRefused.body = ["\x7b\"success\":true\x7d".toList] ++
      "\x7b\"success\":false,\"error\":\"too large\"\x7d".toList :: ["later".toList] := by cbv
  have refused : Tells "\x7b\"success\":false,\"error\":\"too large\"\x7d".toList false
      (some "too large") := read_import_line_iff.mp (by cbv)
  have success : secondRefused.isSuccess = true := rfl
  obtain ⟨-, fails⟩ := Service.submit_follows_answer twoHats hats_reached success
  refine ⟨hats_reached, success, (fails _).mpr ⟨_, _, _, lines, ?_, .unsuccessful refused⟩⟩
  exact List.forall_mem_singleton.mpr success_told

/-- The answer to an import of which only the first document is told of. -/
private def secondMissing : Response := ⟨200, "\x7b\"success\":true\x7d"⟩

/-- A document of which the answer tells nothing is taken for written. -/
theorem missing_line_overlooked :
    secondMissing.isSuccess = true ∧
      (hatCollection.submit twoHats).run (fun _ => .ok secondMissing) = .ok () ∧
      ¬ AcknowledgesAll twoHats secondMissing.body := by
  have lines : answerLines secondMissing.body = ["\x7b\"success\":true\x7d".toList] := by cbv
  refine ⟨rfl, ?_, fun all => ?_⟩
  · rw [Service.submit_run hats_reached rfl, import_ok, lines]
    exact List.forall_mem_singleton.mpr success_told
  · have enough := all.enough
    rw [lines] at enough
    exact absurd enough (by decide)

end Typesense

end SearchIndex
