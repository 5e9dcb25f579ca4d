import SearchIndex.Proofs.CriteriaResolution
import SearchIndex.Proofs.ServiceAnswers
import SearchIndex.Proofs.StoreHistory

/-! Failures that blame the caller. Before a request they are faults of the options that a search is
given. After a request they come of documents: an answer to a fetch or a search that holds something
else in place of one fails with the error that the caller's own documents fail with. -/
namespace SearchIndex

/-! ## Failures that do not blame the caller -/

/-- If the result is a failure, it does not lie in what the caller wrote. -/
def SparesCaller (result : Except Error α) : Prop :=
  ∀ error, result = .error error → error.blamesCaller = false

theorem spares_ok (outcome : α) : SparesCaller (.ok outcome) := nofun

theorem spares_error (spares : error.blamesCaller = false) :
    SparesCaller (.error error : Except Error α) := by
  rintro _ ⟨⟩
  exact spares

theorem spares_bind {first : Except Error α} {second : α → Except Error β}
    (before : SparesCaller first) (after : ∀ middle, SparesCaller (second middle)) :
    SparesCaller (first >>= second) := by
  intro error failed
  rcases except_bind_error.mp failed with failed | ⟨middle, -, failed⟩
  · exact before error failed
  · exact after middle error failed

theorem not_blamed {result : Except Error α} (spares : SparesCaller result) :
    ¬ (result = .error error ∧ error.blamesCaller = true) := by
  rintro ⟨failed, blames⟩
  rw [spares error failed] at blames
  cases blames

/-- Behind a step that spares the caller, only the next one can blame the caller. -/
theorem blames_behind {first : Except Error α} {second : α → Except Error β}
    (spares : SparesCaller first) :
    (first >>= second) = .error error ∧ error.blamesCaller = true ↔
      ∃ middle, first = .ok middle ∧ second middle = .error error ∧ error.blamesCaller = true := by
  rw [except_bind_error]
  constructor
  · rintro ⟨failed | ⟨middle, done, failed⟩, blames⟩
    · exact absurd ⟨failed, blames⟩ (not_blamed spares)
    · exact ⟨middle, done, failed, blames⟩
  · rintro ⟨middle, done, failed, blames⟩
    exact ⟨.inr ⟨middle, done, failed⟩, blames⟩

theorem or_fault_spares (read : Option α) : SparesCaller (Answer.orFault read) := by
  cases read with
  | none => exact spares_error rfl
  | some answer => exact spares_ok answer

namespace Client

theorem success_text_spares (client : Client) (response : Response) :
    SparesCaller (client.successText response) := by
  unfold successText
  split
  · exact spares_ok _
  · exact spares_error rfl

theorem read_value_spares (text : String) : SparesCaller (readValue text) := by
  unfold readValue
  split
  · exact spares_ok _
  · exact spares_error rfl

theorem success_value_spares (client : Client) (response : Response) :
    SparesCaller (client.successValue response) :=
  spares_bind (client.success_text_spares response) read_value_spares

/-- A request whose outcome spares the caller does so. -/
theorem send_spares {client : Client} {outcome : Response → Except Error α}
    (spares : SparesCaller (outcome response)) :
    SparesCaller ((client.send method path values body outcome).run fun _ => .ok response) := by
  by_cases reaches : client.Reaches path
  · obtain ⟨request, asks⟩ := send_of_reaches reaches method values body outcome
    rw [asks]
    exact spares
  · obtain ⟨reason, fails⟩ := send_of_not_reaches reaches method values body outcome
    rw [fails]
    exact spares_error rfl

theorem remove_spares {client : Client} {response : Response} :
    SparesCaller ((client.remove path).run fun _ => .ok response) := by
  refine send_spares ?_
  split
  · exact spares_ok _
  · exact spares_bind (client.success_text_spares response) fun _ => spares_ok _

theorem exchange_spares {client : Client} {response : Response} :
    SparesCaller ((client.exchange method path value acknowledged).run fun _ => .ok response) :=
  send_spares (spares_bind (client.success_value_spares response) fun _ => spares_ok ())

end Client

/-- A line of the answer to an import tells of a failure of the service's. -/
theorem import_line_spares (line : List Char) :
    SparesCaller (Typesense.importLineOutcome line) := by
  refine spares_bind (or_fault_spares _) fun outcome => ?_
  match outcome with
  | (true, _) => exact spares_ok _
  | (false, _) => exact spares_error rfl

theorem import_spares (body : String) : SparesCaller (Typesense.importOutcome body) := by
  rw [Typesense.importOutcome]
  generalize body.toList.splitOn '\n' = lines
  induction lines with
  | nil => exact spares_ok _
  | cons line rest ih =>
    rw [Typesense.importLinesOutcome]
    split
    · exact spares_bind (import_line_spares line) fun _ => ih
    · exact ih

/-! ## Operations -/

/-- The operation asks for no document, whose answer at most tells of success. -/
def Operation.IsCommand : Operation → Prop
  | .submit _ | .delete _ | .swap _ | .clear => True
  | .get _ | .search .. => False

theorem map_map (g : β → γ) (f : α → β) (call : Call α) :
    (call.map f).map g = call.map fun outcome => g (f outcome) := by
  cases call with
  | done outcome => cases outcome <;> rfl
  | ask request outcome =>
    simp only [Call.map, Call.ask.injEq, true_and]
    funext response
    cases outcome response <;> rfl

/-- What is made of the outcome of an operation makes it fail no other way. -/
theorem run_map_error {call : Call α} {f : α → β} :
    (call.map f).run send = .error error ↔ call.run send = .error error := by
  rw [run_map, except_map_error]

namespace Service

/-- An operation that asks for no document never blames the caller. -/
theorem command_spares (service : Service) {operation : Operation}
    (command : operation.IsCommand) (response : Response) :
    SparesCaller ((operation.perform (.hosted service)).run fun _ => .ok response) := by
  have spares {call : Call Unit} (spares : SparesCaller (call.run fun _ => .ok response)) :
      SparesCaller ((call.map fun _ => Index.hosted service).run fun _ => .ok response) := by
    intro error failed
    exact spares error (run_map_error.mp failed)
  cases operation with
  | get | search => exact command.elim
  | submit documents =>
    simp only [Operation.perform, Index.submit]
    split
    · exact spares_ok _
    · refine spares ?_
      cases service with
      | algolia | meilisearch => exact Client.exchange_spares
      | typesense service =>
        refine Client.send_spares ?_
        exact spares_bind (service.client.success_text_spares response) import_spares
  | delete id =>
    refine spares ?_
    cases service <;> exact Client.remove_spares
  | swap target =>
    refine spares ?_
    cases service <;> exact Client.exchange_spares
  | clear =>
    refine spares ?_
    cases service with
    | algolia => exact Client.exchange_spares
    | meilisearch | typesense => exact Client.remove_spares

/-! ## Failures that blame the caller -/

/-- The operation is refused before anything is asked: the options of a search do not resolve, or
their filter does not compile. -/
inductive Refuses (service : Service) : Operation → Error → Prop where
  | options (fault : options.resolve = .error error) :
      Refuses service (.search query options) error
  | filters (resolved : LooseOptions.resolve options = .ok canonical)
      (fault : service.language.compile canonical.filters = .error error) :
      Refuses service (.search query options) error

/-- The value that answers the operation has something else in place of a document: what is fetched
is no record or a record that spells none, or the first hit of a search that spells none does so
with this error. -/
inductive MisspellsDocument (service : Service) : Operation → Value → Error → Prop where
  | value {id : String} (other : value.object? = none) :
      MisspellsDocument service (.get id) value
        (.document (.notObjectFrom service.language value))
  | record {id : String} (fault : service.decode fields = .error error) :
      MisspellsDocument service (.get id) (.object fields) error
  | hit (answers : service.readAnswer? value = some answer)
      (hits : answer.hits = before ++ hit :: behind)
      (spelled : ∀ hit ∈ before, ∃ document, service.decode hit = .ok document)
      (fault : service.decode hit = .error error) :
      MisspellsDocument service (.search query options) value error

/-- The response is a success, but has something else in place of a document. -/
def AnswersNoDocument (service : Service) (operation : Operation) (response : Response)
    (error : Error) : Prop :=
  response.isSuccess = true ∧ ∃ value, Client.readValue response.body = .ok value ∧
    service.MisspellsDocument operation value error

end Service

/-- Fields that spell no document lack an identifier, or have none that is text. -/
theorem of_fields_error {fields : Fields} (fault : Document.ofFields fields = .error error) :
    error = .missingField "id" ∨ ∃ found, error = .document (.idNotText found) := by
  unfold Document.ofFields at fault
  split at fault
  · cases fault
  · cases fault
    exact .inr ⟨_, rfl⟩
  · cases fault
    exact .inl rfl

namespace Service

theorem decode_error {service : Service} (fault : service.decode fields = .error error) :
    error = .missingField "id" ∨ ∃ found, error = .document (.idNotText found) := by
  cases service with
  | algolia | typesense => exact of_fields_error fault
  | meilisearch =>
    rcases except_bind_error.mp fault with fault | ⟨document, -, nothing⟩
    · exact of_fields_error fault
    · cases nothing

theorem decode_blames {service : Service} (fault : service.decode fields = .error error) :
    error.blamesCaller = true := by
  rcases decode_error fault with rfl | ⟨found, rfl⟩ <;> rfl

theorem misspelling_blames {service : Service}
    (misspells : service.MisspellsDocument operation value error) : error.blamesCaller = true := by
  cases misspells with
  | value => rfl
  | record fault => exact decode_blames fault
  | hit answers hits spelled fault => exact decode_blames fault

theorem fetched_error {service : Service} {value : Value} {id : String} :
    Answer.fetched service.language service.decode value = .error error ↔
      service.MisspellsDocument (.get id) value error := by
  constructor
  · intro fault
    cases value with
    | object fields => exact .record fault
    | null | bool | number | string | array =>
      cases fault
      exact .value rfl
  · intro misspells
    cases misspells with
    | value other =>
      cases value with
      | object fields => cases other
      | null | bool | number | string | array => rfl
    | record fault => exact fault

theorem read_result_error {service : Service} {value : Value} {canonical : Options} :
    service.readResult query canonical value = .error error ∧ error.blamesCaller = true ↔
      service.MisspellsDocument (.search query options) value error := by
  have parts : service.readResult query canonical value = .error error ∧
      error.blamesCaller = true ↔ ∃ answer, service.readAnswer? value = some answer ∧
        Answer.documents service.decode answer.hits = .error error ∧ error.blamesCaller = true := by
    -- An answer of another form is the service's fault, and only its hits are left to blame.
    rw [readResult, blames_behind (or_fault_spares _)]
    refine exists_congr fun answer => and_congr ?_ ?_
    · cases service.readAnswer? value <;> simp [Answer.orFault]
    · simp [Answer.result, except_bind_error, pure, Except.pure]
  rw [parts]
  constructor
  · rintro ⟨answer, answers, fault, blames⟩
    obtain ⟨before, hit, behind, hits, spelled, fault⟩ :=
      (each_error service.decode _ rfl fun _ _ => rfl).mp fault
    exact .hit answers hits spelled fault
  · intro misspells
    cases misspells with
    | hit answers hits spelled fault =>
      exact ⟨_, answers, (each_error service.decode _ rfl fun _ _ => rfl).mpr
        ⟨_, _, _, hits, spelled, fault⟩, decode_blames fault⟩

end Service

theorem resolve_page_blames {page : LoosePage} (fault : page.resolve = .error error) :
    error.blamesCaller = true := by
  cases page with
  | number page =>
    rw [LoosePage.resolve] at fault
    split at fault
    · cases fault
      rfl
    · cases fault
  | text written =>
    simp only [LoosePage.resolve] at fault
    split at fault
    · cases fault
    · split at fault
      · cases fault
      · cases fault
        rfl

theorem resolve_filters_blames {filters : Option Criteria}
    (fault : LooseOptions.resolveFilters filters = .error error) : error.blamesCaller = true := by
  cases filters with
  | none => cases fault
  | some input =>
    rcases except_bind_error.mp fault with fault | ⟨filter, -, nothing⟩
    · obtain ⟨fault, rfl⟩ := input.resolve_blames error fault
      rfl
    · cases nothing

theorem resolve_options_blames {options : LooseOptions} (fault : options.resolve = .error error) :
    error.blamesCaller = true := by
  rcases except_bind_error.mp fault with fault | ⟨filters, -, fault⟩
  · exact resolve_filters_blames fault
  · rcases except_bind_error.mp fault with fault | ⟨page, -, nothing⟩
    · cases given : options.page with
      | none =>
        rw [given] at fault
        cases fault
      | some page =>
        rw [given] at fault
        exact resolve_page_blames fault
    · cases nothing

namespace Service

theorem refusal_blames {service : Service} (refuses : service.Refuses operation error) :
    error.blamesCaller = true := by
  cases refuses with
  | options fault => exact resolve_options_blames fault
  | @filters _ canonical _ _ resolved fault =>
    cases given : canonical.filters with
    | none =>
      rw [given] at fault
      cases fault
    | some filter =>
      rw [given] at fault
      obtain ⟨fault, rfl⟩ := compile_blames service.language filter error fault
      rfl

/-- What is refused is asked of no service. -/
theorem perform_of_refuses {service : Service} (refuses : service.Refuses operation error) :
    operation.perform (.hosted service) = .done (.error error) := by
  cases refuses with
  | options fault =>
    rw [Operation.perform, Index.search, fault]
    rfl
  | filters resolved fault =>
    rw [Operation.perform, Index.search, resolved]
    simp only [Index.searchOptions, search_of_refused _ fault]
    rfl

/-- What an operation comes to: it is refused, it is done and spares the caller, or it asks and
blames the caller for what the answer has in place of a document. -/
inductive ComesTo (service : Service) (operation : Operation) : Call Index → Prop where
  | refused (refuses : service.Refuses operation error) :
      ComesTo service operation (.done (.error error))
  | spared (spares : SparesCaller outcome) : ComesTo service operation (.done outcome)
  | asked (reads : ∀ response error, outcome response = .error error ∧
        error.blamesCaller = true ↔ service.AnswersNoDocument operation response error) :
      ComesTo service operation (.ask request outcome)

theorem comes_to_of_command {service : Service} {operation : Operation}
    (command : operation.IsCommand) :
    service.ComesTo operation (operation.perform (.hosted service)) := by
  have spares := service.command_spares command
  cases performed : operation.perform (.hosted service) with
  | done outcome =>
    rw [performed] at spares
    exact .spared (spares ⟨200, ""⟩)
  | ask request outcome =>
    rw [performed] at spares
    refine .asked fun response error => iff_of_false (not_blamed (spares response)) ?_
    rintro ⟨-, value, -, misspells⟩
    cases misspells <;> exact command.elim

/-- A request comes to what its outcome blames the caller for, if it is sent. -/
theorem comes_to_of_send {service : Service} {operation : Operation}
    {outcome : Response → Except Error α} {f : α → Index}
    (reads : ∀ response error, outcome response = .error error ∧ error.blamesCaller = true ↔
      service.AnswersNoDocument operation response error) :
    service.ComesTo operation ((service.client.send method path values body outcome).map f) := by
  by_cases reaches : service.client.Reaches path
  · obtain ⟨request, asks⟩ := Client.send_of_reaches reaches method values body outcome
    rw [asks]
    refine .asked fun response error => ?_
    rw [except_map_error]
    exact reads response error
  · obtain ⟨reason, fails⟩ := Client.send_of_not_reaches reaches method values body outcome
    rw [fails]
    exact .spared (spares_error rfl)

/-- The value of a successful response is to blame where what is made of it is. -/
theorem value_blamed {service : Service} {response : Response} {read : Value → Except Error α}
    (reads : ∀ value, read value = .error error ∧ error.blamesCaller = true ↔
      service.MisspellsDocument operation value error) :
    (service.client.successValue response >>= read) = .error error ∧ error.blamesCaller = true ↔
      service.AnswersNoDocument operation response error := by
  rw [blames_behind (service.client.success_value_spares response)]
  simp only [Client.success_value_ok, and_assoc, exists_and_left]
  exact and_congr_right fun _ => exists_congr fun value => and_congr_right fun _ => reads value

theorem comes_to (service : Service) (operation : Operation) :
    service.ComesTo operation (operation.perform (.hosted service)) := by
  cases operation with
  | submit | delete | swap | clear => exact comes_to_of_command trivial
  | get id =>
    rw [Operation.perform, Index.get, get_eq]
    refine comes_to_of_send fun response error => ?_
    -- That there is no such document is an outcome of a fetch and no failure.
    by_cases absent : response.isNotFound = true
    · have failure : response.isSuccess = false := by
        rw [Response.isSuccess, eq_of_beq absent]
        rfl
      rw [if_pos absent, AnswersNoDocument, failure]
      refine iff_of_false (not_blamed (spares_ok none)) ?_
      rintro ⟨⟨⟩, -⟩
    · rw [if_neg absent]
      refine value_blamed fun value => ?_
      simp only [except_bind_error, pure, Except.pure, reduceCtorEq, and_false, exists_false,
        or_false]
      rw [fetched_error]
      exact and_iff_left_of_imp misspelling_blames
  | search query options =>
    cases resolved : options.resolve with
    | error error =>
      rw [perform_of_refuses (.options resolved)]
      exact .refused (.options resolved)
    | ok canonical =>
      cases compiles : service.language.compile canonical.filters with
      | error error =>
        rw [perform_of_refuses (.filters resolved compiles)]
        exact .refused (.filters resolved compiles)
      | ok compiled =>
        rw [Operation.perform, Index.search, resolved]
        dsimp only [Index.searchOptions]
        -- A filter that no document passes is answered without a request.
        by_cases nothing : compiled = .nothing
        · rw [search_of_nothing query (nothing ▸ compiles)]
          exact .spared (spares_ok _)
        · obtain ⟨method, values, body, asks⟩ := search_of_compiled query compiles nothing
          rw [asks, map_map]
          exact comes_to_of_send fun response error => value_blamed fun value => read_result_error

/-! ## Main statement -/

/-- An operation on a hosted index fails with an error that blames the caller exactly if it is
refused, and then nothing has been asked, or else if it has asked and the successful answer has
something else in place of a document, which only an answer to a fetch or a search can have. -/
theorem caller_faults (service : Service) (operation : Operation) (response : Response)
    (error : Error) :
    ((operation.perform (.hosted service)).run (fun _ => .ok response) = .error error ∧
        error.blamesCaller = true ↔
      service.Refuses operation error ∨
        (operation.perform (.hosted service)).request?.isSome ∧
          service.AnswersNoDocument operation response error) ∧
    (service.Refuses operation error →
      (operation.perform (.hosted service)).request? = none) := by
  refine ⟨?_, fun refuses => by rw [perform_of_refuses refuses]; rfl⟩
  have refusal (refuses : service.Refuses operation error) := perform_of_refuses refuses
  have comes := service.comes_to operation
  generalize operation.perform (.hosted service) = call at comes refusal
  cases comes with
  | refused refuses =>
    constructor
    · rintro ⟨⟨⟩, -⟩
      exact .inl refuses
    · rintro (again | ⟨asks, -⟩)
      · exact ⟨Call.done.inj (refusal again), refusal_blames again⟩
      · cases asks
  | spared spares =>
    refine ⟨fun blamed => absurd blamed (not_blamed spares), ?_⟩
    rintro (refuses | ⟨asks, -⟩)
    · exact ⟨Call.done.inj (refusal refuses), refusal_blames refuses⟩
    · cases asks
  | asked reads =>
    refine (reads response error).trans ⟨fun misspells => .inr ⟨rfl, misspells⟩, ?_⟩
    rintro (refuses | ⟨-, misspells⟩)
    · cases refusal refuses
    · exact misspells

end Service

/-- A shop's documents at a node of one's own. -/
private def shop : Service :=
  .typesense ⟨⟨.typesense, "http://localhost:8108".toList, []⟩, "products", 10, "title"⟩

/-- An answer with a record that has no identifier. -/
private def namelessHat : Response := ⟨200, "\x7b\"title\":\"Hat\"\x7d"⟩

/-- A fetch of a document is sent, and an answer without an identifier blames the caller. -/
theorem caller_blamed_after_request :
    ((Operation.get "a").perform (.hosted shop)).request?.isSome ∧
      ((Operation.get "a").perform (.hosted shop)).run (fun _ => .ok namelessHat) =
        .error (.missingField "id") ∧
      (Error.missingField "id").blamesCaller = true := by
  have reaches : shop.client.Reaches (shop.documentPath "a") := ⟨by decide +kernel, rfl⟩
  have reads : Client.readValue namelessHat.body = .ok (.object [("title", .string "Hat")]) :=
    Client.read_value_ok.mpr (by decide +kernel)
  have answered : shop.client.successValue namelessHat = _ :=
    Client.success_value_ok.mpr ⟨rfl, reads⟩
  rw [Operation.perform, Index.get, Service.get_eq, Client.fetch]
  obtain ⟨request, asks⟩ := Client.send_of_reaches reaches .get [] .empty _
  rw [asks]
  refine ⟨rfl, ?_, rfl⟩
  simp only [Call.map, Call.run, bind, Except.bind, answered]
  rfl

end SearchIndex
