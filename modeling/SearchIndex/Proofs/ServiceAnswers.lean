import SearchIndex.Proofs.ConstantFilters
import SearchIndex.Proofs.DocumentRequests

/-! What hosted services have in common. Each of them asks with one request, whose answer it reads
in its own form, and turns the hits of an answer into documents in its own way. -/
namespace SearchIndex

namespace Client

/-- Requests for a path leave the client: there is an address, and the headers can be carried. -/
def Reaches (client : Client) (path : List Char) : Prop :=
  (Url.read? (client.base ++ path)).isSome ∧ client.CarriesHeaders

section
variable {client : Client} {path : List Char}

theorem send_of_reaches (reaches : client.Reaches path) (method : Method)
    (values : List (String × String)) (body : Body) (outcome : Response → Except Error α) :
    ∃ request, client.send method path values body outcome = .ask request outcome := by
  obtain ⟨url, read⟩ := Option.isSome_iff_exists.mp reaches.1
  have carried : client.headers.all (fun header => headerAllows header.2) = true := reaches.2
  simp only [send, read, carried, if_true]
  exact ⟨_, rfl⟩

theorem send_of_not_reaches (stuck : ¬ client.Reaches path) (method : Method)
    (values : List (String × String)) (body : Body) (outcome : Response → Except Error α) :
    ∃ reason, client.send method path values body outcome = .done (.error (.transport reason)) := by
  cases read : Url.read? (client.base ++ path) with
  | none => exact ⟨_, by rw [send, read]⟩
  | some url =>
    have refused : ¬ client.headers.all (fun header => headerAllows header.2) = true :=
      fun carried => stuck ⟨by rw [read]; rfl, carried⟩
    simp only [send, read, if_neg refused]
    exact ⟨_, rfl⟩

/-- A request that is sent carries its body. -/
theorem request_of_reaches (reaches : client.Reaches path) (method : Method)
    (values : List (String × String)) (body : Body) (outcome : Response → Except Error α) :
    ∃ request, (client.send method path values body outcome).request? = some request ∧
      request.body = body := by
  obtain ⟨request, asks⟩ := send_of_reaches reaches method values body outcome
  refine ⟨request, by rw [asks, Call.request?], ?_⟩
  unfold send at asks
  split at asks
  · cases asks
  · split at asks
    · cases asks
      rfl
    · cases asks

theorem read_value_ok :
    readValue text = .ok value ↔ Value.read? nestingLimit text = some value := by
  unfold readValue
  split <;> simp_all

theorem success_value_ok {response : Response} :
    client.successValue response = .ok value ↔
      response.isSuccess = true ∧ readValue response.body = .ok value := by
  rw [successValue, successText]
  split
  · rename_i success
    exact (and_iff_right success).symm
  · rename_i failure
    exact iff_of_false nofun fun done => failure done.1

end

end Client

namespace Service

/-- The document that a stored record or a hit holds. -/
def decode : Service → Fields → Except Error Document
  | .algolia _ => Algolia.decode
  | .meilisearch _ => Meilisearch.decode
  | .typesense _ => Document.ofFields

/-- The answer to a search. -/
def readAnswer? : Service → Value → Option Answer
  | .algolia _ => Algolia.readAnswer?
  | .meilisearch _ => Meilisearch.readAnswer?
  | .typesense _ => Typesense.readAnswer?

/-- How many documents a page holds. -/
def pageSize : Service → Nat
  | .algolia service => service.pageSize
  | .meilisearch service => service.pageSize
  | .typesense service => service.pageSize

/-- The path that searches ask. -/
def searchPath : Service → List Char
  | .algolia _ => "/1/indexes/*/queries".toList
  | .meilisearch service => service.indexPath ++ "/search".toList
  | .typesense service => service.collectionPath ++ "/search".toList

/-- The result that a successful answer to a search amounts to. -/
def readResult (service : Service) (query : String) (options : Options) (value : Value) :
    Except Error Result := do
  (← Answer.orFault (service.readAnswer? value)).result service.decode service.pageSize query
    (service.answered options)

/-- A filter that compiles, and not to nothing, is searched for with one request. -/
theorem search_of_compiled {service : Service} (query : String)
    (compiles : service.language.compile options.filters = .ok compiled)
    (something : compiled ≠ .nothing) :
    ∃ method values body, service.search query options =
      service.client.send method service.searchPath values body fun response =>
        service.client.successValue response >>= service.readResult query options := by
  cases service with
  | algolia service =>
    have compiles : Backend.algolia.compile options.filters = .ok compiled := compiles
    rw [search, Algolia.Service.search, compiles]
    cases compiled with
    | nothing => exact absurd rfl something
    | everything | expression => exact ⟨_, _, _, rfl⟩
  | meilisearch service =>
    have compiles : Backend.meilisearch.compile options.filters = .ok compiled := compiles
    rw [search, Meilisearch.Service.search, compiles]
    cases compiled with
    | nothing => exact absurd rfl something
    | everything | expression => exact ⟨_, _, _, rfl⟩
  | typesense service =>
    have compiles : Backend.typesense.compile options.filters = .ok compiled := compiles
    rw [search, Typesense.Service.search, compiles]
    cases compiled with
    | nothing => exact absurd rfl something
    | everything | expression => exact ⟨_, _, _, rfl⟩

/-- A filter that does not compile is the fault of the search. -/
theorem search_of_refused {service : Service} (query : String)
    (refused : service.language.compile options.filters = .error error) :
    service.search query options = .done (.error error) := by
  cases service with
  | algolia service =>
    have refused : Backend.algolia.compile options.filters = .error error := refused
    rw [search, Algolia.Service.search, refused]
  | meilisearch service =>
    have refused : Backend.meilisearch.compile options.filters = .error error := refused
    rw [search, Meilisearch.Service.search, refused]
  | typesense service =>
    have refused : Backend.typesense.compile options.filters = .error error := refused
    rw [search, Typesense.Service.search, refused]

theorem get_eq (service : Service) (id : String) :
    service.get id = service.client.fetch (service.documentPath id)
      (Answer.fetched service.language service.decode) := by
  cases service <;> rfl

end Service

end SearchIndex
