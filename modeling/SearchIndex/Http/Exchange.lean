import SearchIndex.Error

/-! Exchanges with a service: one request and what its answer means. An operation either is done
without a request or asks for one exchange; how a request travels is left to whoever runs it. -/
namespace SearchIndex

/-- What a request does to a resource. -/
inductive Method where
  | get
  | post
  | put
  | delete
deriving DecidableEq, Repr

namespace Method

/-- The word on the wire. -/
def name : Method → String
  | .get => "GET"
  | .post => "POST"
  | .put => "PUT"
  | .delete => "DELETE"

end Method

/-- What a request carries. -/
inductive Body where
  | empty
  | json (value : Value)
  | text (text : String)

/-- A request: the origin is the scheme, the host and the port that it goes to, and the target is
the path and the query as they are sent. -/
structure Request where
  method : Method
  origin : String
  target : String
  headers : List (String × String)
  body : Body

/-- The answer to a request. -/
structure Response where
  status : Nat
  body : String

namespace Response

/-- Whether the request was successful. -/
def isSuccess (response : Response) : Bool := 200 ≤ response.status && response.status < 300

/-- Whether there is no such resource. -/
def isNotFound (response : Response) : Bool := response.status == 404

end Response

/-- An operation on a service: its outcome, or the request it sends and the outcome that an answer
leads to. -/
inductive Call (α : Type) where
  | done (outcome : Except Error α)
  | ask (request : Request) (outcome : Response → Except Error α)

namespace Call

/-- The request that an operation sends. -/
def request? : Call α → Option Request
  | .done _ => none
  | .ask request _ => some request

/-- The operation with its outcome passed through a function. -/
def map (f : α → β) : Call α → Call β
  | .done outcome => .done (outcome.map f)
  | .ask request outcome => .ask request fun response => (outcome response).map f

/-- The outcome when requests are answered by `send`, which may fail to bring an answer. -/
def run (send : Request → Except Error Response) : Call α → Except Error α
  | .done outcome => outcome
  | .ask request outcome => do outcome (← send request)

end Call

end SearchIndex
