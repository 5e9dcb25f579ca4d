import SearchIndex.Http.Exchange
import SearchIndex.Http.Url
import SearchIndex.Value.Reader

/-! A client of one service: it puts the service's address and headers on each request and reads
its answers. An answer whose status is no success is an error that carries its text, except that a
resource which is not there reads as absent and counts as deleted. -/
namespace SearchIndex

/-- A client of a service. -/
structure Client where
  backend : Backend
  base : List Char
  headers : List (String × String)

namespace Client

/-- Whether a header can carry a text: it has no control character but the tab. -/
def headerAllows (text : String) : Bool :=
  text.toList.all fun c => c = '\t' || (32 ≤ c.toNat && c.toNat != 127)

/-- The header that tells the form of a body. -/
def bodyHeader : Body → List (String × String)
  | .empty => []
  | .json _ => [("content-type", "application/json")]
  | .text _ => [("content-type", "text/plain")]

/-- The operation that sends a request for a path, with named values in its query. Nothing is sent
to an address that is no URL or with a header that cannot be carried. -/
def send (client : Client) (method : Method) (path : List Char) (values : List (String × String))
    (body : Body) (outcome : Response → Except Error α) : Call α :=
  match Url.read? (client.base ++ path) with
  | none => .done (.error (.transport "the address is not an absolute URL"))
  | some url =>
    if client.headers.all fun header => headerAllows header.2 then
      let request := {
        method
        origin := String.ofList url.origin
        target := String.ofList (url.withValues values).target
        headers := client.headers ++ bodyHeader body
        body }
      .ask request outcome
    else .done (.error (.transport "a header value has a control character"))

/-- The text of a successful answer. -/
def successText (client : Client) (response : Response) : Except Error String :=
  if response.isSuccess then .ok response.body
  else .error (.http client.backend response.status response.body)

/-- How deep the values in answers may nest. -/
def nestingLimit : Nat := 127

/-- The value that a text spells. -/
def readValue (text : String) : Except Error Value :=
  match Value.read? nestingLimit text with
  | some value => .ok value
  | none => .error (.decoding "the text is not a value")

/-- The value in a successful answer. -/
def successValue (client : Client) (response : Response) : Except Error Value := do
  readValue (← client.successText response)

/-- Fetches a resource that may be absent. -/
def fetch (client : Client) (path : List Char) (outcome : Value → Except Error α) :
    Call (Option α) :=
  client.send .get path [] .empty fun response =>
    if response.isNotFound then .ok none
    else do return some (← outcome (← client.successValue response))

/-- Fetches the answer to a query. -/
def query (client : Client) (path : List Char) (values : List (String × String))
    (outcome : Value → Except Error α) : Call α :=
  client.send .get path values .empty fun response => do
    outcome (← client.successValue response)

/-- Sends a value and reads a value. -/
def exchange (client : Client) (method : Method) (path : List Char) (value : Value)
    (outcome : Value → Except Error α) : Call α :=
  client.send method path [] (.json value) fun response => do
    outcome (← client.successValue response)

/-- Sends a text and reads a text. -/
def exchangeText (client : Client) (path : List Char) (text : String)
    (outcome : String → Except Error α) : Call α :=
  client.send .post path [] (.text text) fun response => do
    outcome (← client.successText response)

/-- Deletes a resource. -/
def remove (client : Client) (path : List Char) : Call Unit :=
  client.send .delete path [] .empty fun response =>
    if response.isNotFound then .ok ()
    else do
      let _ ← client.successText response
      return ()

end Client

end SearchIndex
