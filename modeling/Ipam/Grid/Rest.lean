import Ipam.Grid.Client
import Ipam.Grid.StatusCode
import Ipam.Json.Parser
import Ipam.Text.Base64

/-!
# A grid behind its web interface

The calls of a grid as requests to its web interface.

* `Request`, `Answer` — what travels.
* `Link` — a server as a client sees it: the answers that it is going to give, and what it was sent.
* `Rest.exchange` — sends one request.
* `Rest.client` — the calls of a grid behind a link.

Every call sends at most one request.  A request that gets no answer, and an answer that is not of
the expected form, are failures of the connection.
-/

namespace Ipam.Grid

/-! ## What travels -/

/-- A request. -/
structure Request where
  method : Method
  url : String
  /-- The credentials. -/
  authorization : String
  /-- What is sent along, as JSON. -/
  body : Option Json

/-- An answer. -/
structure Answer where
  status : Nat
  body : String
deriving DecidableEq

/-- A server as a client sees it. -/
structure Link where
  /-- Whether requests arrive at all. -/
  reachable : Bool := true
  /-- Whether the certificate of the server is valid. -/
  trusted : Bool := true
  /-- The answers to the next requests; none stands for a connection that is closed without one, and
  so does the end of the list. -/
  answers : List (Option Answer) := []
  /-- The requests that arrived, oldest first. -/
  received : List Request := []

namespace Rest

/-! ## One request -/

/-- The credentials of an endpoint as they are sent. -/
def authorization (e : Endpoint) : String :=
  let text := e.username ++ ":" ++ e.password
  "Basic " ++ String.ofList (Text.encodeBase64 text.toUTF8.toList)

/-- The base URL of an endpoint, without slashes at its end. -/
def baseUrl (e : Endpoint) : String :=
  trimSlashes e.baseUrl

/-- Sends one request and waits for its answer. -/
def send (request : Request) : GridM Link Answer := fun link =>
  let after := { link with
    answers := link.answers.tail
    received := link.received ++ [request] }
  match link.answers.head? with
  | some (some answer) => (.ok answer, after)
  | _ => (.error .unreachable, after)

/-- What a refused request is refused with: the code and the text of the error body, or the body
itself. -/
def refusalDetail (body : String) : String :=
  match Json.parse? body >>= ErrorBody.ofJson? with
  | some error => error.code ++ " " ++ error.text
  | none => body

/-- The failure of an answer that does not say that the request was carried out. -/
def refusal? (method : Method) (path : String) (answer : Answer) : Option GridError :=
  if isSuccess answer.status then none
  else
    some <| .refused method path answer.status (reasonPhrase answer.status)
      (refusalDetail answer.body)

/-- Sends one request for an object path. -/
def exchange (e : Endpoint) (method : Method) (path : String) (body : Option Json) :
    GridM Link Answer := do
  let link ← getThe Link
  if !link.reachable || (e.verifyTls && !link.trusted) then
    throw .unreachable
  let answer ← send ⟨method, joinUrl (baseUrl e) path, authorization e, body⟩
  match refusal? method path answer with
  | some error => throw error
  | none => return answer

/-- The value of an answer, read by `item`. -/
def decode {α : Type} (item : Json → Option α) (answer : Answer) : GridM Link α :=
  match Json.parse? answer.body >>= item with
  | some value => pure value
  | none => throw .unreadable

/-- Fetches the objects of a kind that pass some filters. -/
def query {α : Type} (e : Endpoint) (item : Json → Option α) (object : String)
    (filters : List Filter) : GridM Link (List α) := do
  decode (Json.asList? item) (← exchange e .get (withQuery object filters) none)

/-- Posts a value to a path. -/
def post {α : Type} (e : Endpoint) (item : Json → Option α) (path : String) (body : Json) :
    GridM Link α := do
  decode item (← exchange e .post path (some body))

/-! ## Calls -/

/-- The fields of a fixed address that are asked for. -/
def fixedFields : Filter :=
  ("_return_fields", "ipv4addr,name,network_view")

/-- The fields of a host record that are asked for. -/
def recordFields : Filter :=
  ("_return_fields", "name,ipv4addr,view")

/-- Reserves an address, which may be given by a function of the grid.  Reservations are for a name,
not for a network card, so the hardware address is zero. -/
def postFixed (e : Endpoint) (view address name : String) (attributes : Attributes) :
    GridM Link FixedAddress :=
  if name = "" then throw .unnamed
  else
    post e FixedAddress.ofJson? (withQuery "fixedaddress" [fixedFields]) <| .obj
      [("network_view", .str view), ("ipv4addr", .str address), ("name", .str name),
        ("mac", .str "00:00:00:00:00:00"), ("extattrs", attributes.toJson)]

/-- The calls of a grid behind its web interface. -/
def client (e : Endpoint) : Client Link where
  baseUrl := baseUrl e
  networkView? name := do
    let found ← query e NetworkView.ofJson? "networkview"
      [("name", name), ("_return_fields", "name,is_default")]
    return found.head?
  network? view cidr := do
    let found ← query e NetworkObject.ofJson? "network"
      [("network_view", view), ("network", cidr), ("_return_fields", "network,network_view")]
    return found.head?
  attribute? name := do
    let found ← query e AttributeDefinition.ofJson? "extensibleattributedef"
      [("name", name), ("_return_fields", "name,type,comment")]
    return found.head?
  createAttribute definition :=
    post e Json.asString? "extensibleattributedef" definition.toJson
  allocateNext view cidr name attributes :=
    postFixed e view s!"func:nextavailableip:{cidr},{view}" name attributes
  createFixed view address name attributes := postFixed e view address name attributes
  fixedAddresses filters := query e FixedAddress.ofJson? "fixedaddress" (filters ++ [fixedFields])
  createHostRecord name address attributes :=
    post e HostRecord.ofJson? (withQuery "record:a" [recordFields]) <| .obj
      [("name", .str name), ("ipv4addr", .str address), ("extattrs", attributes.toJson)]
  hostRecords filters := query e HostRecord.ofJson? "record:a" (filters ++ [recordFields])
  delete reference := do
    let _ ← exchange e .delete reference none

end Rest

end Ipam.Grid
