/-!
# Errors of a grid

* `GridError` — why a call to a grid fails.
* `GridError.category` — how the failure is classed, which for a refused request depends on the
  status.
* `GridError.message?` — the wording; failures of the connection have none of their own.
-/

namespace Ipam.Grid

/-- A request method. -/
inductive Method where
  | get
  | post
  | delete
deriving DecidableEq

instance : ToString Method where
  toString
    | .get => "GET"
    | .post => "POST"
    | .delete => "DELETE"

/-- The classes of failures. -/
inductive Category where
  /-- The request was not answered, or the answer is unreadable. -/
  | transport
  /-- The grid reports an error. -/
  | api
  /-- The grid does not accept the credentials. -/
  | authentication
  /-- An object is missing. -/
  | notFound
  /-- The request makes no sense to the grid. -/
  | invalidRequest
deriving DecidableEq

/-- Why a call to a grid fails. -/
inductive GridError where
  /-- The request got no answer. -/
  | unreachable
  /-- The answer is not of the expected form. -/
  | unreadable
  /-- The grid answered with an error status; `reason` is its phrase. -/
  | refused (method : Method) (path : String) (status : Nat) (reason detail : String)
  /-- The grid is out of order. -/
  | outage (message : String)
  /-- The view has no such network. -/
  | unknownNetwork (cidr view : String)
  /-- The network has no host addresses, or is no network at all. -/
  | unusableNetwork (cidr : String)
  /-- Every host address of the network is taken. -/
  | exhausted (cidr : String)
  /-- The text is not an address. -/
  | badAddress (text : String)
  /-- The address is no host address of a network of the view. -/
  | uncovered (address view : String)
  /-- The address is taken in the view. -/
  | taken (address : String)
  /-- No object has the reference. -/
  | unknownObject (reference : String)
  /-- A fixed address was requested without a name. -/
  | unnamed
deriving DecidableEq

namespace GridError

/-- The class of a refused request. -/
def categoryOfStatus (status : Nat) : Category :=
  if status = 401 ∨ status = 403 then .authentication
  else if status = 404 then .notFound
  else if status = 400 then .invalidRequest
  else .api

/-- The class of a failure. -/
def category : GridError → Category
  | .unreachable | .unreadable => .transport
  | .refused _ _ status _ _ => categoryOfStatus status
  | .outage _ | .exhausted _ | .taken _ => .api
  | .unknownNetwork .. | .unknownObject _ => .notFound
  | .unusableNetwork _ | .badAddress _ | .uncovered .. | .unnamed => .invalidRequest

/-- What failed. -/
def detail : GridError → String
  | .unreachable => "no answer"
  | .unreadable => "unreadable answer"
  | .refused method path status reason detail =>
    match categoryOfStatus status with
    | .notFound => s!"{path} - {detail}"
    | .invalidRequest => s!"{method} {path} failed: {detail}"
    | _ => s!"{method} {path} failed: {status} {reason} - {detail}"
  | .outage message => message
  | .unknownNetwork cidr view => s!"network {cidr} in view {view}"
  | .unusableNetwork cidr => s!"invalid network {cidr}"
  | .exhausted cidr => s!"No available IP addresses in {cidr}"
  | .badAddress text => s!"invalid address {text}"
  | .uncovered address view => s!"address {address} is not in any network of view {view}"
  | .taken address => s!"fixed address {address} already exists"
  | .unknownObject reference => reference
  | .unnamed => "fixed address requires a name"

/-- The wording of a failure. -/
def message? (e : GridError) : Option String :=
  match e.category with
  | .transport => none
  | .api => some ("Infoblox API error: " ++ e.detail)
  | .authentication => some ("Authentication failed: " ++ e.detail)
  | .notFound => some ("Not found: " ++ e.detail)
  | .invalidRequest => some ("Invalid request: " ++ e.detail)

end GridError

end Ipam.Grid
