import Ipam.Json
import Ipam.Operation
import Ipam.Timestamp

/-!
# Resources

A resource is a cluster object in which users list the bindings they want.  Its status lists the
bindings that the controller gave out.

* `Resource` — metadata, requests and an optional status.
* `Resource.ref` — the name by which operations and outcomes refer to a resource.
* `Resource.records` — the recorded bindings, none before the first status write.
-/

namespace Ipam

/-- The metadata of a cluster object. -/
structure Metadata where
  /-- The name. -/
  name : Option String := none
  /-- The start of a name that the cluster completes. -/
  generateName : Option String := none
  /-- The namespace. -/
  ns : Option String := none
  /-- The other members, as they are written back. -/
  others : List (String × Json) := []

/-- What the controller writes about a resource. -/
structure Status where
  /-- The bindings that have an address, in the order in which they were added. -/
  records : List Record := []
  /-- The time of the last write. -/
  lastUpdated : Option Timestamp := none
deriving DecidableEq

/-- A cluster object that asks for bindings. -/
structure Resource where
  /-- Its metadata. -/
  metadata : Metadata
  /-- The bindings that it asks for. -/
  requests : List Request
  /-- Its status, once one was written. -/
  status : Option Status

namespace Resource

/-- The reference to a resource.  An object without a name goes by the start of its name. -/
def ref (r : Resource) : ResourceRef :=
  ⟨(r.metadata.name <|> r.metadata.generateName).getD "", r.metadata.ns.getD ""⟩

/-- The recorded bindings. -/
def records (r : Resource) : List Record :=
  match r.status with
  | none => []
  | some status => status.records

end Resource

end Ipam
