import Ipam.Resource
import Ipam.Resource.Shape
import Ipam.Json.Parser

/-!
# Resources as JSON

Resources are exchanged with the cluster as JSON.  Readers answer `none` for a value of another
type; writers leave out what is absent.
-/

namespace Ipam

open Json (Members)

/-- The group of the resources. -/
def Resource.group : String :=
  "dcops.microscaler.io"

/-- The version under which the cluster serves resources. -/
def Resource.apiVersion : String :=
  Resource.group ++ "/v1"

/-- The kind of the cluster objects. -/
def Resource.kind : String :=
  "IPAM"

/-! ## Requests and records -/

/-- The members of a binding. -/
def Request.ofMembers? (ms : Members) : Option Request := do
  return {
    host := ← ms.optional? "host" Json.asString?
    key := ← ms.optional? "key" Json.asString?
    cidr := ← ms.optional? "cidr" Json.asString?
    label := ← ms.optional? "ipamLabel" Json.asString? }

/-- Reads a request. -/
def Request.ofJson? (j : Json) : Option Request := do
  Request.ofMembers? (← j.asRecord? ["host", "key", "cidr", "ipamLabel"] 0)

/-- The members of a binding that are present. -/
def Request.members (r : Request) : List (String × Json) :=
  Json.member? "host" (r.host.map Json.str) ++ Json.member? "key" (r.key.map Json.str)
    ++ Json.member? "cidr" (r.cidr.map Json.str)
    ++ Json.member? "ipamLabel" (r.label.map Json.str)

/-- Writes a request. -/
def Request.toJson (r : Request) : Json :=
  .obj r.members

/-- Reads a record. -/
def Record.ofJson? (j : Json) : Option Record := do
  let ms ← j.asRecord? ["host", "key", "cidr", "ipamLabel", "ip"] 0
  return { ← Request.ofMembers? ms with ip := ← ms.orElse? "ip" "" Json.asString? }

/-- Writes a record. -/
def Record.toJson (r : Record) : Json :=
  .obj (r.members ++ [("ip", .str r.ip)])

/-! ## Requests and status of a resource -/

/-- Reads a timestamp. -/
def Timestamp.ofJson? (j : Json) : Option Timestamp :=
  j.asString? >>= Timestamp.parse?

/-- Reads the list of requests of a resource. -/
def Request.listOfJson? (j : Json) : Option (List Request) := do
  let ms ← j.asRecord? ["hostSpecs"] 0
  ms.orElse? "hostSpecs" [] (Json.asList? Request.ofJson?)

/-- Writes the list of requests of a resource. -/
def Request.listToJson (requests : List Request) : Json :=
  .obj [("hostSpecs", .array (requests.map Request.toJson))]

/-- Reads a status. -/
def Status.ofJson? (j : Json) : Option Status := do
  let ms ← j.asRecord? ["ipStatus", "lastUpdated"] 0
  return {
    records := ← ms.orElse? "ipStatus" [] (Json.asList? Record.ofJson?)
    lastUpdated := ← ms.optional? "lastUpdated" Timestamp.ofJson? }

/-- Writes a status. -/
def Status.toJson (s : Status) : Json :=
  .obj <|
    ("ipStatus", .array (s.records.map Record.toJson)) ::
      Json.member? "lastUpdated" (s.lastUpdated.map fun t => .str t.render)

/-! ## Metadata and resources -/

/-- Reads metadata.  They lie within the resource, so two of the levels that a reader enters are
used up at their members. -/
def Metadata.ofJson? (j : Json) : Option Metadata := do
  let members ← j.asMembers?
  return {
    name := ← Shape.readLast? Json.asString? members "name"
    generateName := ← Shape.readLast? Json.asString? members "generateName"
    ns := ← Shape.readLast? Json.asString? members "namespace"
    others := ← Shape.normaliseMembers? (Json.maxDepth - 2) [] Shape.metadataMembers members }

/-- Writes metadata. -/
def Metadata.toJson (m : Metadata) : Json :=
  .obj <|
    Json.member? "name" (m.name.map Json.str)
      ++ Json.member? "generateName" (m.generateName.map Json.str)
      ++ Json.member? "namespace" (m.ns.map Json.str) ++ m.others

namespace Resource

/-- Reads a resource. -/
def ofJson? (j : Json) : Option Resource := do
  let ms ← j.asRecord? ["metadata", "spec", "status"] 3
  return {
    metadata := ← ms.required? "metadata" Metadata.ofJson?
    requests := ← ms.required? "spec" Request.listOfJson?
    status := ← ms.optional? "status" Status.ofJson? }

/-- Writes a resource. -/
def toJson (r : Resource) : Json :=
  .obj <|
    [("apiVersion", .str apiVersion), ("kind", .str kind), ("metadata", r.metadata.toJson),
      ("spec", Request.listToJson r.requests)]
      ++ Json.member? "status" (r.status.map Status.toJson)

end Resource

end Ipam
