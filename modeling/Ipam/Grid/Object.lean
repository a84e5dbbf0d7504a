import Ipam.Json.Decode
import Ipam.Json.Parser
import Ipam.Table

/-!
# Objects of an Infoblox grid

The controller sees five kinds of objects in a grid, each with a reference by which it can be
deleted, and the body of an error answer.

* `NetworkView`, `NetworkObject`, `AttributeDefinition`, `FixedAddress`, `HostRecord`.
* `Attributes` — the extensible attributes of an object.
* `ErrorBody` — what the grid says about a request that it refuses.
-/

namespace Ipam.Grid

open Json (Members)

/-! ## Objects -/

/-- Extensible attributes: texts by the name of the attribute. -/
abbrev Attributes := Table String

/-- One attribute. -/
def Attributes.single (name value : String) : Attributes :=
  Table.empty.insert name value

/-- A named set of networks. -/
structure NetworkView where
  reference : String
  name : String
  isDefault : Bool
deriving DecidableEq

/-- A network of a view. -/
structure NetworkObject where
  reference : String
  /-- The network as it is written in the grid. -/
  network : String
  /-- The name of its view. -/
  view : String
deriving DecidableEq

/-- The definition of an extensible attribute. -/
structure AttributeDefinition where
  reference : Option String
  name : String
  /-- The type of its values, such as `STRING`. -/
  kind : String
  comment : Option String
deriving DecidableEq

/-- The reservation of an address in a view. -/
structure FixedAddress where
  reference : String
  /-- The address as it is written in the grid. -/
  address : String
  /-- The name that it is reserved for. -/
  name : String
  /-- The name of the view. -/
  view : String
deriving DecidableEq

/-- An `A` record of the DNS. -/
structure HostRecord where
  reference : String
  name : String
  /-- The address as it is written in the grid. -/
  address : String
  /-- The name of its DNS view. -/
  view : String
deriving DecidableEq

/-- The body of an error answer. -/
structure ErrorBody where
  error : String
  code : String
  text : String
deriving DecidableEq

/-! ## Reading -/

/-- Reads one attribute value. -/
def Attributes.valueOfJson? (j : Json) : Option String := do
  (← j.asRecord? ["value"] 1).required? "value" Json.asString?

/-- Reads attributes. -/
def Attributes.ofJson? : Json → Option Attributes :=
  Json.asTable? valueOfJson?

/-- Reads a network view. -/
def NetworkView.ofJson? (j : Json) : Option NetworkView := do
  let ms ← j.asRecord? ["_ref", "name", "is_default"] 2
  return {
    reference := ← ms.required? "_ref" Json.asString?
    name := ← ms.required? "name" Json.asString?
    isDefault := ← ms.orElse? "is_default" false Json.asBool? }

/-- Reads a network. -/
def NetworkObject.ofJson? (j : Json) : Option NetworkObject := do
  let ms ← j.asRecord? ["_ref", "network", "network_view"] 3
  return {
    reference := ← ms.required? "_ref" Json.asString?
    network := ← ms.required? "network" Json.asString?
    view := ← ms.required? "network_view" Json.asString? }

/-- Reads the definition of an attribute. -/
def AttributeDefinition.ofJson? (j : Json) : Option AttributeDefinition := do
  let ms ← j.asRecord? ["_ref", "name", "type", "comment"] 3
  return {
    reference := ← ms.optional? "_ref" Json.asString?
    name := ← ms.required? "name" Json.asString?
    kind := ← ms.required? "type" Json.asString?
    comment := ← ms.optional? "comment" Json.asString? }

/-- Reads a fixed address. -/
def FixedAddress.ofJson? (j : Json) : Option FixedAddress := do
  let ms ← j.asRecord? ["_ref", "ipv4addr", "name", "network_view"] 4
  return {
    reference := ← ms.required? "_ref" Json.asString?
    address := ← ms.required? "ipv4addr" Json.asString?
    name := ← ms.orElse? "name" "" Json.asString?
    view := ← ms.required? "network_view" Json.asString? }

/-- Reads an `A` record. -/
def HostRecord.ofJson? (j : Json) : Option HostRecord := do
  let ms ← j.asRecord? ["_ref", "name", "ipv4addr", "view"] 3
  return {
    reference := ← ms.required? "_ref" Json.asString?
    name := ← ms.required? "name" Json.asString?
    address := ← ms.required? "ipv4addr" Json.asString?
    view := ← ms.orElse? "view" "" Json.asString? }

/-- Reads the body of an error answer. -/
def ErrorBody.ofJson? (j : Json) : Option ErrorBody := do
  let ms ← j.asRecord? ["Error", "code", "text"] 0
  return {
    error := ← ms.orElse? "Error" "" Json.asString?
    code := ← ms.orElse? "code" "" Json.asString?
    text := ← ms.orElse? "text" "" Json.asString? }

/-! ## Writing -/

/-- Writes attributes. -/
def Attributes.toJson (as : Attributes) : Json :=
  .obj (as.entries.map fun entry => (entry.1, .obj [("value", .str entry.2)]))

/-- Writes a network view. -/
def NetworkView.toJson (v : NetworkView) : Json :=
  .obj [("_ref", .str v.reference), ("name", .str v.name), ("is_default", .bool v.isDefault)]

/-- Writes a network. -/
def NetworkObject.toJson (n : NetworkObject) : Json :=
  .obj [("_ref", .str n.reference), ("network", .str n.network), ("network_view", .str n.view)]

/-- Writes the definition of an attribute. -/
def AttributeDefinition.toJson (d : AttributeDefinition) : Json :=
  .obj <|
    Json.member? "_ref" (d.reference.map Json.str)
      ++ [("name", .str d.name), ("type", .str d.kind)]
      ++ Json.member? "comment" (d.comment.map Json.str)

/-- Writes a fixed address. -/
def FixedAddress.toJson (a : FixedAddress) : Json :=
  .obj [("_ref", .str a.reference), ("ipv4addr", .str a.address), ("name", .str a.name),
    ("network_view", .str a.view)]

/-- Writes an `A` record. -/
def HostRecord.toJson (r : HostRecord) : Json :=
  .obj [("_ref", .str r.reference), ("name", .str r.name), ("ipv4addr", .str r.address),
    ("view", .str r.view)]

end Ipam.Grid
