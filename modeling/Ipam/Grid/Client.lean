import Ipam.Grid.Error
import Ipam.Grid.Object
import Ipam.Grid.Url

/-!
# Clients of a grid

A client offers the calls that allocation needs, over a state `σ` that the calls read and change: an
in-memory grid, or the conversation with a server.

* `GridM σ` — calls that may fail; what they did to the state before they failed remains done.
* `Client σ` — the calls.
-/

namespace Ipam.Grid

/-- A call to a grid with state `σ`. -/
abbrev GridM (σ : Type) := ExceptT GridError (StateM σ)

/-- The calls that a grid offers. -/
structure Client (σ : Type) where
  /-- Where the grid is served. -/
  baseUrl : String
  /-- A network view by name. -/
  networkView? (name : String) : GridM σ (Option NetworkView)
  /-- A network of a view, by its text. -/
  network? (view cidr : String) : GridM σ (Option NetworkObject)
  /-- The definition of an extensible attribute, by name. -/
  attribute? (name : String) : GridM σ (Option AttributeDefinition)
  /-- Defines an extensible attribute; answers its reference. -/
  createAttribute (definition : AttributeDefinition) : GridM σ String
  /-- Reserves the next free address of a network. -/
  allocateNext (view cidr name : String) (attributes : Attributes) : GridM σ FixedAddress
  /-- Reserves one particular address. -/
  createFixed (view address name : String) (attributes : Attributes) : GridM σ FixedAddress
  /-- The fixed addresses that pass some filters. -/
  fixedAddresses (filters : List Filter) : GridM σ (List FixedAddress)
  /-- Publishes an address under a host name. -/
  createHostRecord (name address : String) (attributes : Attributes) : GridM σ HostRecord
  /-- The host records that pass some filters. -/
  hostRecords (filters : List Filter) : GridM σ (List HostRecord)
  /-- Deletes an object by its reference. -/
  delete (reference : String) : GridM σ Unit

end Ipam.Grid
