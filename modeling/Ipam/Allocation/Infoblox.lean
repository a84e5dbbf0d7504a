import Ipam.Allocation.Backend
import Ipam.Grid.Client
import Ipam.Net.Network

/-!
# The Infoblox backend

Bindings are kept as fixed addresses of a grid, and host names as host records.  A pool label stands
for a network of the grid.

* `Infoblox.LabelNetwork` — the network that a label stands for.
* `Infoblox.resolve` — the networks of a label map, before the grid is asked.
* `Infoblox.start` — makes sure that the grid knows the attribute of the controller, and every
  network.
* `Infoblox.backend` — the calls of the backend.
-/

namespace Ipam.Infoblox

open Backend (requireReference requirePool)
open Text (nonEmpty)
open Grid (Client GridM GridError Attributes)

/-- The network that a label stands for. -/
structure LabelNetwork where
  /-- The view of the network. -/
  view : String
  /-- The network as it is written in the grid. -/
  cidr : String
  /-- The addresses of the network. -/
  network : Network
deriving DecidableEq

/-- The attribute that marks the objects of the controller. -/
def attributeName : String :=
  "IPAM-CONTROLLER"

/-- The attributes of the objects that the controller creates. -/
def attributes : Attributes :=
  .single attributeName "managed"

/-! ## Setting up -/

/-- The network of one label. -/
def resolveLabel (defaultView label : String) (config : Grid.LabelConfig) :
    Except SetupError LabelNetwork :=
  match Network.parse? config.cidr with
  | none => .error (.labelNetwork label config.cidr)
  | some network => .ok ⟨(nonEmpty config.view).getD defaultView, config.cidr, network⟩

/-- The networks of a label map; the first label without a proper network is the error. -/
def resolve (labels defaultView : String) : Except SetupError (Table LabelNetwork) :=
  match Grid.parseLabels labels with
  | .error cause => .error (.labels cause)
  | .ok configs => do
    let networks ← configs.entries.mapM fun (label, config) =>
      return (label, ← resolveLabel defaultView label config)
    return .ofList networks

variable {σ : Type}

/-- A setup step over a grid with state `σ`. -/
abbrev SetupM (σ : Type) := ExceptT SetupError (StateM σ)

/-- A call to the grid as a setup step. -/
def ask {α : Type} (call : GridM σ α) : SetupM σ α := fun s =>
  match call.run s with
  | (.ok value, s) => (.ok value, s)
  | (.error cause, s) => (.error (.grid cause), s)

/-- Makes sure that the grid knows the attribute of the controller. -/
def ensureAttribute (client : Client σ) : SetupM σ Unit := do
  if (← ask (client.attribute? attributeName)).isNone then
    let _ ← ask <| client.createAttribute
      ⟨none, attributeName, "STRING", some "Managed by the IPAM controller"⟩

/-- Makes sure that the grid has the network of a label. -/
def validateLabel (client : Client σ) (label : String) (net : LabelNetwork) : SetupM σ Unit := do
  if (← ask (client.networkView? net.view)).isNone then
    throw (.missingView label net.view)
  if (← ask (client.network? net.view net.cidr)).isNone then
    throw (.missingNetwork label net.cidr net.view)

/-- Sets the backend up over a grid, and answers the networks of the labels. -/
def start (client : Client σ) (labels defaultView : String) : SetupM σ (Table LabelNetwork) := do
  let networks ← ExceptT.mk (pure (resolve labels defaultView))
  ensureAttribute client
  networks.entries.forM fun (label, net) => validateLabel client label net
  return networks

/-! ## Calls -/

/-- A call to the grid as a call of the backend. -/
def onGrid {α : Type} (call : GridM σ α) : AllocationM σ α := fun s =>
  match call.run s with
  | (.ok value, s) => (.ok value, s)
  | (.error cause, s) => (.error (.grid cause), s)

/-- The address of a text of the grid. -/
def addressOf (text : String) : AllocationM σ Address :=
  match Address.parse? text with
  | some a => pure a
  | none => throw (.badAddress text)

/-- The network of the pool of an operation. -/
def networkOf (labels : Table LabelNetwork) (op : Operation) : AllocationM σ LabelNetwork := do
  let pool ← requirePool op
  match labels.get? pool with
  | some net => pure net
  | none => throw (.unknownPool pool)

/-- The address reserved for a reference in a network: that of the first fixed address found. -/
def boundAddress (client : Client σ) (reference : String) (net : LabelNetwork) :
    AllocationM σ (Option Address) := do
  let found ← onGrid <| client.fixedAddresses
    [("name", reference), ("network_view", net.view), ("network", net.cidr)]
  match found with
  | [] => return none
  | first :: _ => return some (← addressOf first.address)

/-- The fixed addresses of one address in a view. -/
def fixedAt (client : Client σ) (net : LabelNetwork) (a : Address) :
    AllocationM σ (List Grid.FixedAddress) :=
  onGrid <| client.fixedAddresses [("ipv4addr", toString a), ("network_view", net.view)]

/-- The host records of one name and address. -/
def recordsAt (client : Client σ) (host : String) (a : Address) :
    AllocationM σ (List Grid.HostRecord) :=
  onGrid <| client.hostRecords [("name", host), ("ipv4addr", toString a)]

/-- Reserves one particular address for the reference of an operation.  A reference that has another
address, and an address that has another reference, are conflicts. -/
def allocate (client : Client σ) (labels : Table LabelNetwork) (op : Operation) (a : Address) :
    AllocationM σ Unit := do
  let reference ← requireReference op
  let net ← networkOf labels op
  if !net.network.contains a then
    throw (.notInNetwork a net.cidr)
  match ← boundAddress client reference net with
  | some bound => if bound = a then pure () else throw (.conflict op.pool a)
  | none =>
    match ← fixedAt client net a with
    | current :: _ =>
      if current.name = reference then pure () else throw (.conflict op.pool a)
    | [] =>
      let _ ← onGrid (client.createFixed net.view (toString a) reference attributes)

/-- The calls of the Infoblox backend. -/
def backend (client : Client σ) (labels : Table LabelNetwork) : Backend σ where
  name := "infoblox"
  lookup op := do
    let reference ← requireReference op
    let net ← networkOf labels op
    boundAddress client reference net
  allocateNext op := do
    let reference ← requireReference op
    let net ← networkOf labels op
    let fixed ← onGrid (client.allocateNext net.view net.cidr reference attributes)
    addressOf fixed.address
  allocate := allocate client labels
  release op a := do
    let net ← networkOf labels op
    (← fixedAt client net a).forM fun fixed => onGrid (client.delete fixed.reference)
  createDns op a :=
    match op.host with
    | none => pure ()
    | some host => do
      let _ ← networkOf labels op
      if (← recordsAt client host a).isEmpty then
        let _ ← onGrid (client.createHostRecord host (toString a) attributes)
  deleteDns op a :=
    match op.host with
    | none => pure ()
    | some host => do
      let _ ← networkOf labels op
      (← recordsAt client host a).forM fun record => onGrid (client.delete record.reference)

end Ipam.Infoblox
