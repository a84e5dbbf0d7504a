import Ipam.Grid.Client
import Ipam.Net.Network

/-!
# A grid in memory

A grid that lives in a value: its views, networks, attribute definitions, fixed addresses and host
records.  It hands out the lowest free host address of a network, as a real grid does.

* `Memory` — the state of the grid.
* `Memory.addView`, `Memory.addNetwork` — what an administrator sets up.
* `Memory.client` — the calls of such a grid.

Every object but a view gets the next number of the grid in its reference, so a reference never
comes to denote another object.  While `failure` is set, every call fails and changes nothing.
-/

namespace Ipam.Grid

/-- The state of a grid. -/
structure Memory where
  /-- The names of the network views. -/
  views : List String := []
  /-- The networks, at most one for a view and a text. -/
  networks : List NetworkObject := []
  /-- The attribute definitions by name. -/
  attributes : Table AttributeDefinition := .empty
  /-- The fixed addresses by reference. -/
  fixed : Table FixedAddress := .empty
  /-- The host records by reference. -/
  records : Table HostRecord := .empty
  /-- The message with which every call fails. -/
  failure : Option String := none
  /-- The number of the next object. -/
  nextNumber : Nat := 1

namespace Memory

/-! ## Setting up -/

/-- The grid with one more view. -/
def addView (g : Memory) (name : String) : Memory :=
  if name ∈ g.views then g else { g with views := g.views ++ [name] }

/-- The grid with one more network; it takes the place of an equal one of the view. -/
def addNetwork (g : Memory) (view cidr : String) : Memory :=
  let others := g.networks.filter fun n => !(n.view = view && n.network = cidr)
  { g with
    networks := others ++ [⟨s!"network/{g.nextNumber}:{cidr}/{view}", cidr, view⟩]
    nextNumber := g.nextNumber + 1 }

/-! ## Addresses -/

/-- The network of a text, if it has room for hosts. -/
def hostNetwork? (cidr : String) : Option Network :=
  (Network.parseExact? cidr.toList).filter fun n => n.length.val ≤ 30

/-- Whether a text is a host address of the network of another text. -/
def isHostText (cidr address : String) : Bool :=
  match hostNetwork? cidr, Address.parseQuad? address.toList with
  | some n, some a => n.isHost a
  | _, _ => false

/-- The network with a given text in a view. -/
def findNetwork? (g : Memory) (view cidr : String) : Option NetworkObject :=
  g.networks.find? fun n => n.view = view && n.network = cidr

/-- Whether an address is reserved in a view. -/
def isTaken (g : Memory) (view address : String) : Bool :=
  g.fixed.entries.any fun entry => entry.2.view = view && entry.2.address = address

/-- Whether an address is a host address of some network of a view. -/
def isCovered (g : Memory) (view address : String) : Bool :=
  g.networks.any fun n => n.view = view && isHostText n.network address

/-- The lowest host address of a network that is not taken in a view.  One more host than there are
fixed addresses is enough to look at: at least one of them is free. -/
def lowestFree? (g : Memory) (view : String) (n : Network) : Option Address :=
  let candidates := min n.hostCount (g.fixed.entries.length + 1)
  ((List.range candidates).map n.host).find? fun a => !g.isTaken view (toString a)

/-! ## Changes -/

/-- The grid with one more fixed address. -/
def insertFixed (g : Memory) (view : String) (a : Address) (name : String) :
    FixedAddress × Memory :=
  let reference := s!"fixedaddress/{g.nextNumber}:{a}/{view}"
  let object : FixedAddress := ⟨reference, toString a, name, view⟩
  (object, { g with fixed := g.fixed.insert reference object, nextNumber := g.nextNumber + 1 })

/-- The grid with one more host record. -/
def insertRecord (g : Memory) (name address : String) : HostRecord × Memory :=
  let reference := s!"record:a/{g.nextNumber}:{name}/default"
  let object : HostRecord := ⟨reference, name, address, "default"⟩
  (object, { g with records := g.records.insert reference object, nextNumber := g.nextNumber + 1 })

/-- The grid with one more attribute definition; it takes the place of one with the same name. -/
def insertAttribute (g : Memory) (definition : AttributeDefinition) : String × Memory :=
  let reference := s!"extensibleattributedef/{g.nextNumber}:{definition.name}"
  let object := { definition with reference := some reference }
  (reference,
    { g with
      attributes := g.attributes.insert definition.name object
      nextNumber := g.nextNumber + 1 })

/-! ## Filters -/

/-- Whether a fixed address passes a filter; filters on unknown fields let everything pass. -/
def passesFixed (f : Filter) (a : FixedAddress) : Bool :=
  match f.1 with
  | "name" => a.name = f.2
  | "ipv4addr" => a.address = f.2
  | "network_view" => a.view = f.2
  | "network" => isHostText f.2 a.address
  | _ => true

/-- Whether a host record passes a filter; filters on unknown fields let everything pass. -/
def passesRecord (f : Filter) (r : HostRecord) : Bool :=
  match f.1 with
  | "name" => r.name = f.2
  | "ipv4addr" => r.address = f.2
  | _ => true

/-- The fixed addresses that pass all filters, by reference. -/
def selectFixed (g : Memory) (filters : List Filter) : List FixedAddress :=
  (g.fixed.entries.map Prod.snd).filter fun a => filters.all fun f => passesFixed f a

/-- The host records that pass all filters, by reference. -/
def selectRecords (g : Memory) (filters : List Filter) : List HostRecord :=
  (g.records.entries.map Prod.snd).filter fun r => filters.all fun f => passesRecord f r

/-! ## Calls -/

/-- A call that fails while the grid is out of order, and otherwise answers from the grid and may
change it. -/
def call {α : Type} (f : Memory → Except GridError (α × Memory)) : GridM Memory α := fun g =>
  match g.failure with
  | some message => (.error (.outage message), g)
  | none =>
    match f g with
    | .ok (value, g) => (.ok value, g)
    | .error e => (.error e, g)

/-- A call that changes nothing. -/
def view {α : Type} (f : Memory → α) : GridM Memory α :=
  call fun g => .ok (f g, g)

/-- Reserves the lowest free host address of a network. -/
def allocateNext (g : Memory) (view cidr name : String) :
    Except GridError (FixedAddress × Memory) :=
  match g.findNetwork? view cidr with
  | none => .error (.unknownNetwork cidr view)
  | some _ =>
    match hostNetwork? cidr with
    | none => .error (.unusableNetwork cidr)
    | some n =>
      match g.lowestFree? view n with
      | none => .error (.exhausted cidr)
      | some a => .ok (g.insertFixed view a name)

/-- Reserves one particular host address. -/
def createFixed (g : Memory) (view address name : String) :
    Except GridError (FixedAddress × Memory) :=
  match Address.parseQuad? address.toList with
  | none => .error (.badAddress address)
  | some a =>
    if !g.isCovered view address then .error (.uncovered address view)
    else if g.isTaken view address then .error (.taken address)
    else .ok (g.insertFixed view a name)

/-- Deletes a fixed address or a host record. -/
def delete (g : Memory) (reference : String) : Except GridError (Unit × Memory) :=
  if g.fixed.contains reference then .ok ((), { g with fixed := g.fixed.erase reference })
  else if g.records.contains reference then
    .ok ((), { g with records := g.records.erase reference })
  else .error (.unknownObject reference)

/-- The calls of a grid in memory. -/
def client (baseUrl : String) : Client Memory where
  baseUrl := baseUrl
  networkView? name := view fun g =>
    if name ∈ g.views then some ⟨s!"networkview/{name}", name, name = "default"⟩ else none
  network? view cidr := Memory.view fun g => g.findNetwork? view cidr
  attribute? name := view fun g => g.attributes.get? name
  createAttribute definition := call fun g => .ok (g.insertAttribute definition)
  allocateNext view cidr name _ := call fun g => g.allocateNext view cidr name
  createFixed view address name _ := call fun g => g.createFixed view address name
  fixedAddresses filters := view fun g => g.selectFixed filters
  createHostRecord name address _ := call fun g => .ok (g.insertRecord name address)
  hostRecords filters := view fun g => g.selectRecords filters
  delete reference := call fun g => g.delete reference

end Memory

end Ipam.Grid
