import Ipam.Reconcile

/-!
# What the watcher has seen

The watcher keeps the last seen copy of every resource and classifies what it sees next: an object
seen for the first time is created, a later one with other requests is updated, and one that a new
listing does not contain is deleted.

* `Change` — a classified change, and `Change.operations`, what is to be done about it.
* `Cache` — the copies, and the references listed so far by a listing that is under way.
* `Cache.see`, `Cache.forget` — live events.
* `Cache.beginListing`, `Cache.list`, `Cache.endListing` — a listing.
-/

namespace Ipam.Watch

/-- A classified change of a resource. -/
inductive Change where
  /-- The resource is seen for the first time. -/
  | created (resource : Resource)
  /-- The requests of the resource changed. -/
  | updated (old new : Resource)
  /-- The resource is gone. -/
  | deleted (resource : Resource)

/-- Whether a change is that a resource is gone. -/
def Change.isDeletion : Change → Bool
  | .deleted _ => true
  | .created _ | .updated .. => false

/-- The operations that a change calls for; `others` are the resources that are there. -/
def Change.operations (others : List Resource) : Change → List Operation
  | .created r => Reconcile.onCreate r
  | .updated old new => Reconcile.onUpdate old new
  | .deleted r => Reconcile.onDelete r others

/-- The last seen copies of resources. -/
structure Cache where
  /-- The copies, at most one for a reference. -/
  seen : List Resource := []
  /-- The references that the listing under way has brought so far. -/
  listing : Option (List ResourceRef) := none

namespace Cache

/-- The copy of a resource. -/
def find? (c : Cache) (ref : ResourceRef) : Option Resource :=
  c.seen.find? fun r => r.ref = ref

/-- The cache with a copy taken up, in place of an older one. -/
def keep (c : Cache) (r : Resource) : Cache :=
  { c with
    seen :=
      if (c.find? r.ref).isSome then c.seen.map fun s => if s.ref = r.ref then r else s
      else c.seen ++ [r] }

/-- The cache without a copy. -/
def drop (c : Cache) (ref : ResourceRef) : Cache :=
  { c with seen := c.seen.filter fun r => r.ref ≠ ref }

/-! ## Live events -/

/-- A resource was added or modified.  Unless its requests changed, nothing has to be done. -/
def see (c : Cache) (r : Resource) : Option Change × Cache :=
  let change :=
    match c.find? r.ref with
    | none => some (.created r)
    | some old => if old.requests = r.requests then none else some (.updated old r)
  (change, c.keep r)

/-- A resource was deleted. -/
def forget (c : Cache) (r : Resource) : Change × Cache :=
  (.deleted r, c.drop r.ref)

/-! ## Listings -/

/-- A listing begins; one that was under way is abandoned. -/
def beginListing (c : Cache) : Cache :=
  { c with listing := some [] }

/-- A listing brings a resource. -/
def list (c : Cache) (r : Resource) : Option Change × Cache :=
  { c with listing := c.listing.map (r.ref :: ·) }.see r

/-- The order of references: by their text. -/
def refOrder (a b : Resource) : Bool :=
  toString a.ref ≤ toString b.ref

/-- A listing ends: resources that it did not bring are gone. -/
def endListing (c : Cache) : List Change × Cache :=
  match c.listing with
  | none => ([], c)
  | some listed =>
    let gone := c.seen.filter fun r => r.ref ∉ listed
    ((gone.mergeSort refOrder).map .deleted,
      { seen := c.seen.filter fun r => r.ref ∈ listed, listing := none })

/-- The copies in the order of their references. -/
def resources (c : Cache) : List Resource :=
  c.seen.mergeSort refOrder

end Cache

end Ipam.Watch
