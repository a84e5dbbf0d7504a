import Ipam.Resource

/-!
# From changes of resources to operations

Pure functions from snapshots of resources to the operations that bring the bindings in line with
them. Bindings are compared by their keys.

* `Reconcile.onCreate` — a resource is seen for the first time.
* `Reconcile.onUpdate` — the requests of a resource changed.
* `Reconcile.onDelete` — a resource is gone.

Requests and records without a pool, or with neither host nor key, lead to no operation.
-/

namespace Ipam.Reconcile

/-! ## Operations for one binding -/

/-- The requests without those whose key occurred before. -/
def distinct : List Request → List Request
  | [] => []
  | r :: rest => r :: (distinct rest).filter fun other => other.bindingKey ≠ r.bindingKey

/-- The keys of some requests. -/
def keys (requests : List Request) : List BindingKey :=
  requests.map Request.bindingKey

/-- The operation of a kind for a binding that is complete. -/
def operation? (kind : OperationKind) (owner : ResourceRef) (r : Request) : Option Operation := do
  let pool ← r.pool
  if r.isIdentified then some (.of kind owner r.host r.key pool) else none

/-- Binds an address for a request. -/
def create? : ResourceRef → Request → Option Operation :=
  operation? .create

/-- Releases the address of a binding. -/
def delete? : ResourceRef → Request → Option Operation :=
  operation? .delete

/-- Binds the recorded address of a binding again, if there is one. -/
def replay? (owner : ResourceRef) (r : Record) : Option Operation := do
  let pool ← r.pool
  if r.ip ≠ "" ∧ r.isIdentified then some (.replay owner r.host r.key pool r.ip) else none

/-! ## Operations for a change -/

/-- The operations for a resource that is seen for the first time.  What its status records is bound
again first, so that a restarted controller confirms what it handed out; then recorded bindings that
are not wanted any more are released, and all wanted ones are bound. -/
def onCreate (r : Resource) : List Operation :=
  let wanted := distinct r.requests
  let stale := r.records.filter fun record => record.bindingKey ∉ keys wanted
  r.records.filterMap (replay? r.ref)
    ++ stale.filterMap (fun record => delete? r.ref record.toRequest)
    ++ wanted.filterMap (create? r.ref)

/-- The operations for changed requests: those that are gone are released before new ones are bound.
-/
def onUpdate (old new : Resource) : List Operation :=
  let before := distinct old.requests
  let after := distinct new.requests
  (before.filter fun r => r.bindingKey ∉ keys after).filterMap (delete? new.ref)
    ++ (after.filter fun r => r.bindingKey ∉ keys before).filterMap (create? new.ref)

/-- The addresses that resources other than the given one record. -/
def sharedAddresses (r : Resource) (others : List Resource) : List String :=
  ((others.filter fun other => other.ref ≠ r.ref).flatMap Resource.records).map (·.ip)
    |>.filter (· ≠ "")

/-- The operations for a resource that is gone.  Addresses that another resource records are left
alone. -/
def onDelete (r : Resource) (others : List Resource) : List Operation :=
  (r.records.filter fun record => record.ip ∉ sharedAddresses r others).filterMap
    fun record => delete? r.ref record.toRequest

end Ipam.Reconcile
