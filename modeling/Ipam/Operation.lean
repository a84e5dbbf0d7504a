import Ipam.Binding
import Ipam.Net.Address

/-!
# Operations and their outcomes

An operation asks the allocation backend to bind an address or to release one.

* `ResourceRef` — the resource that an operation is issued for.
* `Operation` — a request to create or delete one binding; `Operation.create`, `Operation.replay`
  and `Operation.delete` build them with empty texts dropped.
* `Operation.reference?` — the name under which the binding is kept: the key, or else the host name.
* `Outcome` — an operation with what became of it.
-/

namespace Ipam

open Text (nonEmpty)

/-- A resource by name and namespace. -/
structure ResourceRef where
  /-- The name within the namespace. -/
  name : String
  /-- The namespace. -/
  ns : String
deriving DecidableEq

instance : ToString ResourceRef := ⟨fun r => s!"{r.ns}/{r.name}"⟩

/-- What an operation does to its binding. -/
inductive OperationKind where
  /-- Binds an address, or confirms the binding that is there. -/
  | create
  /-- Releases the binding, if there is one. -/
  | delete
deriving DecidableEq

instance : ToString OperationKind where
  toString
    | .create => "create"
    | .delete => "delete"

/-- A request to the allocation backend. -/
structure Operation where
  /-- The resource that the outcome is written back to. -/
  owner : ResourceRef
  /-- What to do. -/
  kind : OperationKind
  /-- The DNS host name of the binding. -/
  host : Option String
  /-- The opaque key of the binding. -/
  key : Option String
  /-- The pool, by label or network. -/
  pool : String
  /-- The address that a status recorded, to be bound as it is. -/
  recorded : Option String
deriving DecidableEq

namespace Operation

/-! ## Building operations -/

/-- An operation of the given kind without a recorded address; empty texts are dropped. -/
def of (kind : OperationKind) (owner : ResourceRef) (host key : Option String) (pool : String) :
    Operation :=
  ⟨owner, kind, nonEmpty host, nonEmpty key, pool, none⟩

/-- Binds some address. -/
def create : ResourceRef → Option String → Option String → String → Operation :=
  of .create

/-- Releases the address. -/
def delete : ResourceRef → Option String → Option String → String → Operation :=
  of .delete

/-- Binds the address that was recorded for the binding; an empty text records none. -/
def replay (owner : ResourceRef) (host key : Option String) (pool address : String) : Operation :=
  { create owner host key pool with recorded := nonEmpty (some address) }

/-! ## Views -/

/-- The name under which the binding is kept. -/
def reference? (op : Operation) : Option String :=
  op.key <|> op.host

/-- The identity of the binding. -/
def bindingKey (op : Operation) : BindingKey :=
  .of op.host op.key (some op.pool)

/-- The operation as it is named in messages. -/
protected def toString (op : Operation) : String :=
  let host := op.host.getD "-"
  let key := op.key.getD "-"
  let base := s!"{op.kind} host={host} key={key} pool={op.pool}"
  match op.recorded with
  | none => base
  | some address => s!"{base} address={address}"

instance : ToString Operation := ⟨Operation.toString⟩

end Operation

/-- What became of an operation. -/
inductive Verdict where
  /-- It succeeded; a create then has an address. -/
  | succeeded (address : Option Address)
  /-- It failed. -/
  | failed
deriving DecidableEq

/-- An operation with what became of it. -/
structure Outcome where
  /-- The operation. -/
  operation : Operation
  /-- Its verdict. -/
  verdict : Verdict
deriving DecidableEq

namespace Outcome

/-- The outcome of an operation that succeeded. -/
def success (op : Operation) (address : Option Address) : Outcome :=
  ⟨op, .succeeded address⟩

/-- The outcome of an operation that failed. -/
def failure (op : Operation) : Outcome :=
  ⟨op, .failed⟩

/-- Whether the operation succeeded. -/
def isSuccess (o : Outcome) : Bool :=
  match o.verdict with
  | .succeeded _ => true
  | .failed => false

/-- The address that the operation answered. -/
def address? (o : Outcome) : Option Address :=
  match o.verdict with
  | .succeeded address => address
  | .failed => none

end Outcome

end Ipam
