import Ipam.Allocation.Error

/-!
# Allocation backends

A backend keeps the bindings: in pools of its own or in a grid.  The coordinator drives it through
the calls of this structure, over a state `σ`.

* `AllocationM σ` — calls that may fail; what they did to the state before they failed remains done.
* `Backend σ` — the calls.
* `requireReference`, `requirePool` — checks that every backend makes of an operation.
-/

namespace Ipam

/-- A call to a backend with state `σ`. -/
abbrev AllocationM (σ : Type) := ExceptT AllocationError (StateM σ)

/-- The calls that a backend offers. -/
structure Backend (σ : Type) where
  /-- What logs call it. -/
  name : String
  /-- The address bound to the reference of an operation. -/
  lookup (op : Operation) : AllocationM σ (Option Address)
  /-- Binds the next free address of the pool to the reference. -/
  allocateNext (op : Operation) : AllocationM σ Address
  /-- Binds one particular address to the reference; to confirm a binding is no error. -/
  allocate (op : Operation) (a : Address) : AllocationM σ Unit
  /-- Gives an address back to the pool. -/
  release (op : Operation) (a : Address) : AllocationM σ Unit
  /-- Publishes an address under the host name of the operation, if there is one. -/
  createDns (op : Operation) (a : Address) : AllocationM σ Unit
  /-- Withdraws an address from under the host name of the operation, if there is one. -/
  deleteDns (op : Operation) (a : Address) : AllocationM σ Unit

namespace Backend

/-- The reference of an operation, which must be there. -/
def requireReference {σ : Type} (op : Operation) : AllocationM σ String :=
  match op.reference? with
  | some reference => pure reference
  | none => throw (.noReference op)

/-- The pool of an operation, which must not be blank. -/
def requirePool {σ : Type} (op : Operation) : AllocationM σ String :=
  if Pool.isBlankText op.pool then throw (.noPool op) else pure op.pool

end Backend

end Ipam
