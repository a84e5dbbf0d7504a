import Ipam.Allocation.Backend

/-!
# The coordinator

The coordinator carries out operations on a backend, one at a time, and turns every failure into a
failed outcome.

* `Coordinator.process` — one operation.
* `Coordinator.processAll` — a list of operations, in order.

A failure to publish or to withdraw a host name is not a failure of the operation, and to delete a
binding that does not exist always succeeds.
-/

namespace Ipam.Coordinator

variable {σ : Type}

/-- Makes a call whose failure does not matter. -/
def attempt {α : Type} (call : AllocationM σ α) : StateM σ Unit :=
  discard call.run

/-- Publishes an address under the host name of an operation, if there is one. -/
def publish (backend : Backend σ) (op : Operation) (a : Address) : StateM σ Unit :=
  if op.host.isSome then attempt (backend.createDns op a) else pure ()

/-- Binds an address for an operation.  A recorded address is bound as it is; otherwise the binding
that is there is confirmed, or the next free address is bound. -/
def create (backend : Backend σ) (op : Operation) : AllocationM σ Address :=
  match op.recorded with
  | some text =>
    match Address.parse? text with
    | none => throw (.badAddress text)
    | some a => do
      backend.allocate op a
      publish backend op a
      return a
  | none => do
    match ← backend.lookup op with
    | some a => return a
    | none =>
      let a ← backend.allocateNext op
      publish backend op a
      return a

/-- Releases the address of an operation, if there is one, and withdraws its host name. -/
def delete (backend : Backend σ) (op : Operation) : StateM σ Unit := do
  match ← (backend.lookup op).run with
  | .error _ => pure ()
  | .ok none => pure ()
  | .ok (some a) =>
    attempt (backend.release op a)
    if op.host.isSome then attempt (backend.deleteDns op a)

/-- Carries out one operation. -/
def process (backend : Backend σ) (op : Operation) : StateM σ Outcome :=
  match op.kind with
  | .create => do
    match ← (create backend op).run with
    | .ok a => return .success op (some a)
    | .error _ => return .failure op
  | .delete => do
    delete backend op
    return .success op none

/-- Carries out operations in order. -/
def processAll (backend : Backend σ) (ops : List Operation) : StateM σ (List Outcome) :=
  ops.mapM (process backend)

/-- The coordinator as it is shown in logs. -/
def describe (backend : Backend σ) : String :=
  "Coordinator \x7b manager: " ++ Text.quoted backend.name ++ " \x7d"

end Ipam.Coordinator
