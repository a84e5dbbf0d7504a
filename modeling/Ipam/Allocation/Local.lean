import Ipam.Allocation.Backend

/-!
# The local backend

Bindings are kept in the pools of a store.

* `Local.start` — adjusts a store to a configuration text.
* `Local.backend` — the calls of the backend.
-/

namespace Ipam.Local

open Backend (requireReference requirePool)

/-- Adjusts a store to a configuration text; a text without pools is an error. -/
def start (tokens : Pool.TokenSource) (config : String) (s : Store) :
    Except SetupError (SyncReport × Store) :=
  match Pool.parseConfig config with
  | .error cause => .error (.pools cause)
  | .ok pools =>
    if pools.isEmpty then .error .noPools
    else
      match s.sync tokens pools with
      | .error cause => .error (.store cause)
      | .ok result => .ok result

/-- A change of the store as a call; a refused one leaves the store as it is. -/
def change {α : Type} (f : Store → Except StoreError (α × Store)) : AllocationM Store α := fun s =>
  match f s with
  | .ok (value, s) => (.ok value, s)
  | .error cause => (.error (.store cause), s)

/-- The pool of an operation, which must be configured. -/
def knownPool (op : Operation) : AllocationM Store String := do
  let pool ← requirePool op
  if (← getThe Store).hasPool pool then pure pool else throw (.unknownPool pool)

/-- Binds one particular address to the reference of an operation. -/
def allocate (op : Operation) (a : Address) : AllocationM Store Unit := do
  let reference ← requireReference op
  let pool ← knownPool op
  match ← change fun s => s.allocateExact pool a reference with
  | .allocated | .alreadyBound => pure ()
  | .conflict | .referenceBound _ => throw (.conflict pool a)
  | .notInPool => throw (.notInPool a pool)

/-- The calls of the local backend. -/
def backend (tokens : Pool.TokenSource) : Backend Store where
  name := "local"
  lookup op := do
    let reference ← requireReference op
    let pool ← knownPool op
    return (← getThe Store).lookup pool reference
  allocateNext op := do
    let reference ← requireReference op
    let pool ← knownPool op
    match ← change fun s => s.allocateNext pool reference with
    | some a => pure a
    | none => throw (.exhausted pool)
  allocate := allocate
  release op a := do
    let pool ← knownPool op
    let _ ← change fun s => s.release tokens pool a
  createDns op a :=
    match op.host with
    | none => pure ()
    | some host => do
      let pool ← requirePool op
      change fun s => .ok ((), s.createDns pool host a)
  deleteDns op a :=
    match op.host with
    | none => pure ()
    | some host => do
      let pool ← requirePool op
      let _ ← change fun s => .ok (s.deleteDns pool host a)

end Ipam.Local
