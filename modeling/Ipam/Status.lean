import Ipam.Resource

/-!
# Folding outcomes into a status

The controller writes every outcome back to the status of the resource that it was issued for.
Outcomes may come in any order, so records are found by their binding keys.

* `Record.ofOperation` — the record of a binding that got an address.
* `Status.fold?` — a list of records after an outcome; none when the list reflects it already.
-/

namespace Ipam

/-- The record of a binding with an address.  A pool with a slash in it is a network, any other a
label. -/
def Record.ofOperation (op : Operation) (ip : String) : Record where
  host := op.host
  key := op.key
  cidr := if op.pool.toList.contains '/' then some op.pool else none
  label := if op.pool.toList.contains '/' then none else some op.pool
  ip := ip

namespace Status

/-- The records with another address in the first one with the given key. -/
def setAddress (key : BindingKey) (ip : String) : List Record → List Record
  | [] => []
  | r :: rest =>
    if r.bindingKey = key then { r with ip } :: rest else r :: setAddress key ip rest

/-- The records without the first one with the given key. -/
def remove (key : BindingKey) (records : List Record) : List Record :=
  records.eraseP fun r => r.bindingKey = key

/-- The record of a binding. -/
def find? (key : BindingKey) (records : List Record) : Option Record :=
  records.find? fun r => r.bindingKey = key

/-- The records after the binding got an address. -/
def upsert? (op : Operation) (ip : String) (records : List Record) : Option (List Record) :=
  match find? op.bindingKey records with
  | none => some (records ++ [Record.ofOperation op ip])
  | some r => if r.ip = ip then none else some (setAddress op.bindingKey ip records)

/-- The records after the binding was lost. -/
def remove? (key : BindingKey) (records : List Record) : Option (List Record) :=
  if (find? key records).isSome then some (remove key records) else none

/-- The records after an outcome, or none when they reflect it already.  A create that succeeded
sets the address of its binding; a create that failed and any delete remove the binding. -/
def fold? (outcome : Outcome) (records : List Record) : Option (List Record) :=
  let op := outcome.operation
  match op.kind, outcome.verdict with
  | .create, .succeeded (some a) => upsert? op (toString a) records
  | .create, .succeeded none => none
  | _, _ => remove? op.bindingKey records

/-- The records after an outcome. -/
def fold (outcome : Outcome) (records : List Record) : List Record :=
  (fold? outcome records).getD records

end Status

end Ipam
