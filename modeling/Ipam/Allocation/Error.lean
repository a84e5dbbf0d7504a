import Ipam.Grid.Error
import Ipam.Grid.Labels
import Ipam.Operation
import Ipam.Pool.Config
import Ipam.Pool.Store

/-!
# Errors of allocation

* `AllocationError` — why a backend cannot carry out an operation.
* `SetupError` — why a backend cannot be set up.

Failures of a connection or of the database have no wording of their own, and neither has an error
that wraps one.
-/

namespace Ipam

/-- Why a backend cannot carry out an operation. -/
inductive AllocationError where
  /-- The operation names neither a host nor a key. -/
  | noReference (op : Operation)
  /-- The operation names no pool. -/
  | noPool (op : Operation)
  /-- The pool is not configured. -/
  | unknownPool (pool : String)
  /-- The pool has no free address. -/
  | exhausted (pool : String)
  /-- The address, or the reference, is bound otherwise. -/
  | conflict (pool : String) (address : Address)
  /-- A text is not an address. -/
  | badAddress (text : String)
  /-- The pool has no such address. -/
  | notInPool (address : Address) (pool : String)
  /-- The network of the pool does not contain the address. -/
  | notInNetwork (address : Address) (cidr : String)
  /-- The store refuses. -/
  | store (cause : StoreError)
  /-- The grid refuses. -/
  | grid (cause : Grid.GridError)
deriving DecidableEq

/-- The wording of an error. -/
def AllocationError.message? : AllocationError → Option String
  | .noReference op => some s!"Invalid request: {op} has neither host nor key"
  | .noPool op => some s!"Invalid request: {op} has no pool"
  | .unknownPool pool => some s!"Unknown pool: {pool}"
  | .exhausted pool => some s!"No available addresses in pool: {pool}"
  | .conflict pool address => some s!"Address {address} in pool {pool} is already allocated"
  | .badAddress text => some s!"Invalid IPv4 address: {text}"
  | .notInPool address pool => some s!"Invalid IPv4 address: {address} is not part of pool {pool}"
  | .notInNetwork address cidr =>
    some s!"Invalid IPv4 address: {address} is not part of network {cidr}"
  | .store cause => cause.message?.map ("Store error: " ++ ·)
  | .grid cause => cause.message?.map ("Infoblox error: " ++ ·)

/-- Why a backend cannot be set up. -/
inductive SetupError where
  /-- The pool configuration is faulty. -/
  | pools (cause : Pool.ConfigError)
  /-- No pool is configured. -/
  | noPools
  /-- The label map is faulty. -/
  | labels (cause : Grid.LabelsError)
  /-- The network of a label is not a network. -/
  | labelNetwork (label cidr : String)
  /-- The grid has no such view. -/
  | missingView (label view : String)
  /-- The view has no such network. -/
  | missingNetwork (label cidr view : String)
  /-- The store refuses. -/
  | store (cause : StoreError)
  /-- The grid refuses. -/
  | grid (cause : Grid.GridError)
deriving DecidableEq

/-- The wording of an error. -/
def SetupError.message? : SetupError → Option String
  | .pools cause => some ("Invalid configuration: " ++ cause.message)
  | .noPools => some "Invalid configuration: no address pools configured"
  | .labels cause => some ("Invalid configuration: " ++ cause.message)
  | .labelNetwork label cidr =>
    let fault := RangeError.message (.malformed cidr)
    some s!"Invalid configuration: label {label}: {fault}"
  | .missingView label view =>
    some s!"Invalid configuration: label {label}: network view {view} not found"
  | .missingNetwork label cidr view =>
    some s!"Invalid configuration: label {label}: network {cidr} not found in view {view}"
  | .store cause => cause.message?.map ("Store error: " ++ ·)
  | .grid cause => cause.message?.map ("Infoblox error: " ++ ·)

end Ipam
