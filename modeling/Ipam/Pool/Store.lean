import Ipam.Net.Range
import Ipam.Pool.Token
import Ipam.Table
import Ipam.Text.Quoted

/-!
# The pool store

The store keeps, for every configured pool, its range text and one row per address, and beside them
the DNS records of the bindings.  A row is free or bound to a reference.

* `Holder`, `Row`, `Pool`, `DnsRecord`, `Store` — what is kept.
* `Store.lookup`, `Store.entry?`, `Store.entries`, `Store.dnsRecords` — views.
* `Store.allocateNext`, `Store.allocateExact`, `Store.release` — changes of one row.
* `Store.createDns`, `Store.deleteDns` — changes of the DNS records.
* `Store.sync` — adjusts the pools to a configuration.

A change either happens as a whole or answers an error and changes nothing.  The references of a
pool (those of bound rows and the tokens of free ones) are unique; a change that would break this
fails.
-/

namespace Ipam

/-! ## What is kept -/

/-- Who holds an address. -/
inductive Pool.Holder where
  /-- Nobody; the row carries a placeholder token. -/
  | free (token : String)
  /-- The binding with this reference. -/
  | bound (reference : String)
deriving DecidableEq

namespace Pool.Holder

/-- The text that the row carries. -/
def reference : Holder → String
  | .free token => token
  | .bound reference => reference

/-- Whether nobody holds the address. -/
def isFree : Holder → Bool
  | .free _ => true
  | .bound _ => false

end Pool.Holder

/-- One address of a pool. -/
structure Pool.Row where
  address : Address
  holder : Pool.Holder
deriving DecidableEq

/-- A configured pool. -/
structure Pool where
  /-- The range text that the pool was configured with. -/
  range : String
  /-- The rows, lowest address first. -/
  rows : List Pool.Row
deriving DecidableEq

/-- A host name published for an address of a pool. -/
structure DnsRecord where
  /-- The label of the pool. -/
  pool : String
  host : String
  address : Address
deriving DecidableEq

/-- Everything that is kept. -/
structure Store where
  /-- The configured pools by label. -/
  pools : Table Pool
  /-- The DNS records, each once. -/
  dns : List DnsRecord
  /-- The number of placeholder tokens drawn so far. -/
  drawn : Nat

/-- Why the store refuses a change, or cannot be opened. -/
inductive StoreError where
  /-- A range text cannot be expanded. -/
  | range (cause : RangeError)
  /-- Two rows of a pool would carry one reference. -/
  | duplicateReference
  /-- The directory of the store cannot be made. -/
  | noDirectory
  /-- The file of the store is not a database. -/
  | notADatabase
deriving DecidableEq

/-- The wording of an error of the configuration; other errors have no wording of their own. -/
def StoreError.message? : StoreError → Option String
  | .range cause => some s!"Pool range error: {cause.message}"
  | _ => none

namespace Pool

/-! ## One pool -/

/-- The row of an address. -/
def row? (p : Pool) (a : Address) : Option Row :=
  p.rows.find? (·.address = a)

/-- The address bound to a reference. -/
def owned? (p : Pool) (reference : String) : Option Address :=
  (p.rows.find? (·.holder = .bound reference)).map (·.address)

/-- The lowest free address. -/
def lowestFree? (p : Pool) : Option Address :=
  (p.rows.find? (·.holder.isFree)).map (·.address)

/-- Whether a row other than that of `a` carries the reference. -/
def carriesElsewhere (p : Pool) (a : Address) (reference : String) : Bool :=
  p.rows.any fun r => r.address ≠ a && r.holder.reference = reference

/-- The pool with another holder of an address. -/
def setHolder (p : Pool) (a : Address) (holder : Holder) : Pool :=
  { p with rows := p.rows.map fun r => if r.address = a then { r with holder } else r }

/-- The pool with another holder of an address, unless another row carries its reference. -/
def hold (p : Pool) (a : Address) (holder : Holder) : Except StoreError Pool :=
  if p.carriesElsewhere a holder.reference then .error .duplicateReference
  else .ok (p.setHolder a holder)

/-- Whether the elements of a list of texts are pairwise different.  The test runs on the sorted
list, since a pool may have many rows. -/
def allDistinct (texts : List String) : Bool :=
  let sorted := texts.mergeSort fun a b => a ≤ b
  (sorted.zip sorted.tail).all fun (a, b) => a ≠ b

/-- A pool whose addresses are all free, with tokens from a supply. -/
def fresh (range : String) (addresses : List Address) (tokens : TokenSource) :
    Except StoreError Pool :=
  let texts := (List.range addresses.length).map tokens
  if allDistinct texts then
    .ok ⟨range, addresses.zipWith (fun a token => ⟨a, .free token⟩) texts⟩
  else
    .error .duplicateReference

end Pool

/-- What asking for one particular address led to. -/
inductive ExactAllocation where
  /-- The address was free and is now bound to the reference. -/
  | allocated
  /-- The address was bound to the reference before. -/
  | alreadyBound
  /-- The address is bound to another reference. -/
  | conflict
  /-- The reference owns another address of the pool. -/
  | referenceBound (owned : Address)
  /-- The pool has no such address. -/
  | notInPool
deriving DecidableEq

/-- What adjusting the pools to a configuration did, by label. -/
structure SyncReport where
  /-- Pools with the range text that they had. -/
  kept : List String
  /-- Pools with another range text. -/
  replaced : List String
  /-- Pools that are not configured any more. -/
  removed : List String
  /-- Pools that were not there before. -/
  added : List String
deriving DecidableEq

/-- The report in one line. -/
protected def SyncReport.toString (r : SyncReport) : String :=
  let kept := Text.quotedList r.kept
  let replaced := Text.quotedList r.replaced
  let removed := Text.quotedList r.removed
  let added := Text.quotedList r.added
  s!"kept={kept} replaced={replaced} removed={removed} added={added}"

instance : ToString SyncReport := ⟨SyncReport.toString⟩

/-- One row of a pool, as it is listed. -/
structure Entry where
  /-- The label of the pool. -/
  pool : String
  row : Pool.Row
deriving DecidableEq

namespace Store

/-- The store without pools. -/
def empty : Store :=
  ⟨.empty, [], 0⟩

instance : EmptyCollection Store := ⟨empty⟩
instance : Inhabited Store := ⟨empty⟩

/-! ## Views -/

/-- The configured range texts by label. -/
def ranges (s : Store) : Table String :=
  s.pools.map fun _ p => p.range

/-- Whether a pool is configured. -/
def hasPool (s : Store) (pool : String) : Bool :=
  s.pools.contains pool

/-- The rows of a pool, lowest address first; none for an unknown pool. -/
def rows (s : Store) (pool : String) : List Pool.Row :=
  match s.pools.get? pool with
  | none => []
  | some p => p.rows

/-- The address of a pool that is bound to a reference. -/
def lookup (s : Store) (pool reference : String) : Option Address := do
  (← s.pools.get? pool).owned? reference

/-- The row of an address of a pool, as it is listed. -/
def entry? (s : Store) (pool : String) (a : Address) : Option Entry := do
  return ⟨pool, ← (← s.pools.get? pool).row? a⟩

/-- The rows of a pool, as they are listed. -/
def entries (s : Store) (pool : String) : List Entry :=
  (s.rows pool).map fun row => ⟨pool, row⟩

/-- The order in which DNS records are listed: by host name.  The query leaves it open in which order
several addresses of one host come; here it is that of their numbers. -/
def dnsOrder (a b : String × Address) : Bool :=
  a.1 < b.1 || (a.1 = b.1 && a.2 ≤ b.2)

/-- The DNS records of a pool as pairs of host name and address, in order. -/
def dnsRecords (s : Store) (pool : String) : List (String × Address) :=
  ((s.dns.filter (·.pool = pool)).map fun r => (r.host, r.address)).mergeSort dnsOrder

/-! ## Changes of one row -/

/-- The store with another pool under a label. -/
def setPool (s : Store) (pool : String) (p : Pool) : Store :=
  { s with pools := s.pools.insert pool p }

/-- Binds the lowest free address of a pool to a reference.  A reference that owns an address
already keeps it; a pool without free address answers none. -/
def allocateNext (s : Store) (pool reference : String) :
    Except StoreError (Option Address × Store) :=
  match s.pools.get? pool with
  | none => .ok (none, s)
  | some p =>
    match p.owned? reference with
    | some a => .ok (some a, s)
    | none =>
      match p.lowestFree? with
      | none => .ok (none, s)
      | some a => do return (some a, s.setPool pool (← p.hold a (.bound reference)))

/-- Binds one particular address of a pool to a reference. -/
def allocateExact (s : Store) (pool : String) (a : Address) (reference : String) :
    Except StoreError (ExactAllocation × Store) :=
  match s.pools.get? pool with
  | none => .ok (.notInPool, s)
  | some p =>
    match p.row? a with
    | none => .ok (.notInPool, s)
    | some ⟨_, .bound owner⟩ =>
      .ok (if owner = reference then .alreadyBound else .conflict, s)
    | some ⟨_, .free _⟩ =>
      match p.owned? reference with
      | some owned => .ok (.referenceBound owned, s)
      | none => do return (.allocated, s.setPool pool (← p.hold a (.bound reference)))

/-- Frees an address of a pool under a new token.  Answers whether it was bound. -/
def release (tokens : Pool.TokenSource) (s : Store) (pool : String) (a : Address) :
    Except StoreError (Bool × Store) :=
  match s.pools.get? pool with
  | none => .ok (false, s)
  | some p =>
    match p.row? a with
    | some ⟨_, .bound _⟩ => do
      let p ← p.hold a (.free (tokens s.drawn))
      return (true, { s.setPool pool p with drawn := s.drawn + 1 })
    | _ => .ok (false, s)

/-! ## DNS records -/

/-- Records a host name for an address; a record that is there already stays as it is. -/
def createDns (s : Store) (pool host : String) (a : Address) : Store :=
  if (⟨pool, host, a⟩ : DnsRecord) ∈ s.dns then s
  else { s with dns := s.dns ++ [⟨pool, host, a⟩] }

/-- Forgets a host name for an address.  Answers whether it was recorded. -/
def deleteDns (s : Store) (pool host : String) (a : Address) : Bool × Store :=
  ((⟨pool, host, a⟩ : DnsRecord) ∈ s.dns,
    { s with dns := s.dns.filter (· ≠ ⟨pool, host, a⟩) })

/-! ## Adjusting to a configuration -/

/-- The expanded ranges of a configuration, in label order; the first text that cannot be expanded
is the error. -/
def expandAll (desired : Table String) :
    Except RangeError (List (String × String × List Address)) :=
  desired.entries.mapM fun (label, range) => return (label, range, ← Range.expand range)

/-- Whether a pool stays as it is: it is configured with the range text that it has. -/
def isKept (desired : Table String) (label : String) (p : Pool) : Bool :=
  desired.get? label = some p.range

/-- What adjusting the pools to a configuration does. -/
def reportOf (s : Store) (desired : Table String) : SyncReport where
  kept := (s.pools.filter fun label p => isKept desired label p).names
  replaced := (s.pools.filter fun label p =>
    desired.contains label && !isKept desired label p).names
  removed := (s.pools.filter fun label _ => !desired.contains label).names
  added := (desired.filter fun label _ => !s.pools.contains label).names

/-- The store without the pools that do not stay, their rows and their DNS records. -/
def dropStale (s : Store) (desired : Table String) : Store :=
  let stale (label : String) : Bool :=
    match s.pools.get? label with
    | none => false
    | some p => !isKept desired label p
  { s with
    pools := s.pools.filter fun label p => isKept desired label p
    dns := s.dns.filter fun record => !stale record.pool }

/-- The store with one more pool, all free, unless there is a pool under the label. -/
def install (tokens : Pool.TokenSource) (s : Store) (pool : String × String × List Address) :
    Except StoreError Store :=
  let (label, range, addresses) := pool
  if s.hasPool label then .ok s
  else do
    let p ← Pool.fresh range addresses fun i => tokens (s.drawn + i)
    return { s.setPool label p with drawn := s.drawn + addresses.length }

/-- Adjusts the pools to a configuration.  A pool with the same range text stays untouched; any
other pool loses its rows and DNS records, and every configured label without a pool gets a free
one. -/
def sync (tokens : Pool.TokenSource) (s : Store) (desired : Table String) :
    Except StoreError (SyncReport × Store) :=
  match expandAll desired with
  | .error cause => .error (.range cause)
  | .ok pools => do
    return (s.reportOf desired, ← pools.foldlM (install tokens) (s.dropStale desired))

end Store

end Ipam
