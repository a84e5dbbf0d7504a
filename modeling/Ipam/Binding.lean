import Ipam.Text.Blank

/-!
# Bindings

A binding ties a host name or an opaque key to an address of a pool.  A user asks for one with a
`Request`; the controller keeps a `Record` of it together with the address that it gave out.

* `Request.pool`, `Record.pool` — the pool of a binding: its label, or else its network.
* `BindingKey` — what identifies a binding, with empty texts read as absent.
* `BindingKey.compare` — the order of keys: host, then key, then pool.
-/

namespace Ipam

open Text (nonEmpty)

/-- A binding that a user asks for. -/
structure Request where
  /-- The DNS host name. -/
  host : Option String := none
  /-- The opaque key of a binding without DNS record. -/
  key : Option String := none
  /-- The pool, named by a network. -/
  cidr : Option String := none
  /-- The pool, named by its label. -/
  label : Option String := none
deriving DecidableEq

/-- A binding that was given an address. -/
structure Record extends Request where
  /-- The text of the address. -/
  ip : String := ""
deriving DecidableEq

/-- The identity of a binding. -/
structure BindingKey where
  /-- The host name, not empty. -/
  host : Option String
  /-- The opaque key, not empty. -/
  key : Option String
  /-- The pool, not empty. -/
  pool : Option String
deriving DecidableEq

/-- The identity of the binding with the given parts. -/
def BindingKey.of (host key pool : Option String) : BindingKey :=
  ⟨nonEmpty host, nonEmpty key, nonEmpty pool⟩

/-- The pool that a binding is requested from: the label when there is one, otherwise the network.
-/
def Request.pool (r : Request) : Option String :=
  nonEmpty r.label <|> nonEmpty r.cidr

/-- The identity of a requested binding. -/
def Request.bindingKey (r : Request) : BindingKey :=
  .of r.host r.key r.pool

/-- Whether a binding has a host name or a key. -/
def Request.isIdentified (r : Request) : Bool :=
  (nonEmpty r.host).isSome || (nonEmpty r.key).isSome

namespace BindingKey

/-! ## Order -/

/-- Absent before present, and texts by their code points. -/
def compareText : Option String → Option String → Ordering
  | none, none => .eq
  | none, some _ => .lt
  | some _, none => .gt
  | some a, some b => compareOfLessAndEq a b

/-- Host, key and pool in turn. -/
def compare (a b : BindingKey) : Ordering :=
  (compareText a.host b.host).then <|
    (compareText a.key b.key).then (compareText a.pool b.pool)

/-- Whether a binding has all that an allocation needs: a pool, and a host name or a key. -/
def isComplete (k : BindingKey) : Bool :=
  k.pool.isSome && (k.host.isSome || k.key.isSome)

end BindingKey

end Ipam
