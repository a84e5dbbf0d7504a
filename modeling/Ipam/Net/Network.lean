import Ipam.Net.Address

/-!
# IPv4 networks

* `Network` — a base address and a mask length.
* `Network.containing` — the network of a given length around an address, host bits cleared.
* `Network.parseMasked?` — reads `a.b.c.d/n` as an address with a mask length.
* `Network.parse?` — reads `a.b.c.d/n` as the network it names.
* `Network.contains`, `Network.first`, `Network.last`, `Network.isHost`.

Octets in this notation may have leading zeros up to three digits, and the length up to two.
-/

namespace Ipam

open Text

/-- A block of addresses that share their leading `length` bits with `base`. -/
structure Network where
  /-- An address of the block; of a network built by `containing` the first one. -/
  base : Address
  /-- The number of leading bits that the addresses share. -/
  length : Fin 33
deriving DecidableEq, Inhabited

namespace Network

/-! ## Masks -/

/-- The word with `length` ones on top. -/
def mask (length : Fin 33) : BitVec 32 :=
  BitVec.allOnes 32 <<< (32 - length.val)

/-- The network of the given length around an address. -/
def containing (a : Address) (length : Fin 33) : Network :=
  ⟨⟨a.bits &&& mask length⟩, length⟩

/-- The lowest address. -/
def first (n : Network) : Address :=
  ⟨n.base.bits &&& mask n.length⟩

/-- The highest address. -/
def last (n : Network) : Address :=
  ⟨n.base.bits ||| ~~~(mask n.length)⟩

/-- Whether an address has the leading bits of the network. -/
def contains (n : Network) (a : Address) : Bool :=
  a.bits &&& mask n.length == n.base.bits &&& mask n.length

/-! ## Hosts -/

/-- The number of addresses between the first and the last one, both excluded. -/
def hostCount (n : Network) : Nat :=
  (1 <<< (32 - n.length.val)) - 2

/-- The host at a position, counted from the address after the first one. -/
def host (n : Network) (i : Nat) : Address :=
  .ofNat (n.first.toNat + 1 + i)

/-- Whether an address is in the network and is neither its first nor its last one. -/
def isHost (n : Network) (a : Address) : Bool :=
  n.contains a && a != n.first && a != n.last

/-! ## Texts -/

/-- The network in the notation `a.b.c.d/n`. -/
protected def toString (n : Network) : String :=
  s!"{n.base}/{n.length.val}"

instance : ToString Network := ⟨Network.toString⟩

/-- A mask length of at most two digits. -/
def length? (cs : List Char) : Option (Fin 33) := do
  if 2 < cs.length then none
  let n ← natOfDigits? cs
  if h : n < 33 then some ⟨n, h⟩ else none

/-- Reads `a.b.c.d/n` as an address with a mask length. -/
def parseMasked? (cs : List Char) : Option (Address × Fin 33) := do
  let (quad, bits) ← splitOnce '/' cs
  return (← Address.parseOctets? Address.looseOctet? quad, ← length? bits)

/-- Reads `a.b.c.d/n` as a network, without white space. -/
def parseExact? (cs : List Char) : Option Network :=
  (parseMasked? cs).map fun (a, length) => containing a length

/-- Reads `a.b.c.d/n` as a network, with white space around it allowed. -/
def parse? (s : String) : Option Network :=
  parseExact? (trim s.toList)

end Network

end Ipam
