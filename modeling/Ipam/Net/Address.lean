import Ipam.Text.Blank
import Ipam.Text.Split
import Ipam.Text.Decimal

/-!
# IPv4 addresses

* `Address` — the 32 bits of an IPv4 address.
* `Address.toString` — its dotted quad.
* `Address.parseQuad?` — reads exactly the dotted quad: four decimal octets without leading zeros.
* `Address.parse?` — the same with white space around the quad allowed.
-/

namespace Ipam

open Text

/-- An IPv4 address. -/
structure Address where
  /-- The address as a word, first octet on top. -/
  bits : BitVec 32
deriving DecidableEq, Inhabited

namespace Address

/-! ## Numbers and octets -/

/-- The position of an address in the numeric order of all addresses. -/
def toNat (a : Address) : Nat :=
  a.bits.toNat

/-- The address at a position of the numeric order, counted modulo 2³². -/
def ofNat (n : Nat) : Address :=
  ⟨BitVec.ofNat 32 n⟩

instance : LT Address := ⟨fun a b => a.toNat < b.toNat⟩
instance : LE Address := ⟨fun a b => a.toNat ≤ b.toNat⟩
instance (a b : Address) : Decidable (a < b) := inferInstanceAs (Decidable (a.toNat < b.toNat))
instance (a b : Address) : Decidable (a ≤ b) := inferInstanceAs (Decidable (a.toNat ≤ b.toNat))

/-- The address with the given octets, first octet first. -/
def ofOctets (a b c d : Nat) : Address :=
  ofNat (((a * 256 + b) * 256 + c) * 256 + d)

/-- The four octets, first octet first. -/
def octets (a : Address) : List Nat :=
  [a.toNat >>> 24, (a.toNat >>> 16) % 256, (a.toNat >>> 8) % 256, a.toNat % 256]

/-! ## Writing -/

/-- The dotted quad of an address, as characters. -/
def quad (a : Address) : List Char :=
  List.intercalate ['.'] (a.octets.map digits)

/-- The dotted quad of an address. -/
protected def toString (a : Address) : String :=
  String.ofList a.quad

instance : ToString Address := ⟨Address.toString⟩

/-! ## Reading -/

/-- An octet of at most three digits, leading zeros allowed. -/
def looseOctet? (cs : List Char) : Option Nat := do
  if 3 < cs.length then none
  let n ← natOfDigits? cs
  if n < 256 then some n else none

/-- An octet as it is printed: at most three digits and no leading zero. -/
def octet? (cs : List Char) : Option Nat := do
  if cs.head? = some '0' ∧ 1 < cs.length then none
  looseOctet? cs

/-- Four octets between dots, each read by `octet`. -/
def parseOctets? (octet : List Char → Option Nat) (cs : List Char) : Option Address :=
  match splitOn '.' cs with
  | [a, b, c, d] => do return ofOctets (← octet a) (← octet b) (← octet c) (← octet d)
  | _ => none

/-- Reads a dotted quad as it is printed. -/
def parseQuad? (cs : List Char) : Option Address :=
  parseOctets? octet? cs

/-- Reads a dotted quad with white space around it. -/
def parse? (s : String) : Option Address :=
  parseQuad? (trim s.toList)

/-! ## Laws -/

theorem ext {a b : Address} (h : a.toNat = b.toNat) : a = b := by
  cases a
  cases b
  exact congrArg mk (BitVec.eq_of_toNat_eq h)

@[simp] theorem toNat_ofNat (n : Nat) : (ofNat n).toNat = n % 4294967296 := by
  simp [toNat, ofNat]

@[simp] theorem ofNat_toNat (a : Address) : ofNat a.toNat = a := by
  cases a
  simp [toNat, ofNat]

theorem toNat_lt (a : Address) : a.toNat < 4294967296 :=
  a.bits.isLt

end Address

end Ipam
