import Ipam.Net.Address
import Ipam.Text.Percent

/-!
# Socket addresses

The address and port on which the probes are served.

* `Address6` — an IPv6 address as eight groups, and `Address6.toString`, its shortest text.
* `SocketAddress` — an IPv4 or IPv6 address with a port.
* `SocketAddress.parse?` — reads `a.b.c.d:port` and `[address]:port`.
-/

namespace Ipam

open Text

/-! ## IPv6 addresses -/

/-- An IPv6 address. -/
structure Address6 where
  /-- The eight groups of sixteen bits, first group first. -/
  groups : List Nat
deriving DecidableEq

namespace Address6

/-- A number between separators. -/
def group? (cs : List Char) : Option (Nat × List Char) := do
  let ds := cs.takeWhile fun c => (hexValue? c).isSome
  if ds.isEmpty ∨ 4 < ds.length then none
  let n := ds.foldl (fun n c => 16 * n + (hexValue? c).getD 0) 0
  return (n, cs.drop ds.length)

/-- An octet as it is printed, at the start of a text. -/
def octet? (cs : List Char) : Option (Nat × List Char) := do
  let ds := cs.takeWhile isDigit
  return (← Address.octet? ds, cs.drop ds.length)

/-- The text after a given character. -/
def mark? (c : Char) (cs : List Char) : Option (List Char) :=
  stripStart? c cs

/-- A dotted quad at the start of a text, as two groups. -/
def quad? (cs : List Char) : Option (List Nat × List Char) := do
  let (a, cs) ← octet? cs
  let (b, cs) ← octet? (← mark? '.' cs)
  let (c, cs) ← octet? (← mark? '.' cs)
  let (d, cs) ← octet? (← mark? '.' cs)
  return ([256 * a + b, 256 * c + d], cs)

/-- Groups between colons, at most `room` of them, as far as they go; the flag says whether the last
two were written as a dotted quad, after which no group may follow. -/
def takeGroups (leading : Bool) : (room : Nat) → List Char → List Nat × Bool × List Char
  | 0, cs => ([], false, cs)
  | room + 1, cs =>
    match if leading then some cs else mark? ':' cs with
    | none => ([], false, cs)
    | some rest =>
      match if room = 0 then none else quad? rest with
      | some (groups, rest) => (groups, true, rest)
      | none =>
        match group? rest with
        | none => ([], false, cs)
        | some (n, rest) =>
          let (groups, quad, rest) := takeGroups false room rest
          (n :: groups, quad, rest)

/-- An address at the start of a text.  A double colon stands for at least one group of zeros. -/
def take? (cs : List Char) : Option (Address6 × List Char) := do
  let (front, quad, cs) := takeGroups true 8 cs
  if front.length = 8 then return (⟨front⟩, cs)
  if quad then none
  let cs ← mark? ':' (← mark? ':' cs)
  let (back, _, cs) := takeGroups true (7 - front.length) cs
  return (⟨front ++ List.replicate (8 - front.length - back.length) 0 ++ back⟩, cs)

/-- Groups with colons between them. -/
def joinGroups (groups : List Nat) : List Char :=
  List.intercalate [':'] (groups.map (Nat.toDigits 16))

/-- The number of zeros at the start of some groups. -/
def zeros (groups : List Nat) : Nat :=
  (groups.takeWhile (· = 0)).length

/-- Where the longest run of zeros starts, the first one of several, and how long it is. -/
def longestZeros (groups : List Nat) : Nat × Nat :=
  (List.range groups.length).foldl
    (fun best i => if best.2 < zeros (groups.drop i) then (i, zeros (groups.drop i)) else best)
    (0, 0)

/-- The text of an address: groups without leading zeros, the longest run of at least two zeros left
out, and an IPv4 address that is mapped into IPv6 as a dotted quad. -/
protected def toString (a : Address6) : String :=
  match a.groups with
  | [0, 0, 0, 0, 0, 0xffff, high, low] => s!"::ffff:{Address.ofNat (high * 65536 + low)}"
  | groups =>
    let (start, length) := longestZeros groups
    String.ofList <|
      if 1 < length then
        joinGroups (groups.take start) ++ ':' :: ':' :: joinGroups (groups.drop (start + length))
      else
        joinGroups groups

instance : ToString Address6 := ⟨Address6.toString⟩

end Address6

/-! ## Addresses with ports -/

/-- An address with a port. -/
inductive SocketAddress where
  | v4 (address : Address) (port : Nat)
  /-- An IPv6 address; the scope is zero when none is given. -/
  | v6 (address : Address6) (scope port : Nat)
deriving DecidableEq

namespace SocketAddress

/-- A decimal number below a bound; it may have leading zeros. -/
def numberBelow? (bound : Nat) (cs : List Char) : Option Nat :=
  (natOfDigits? cs).filter (· < bound)

/-- A port. -/
def port? : List Char → Option Nat :=
  numberBelow? 65536

/-- Reads `a.b.c.d:port`. -/
def parse4? (cs : List Char) : Option SocketAddress := do
  let (quad, port) ← splitOnce ':' cs
  return .v4 (← Address.parseQuad? quad) (← port? port)

/-- The scope after an address and a percent sign, when there is one. -/
def scope? : List Char → Option Nat
  | [] => some 0
  | '%' :: cs => numberBelow? 4294967296 cs
  | _ => none

/-- Reads `[address]:port` and `[address%scope]:port`. -/
def parse6? (cs : List Char) : Option SocketAddress := do
  let (host, port) ← splitOnce ']' (← stripStart? '[' cs)
  let (address, scope) ← Address6.take? host
  return .v6 address (← scope? scope) (← port? (← stripStart? ':' port))

/-- Reads an address with a port. -/
def parse? (s : String) : Option SocketAddress :=
  parse4? s.toList <|> parse6? s.toList

/-- The text of an address with a port. -/
protected def toString : SocketAddress → String
  | .v4 address port => s!"{address}:{port}"
  | .v6 address 0 port => s!"[{address}]:{port}"
  | .v6 address scope port => s!"[{address}%{scope}]:{port}"

instance : ToString SocketAddress := ⟨SocketAddress.toString⟩

end SocketAddress

end Ipam
