import Ipam.Net.Network

/-!
# Address ranges

A pool is configured with a text such as `10.1.0.1/24-10.1.0.50/24,10.1.0.100/24-10.1.0.120/24`:
parts between commas, each from a first to a last address, both included.  Both ends of a part may
carry a mask length; then they carry the same one and lie in one network.

* `Range` — one part, and `Range.addresses`, what it covers.
* `Range.parse` — the parts of a text, or the fault of its first faulty part.
* `Range.expand` — the distinct addresses of a text, lowest first, of a pool that is not too large.
* `RangeError` — what can be wrong with a text.
-/

namespace Ipam

open Text

/-- What is wrong with the text of a range. -/
inductive RangeError where
  /-- A piece that is not of the form of a part, or a text without parts. -/
  | malformed (text : String)
  /-- An end that is not an address. -/
  | badAddress (text : String)
  /-- The ends are in the wrong order. -/
  | reversed (start stop : Address)
  /-- One end has a mask and the other none, or the masks differ. -/
  | maskMismatch (text : String)
  /-- The second end is not in the network of the first. -/
  | outsideNetwork (address : Address) (network : Network)
  /-- The parts cover more addresses than a pool may hold. -/
  | tooLarge (text : String) (size : Nat)
deriving DecidableEq

/-- The number of addresses that a pool may hold. -/
def maxPoolSize : Nat :=
  65536

/-- The wording of a fault. -/
def RangeError.message : RangeError → String
  | .malformed text => s!"Invalid address range '{text}'"
  | .badAddress text => s!"Invalid IPv4 address '{text}'"
  | .reversed start stop => s!"Range start {start} is after range end {stop}"
  | .maskMismatch text =>
    s!"Mask mismatch in range '{text}': both endpoints must share one mask"
  | .outsideNetwork address network => s!"Address {address} is outside network {network}"
  | .tooLarge text size =>
    s!"Range '{text}' expands to {size} addresses, more than {maxPoolSize}"

/-- One part of a range text. -/
structure Range where
  /-- The lowest address. -/
  start : Address
  /-- The highest address. -/
  stop : Address
  /-- The network that the part was qualified with. -/
  network : Option Network
deriving DecidableEq

namespace Range

/-! ## What a part covers -/

/-- The number of addresses, both ends included. -/
def size (r : Range) : Nat :=
  r.stop.toNat - r.start.toNat + 1

/-- The sizes of some parts, added up. -/
def totalSize : List Range → Nat
  | [] => 0
  | r :: rest => r.size + totalSize rest

/-- The addresses, lowest first. -/
def addresses (r : Range) : List Address :=
  (List.range r.size).map fun i => .ofNat (r.start.toNat + i)

/-! ## Reading -/

/-- An end of a part: an address, with or without a mask length. -/
def parseEndpoint (cs : List Char) : Except RangeError (Address × Option (Fin 33)) :=
  if '/' ∈ cs then
    match Network.parseMasked? cs with
    | some (address, length) => .ok (address, some length)
    | none => .error (.malformed (String.ofList cs))
  else
    match Address.parseQuad? cs with
    | some address => .ok (address, none)
    | none => .error (.badAddress (String.ofList cs))

/-- The part between two ends.  `text` is the part as it was written. -/
def between (text : List Char) (start stop : Address × Option (Fin 33)) :
    Except RangeError Range :=
  if stop.1 < start.1 then
    .error (.reversed start.1 stop.1)
  else
    match start.2, stop.2 with
    | none, none => .ok ⟨start.1, stop.1, none⟩
    | some length, some other =>
      if length = other then
        let network := Network.containing start.1 length
        if network.contains stop.1 then
          .ok ⟨start.1, stop.1, some network⟩
        else
          .error (.outsideNetwork stop.1 network)
      else
        .error (.maskMismatch (String.ofList text))
    | _, _ => .error (.maskMismatch (String.ofList text))

/-- Reads one part, without white space around it. -/
def parsePart (text : List Char) : Except RangeError Range :=
  match splitOnce '-' text with
  | none => .error (.malformed (String.ofList text))
  | some (start, stop) => do
    let start ← parseEndpoint (trim start)
    let stop ← parseEndpoint (trim stop)
    between text start stop

/-- The pieces of a range text that are not blank, without white space around them. -/
def pieces (text : String) : List (List Char) :=
  ((splitOn ',' text.toList).map trim).filter (· ≠ [])

/-- Reads the parts of a range text. -/
def parse (text : String) : Except RangeError (List Range) := do
  let ranges ← (pieces text).mapM parsePart
  if ranges.isEmpty then .error (.malformed text) else .ok ranges

/-! ## Expanding -/

/-- A list without the elements that equal their successor. -/
def dropRepeats : List Address → List Address
  | a :: b :: rest => if a = b then dropRepeats (b :: rest) else a :: dropRepeats (b :: rest)
  | as => as

/-- The distinct addresses of some parts, lowest first. -/
def union (ranges : List Range) : List Address :=
  dropRepeats ((ranges.flatMap addresses).mergeSort fun a b => a ≤ b)

/-- The distinct addresses of a range text, lowest first.  The sizes of the parts are added up
before anything is expanded, so a text of huge parts costs nothing. -/
def expand (text : String) : Except RangeError (List Address) := do
  let ranges ← parse text
  let total := totalSize ranges
  if maxPoolSize < total then .error (.tooLarge text total) else .ok (union ranges)

/-! ## Writing -/

/-- The text of one part. -/
protected def toString (r : Range) : String :=
  match r.network with
  | none => s!"{r.start}-{r.stop}"
  | some network => s!"{r.start}/{network.length.val}-{r.stop}/{network.length.val}"

instance : ToString Range := ⟨Range.toString⟩

/-- The text of several parts. -/
def render (ranges : List Range) : String :=
  ",".intercalate (ranges.map Range.toString)

end Range

end Ipam
