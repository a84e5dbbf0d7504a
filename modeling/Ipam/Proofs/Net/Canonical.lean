import Ipam.Proofs.Net.Hosts
import Ipam.Proofs.Net.Spelling

/-!
# Canonical addresses and networks

Addresses are compared as texts in many places, and networks by their printed form.  That is sound
because an address has one text, up to white space around it, and because a network that has been
read keeps no bits of the address that it was written with.

* `Address.parse?_eq_some_iff`, `Network.parse?_eq_some_iff` — the texts of an address, and of a
  network.
* `Network.getMsbD_mask` — the bits of a mask, from which all that is said of leading bits follows.
* `Network.contains_iff_agree`, `Network.contains_iff_between` — membership by leading bits, and by
  the order of addresses.
* `Network.IsBlock` — what a network is that has been read.
* **`texts_canonical`** — texts denote addresses and networks without ambiguity.

Bits are counted from the top, as mask lengths are.
-/

namespace Ipam

open Text

namespace Address

variable {text other : String} {a b : Address}

/-- What is read as an address is its dotted quad, with white space around it. -/
lemma parse?_eq_some_iff : parse? text = some a ↔ trimmed text = toString a := by
  rw [parse?, parseQuad?_eq_some_iff, ← toList_toString, trimmed, ← String.toList_inj,
    String.toList_ofList]

lemma eq_iff_of_parse? (ha : parse? text = some a) (hb : parse? other = some b) :
    a = b ↔ trimmed text = trimmed other := by
  rw [parse?_eq_some_iff.1 ha, parse?_eq_some_iff.1 hb]
  exact toString_injective.eq_iff.symm

end Address

namespace Network

variable {text : String} {n : Network} {a : Address} {length : Fin 33} {i : Nat}

/-! ## Leading bits -/

lemma getMsbD_mask : (mask length).getMsbD i = decide (i < length.val) := by
  have hlength := length.isLt
  rw [mask, BitVec.getMsbD_shiftLeft, BitVec.getMsbD_allOnes]
  exact decide_eq_decide.2 (by omega)

/-- A mask keeps the leading bits and clears the others. -/
lemma getMsbD_and_mask (x : BitVec 32) :
    (x &&& mask length).getMsbD i = (x.getMsbD i && decide (i < length.val)) := by
  rw [BitVec.getMsbD_and, getMsbD_mask]

/-- A network without host bits has no bit behind its length. -/
lemma Canonical.getMsbD_eq_false (h : n.Canonical) (hi : n.length.val ≤ i) :
    n.base.bits.getMsbD i = false := by
  rw [← h, getMsbD_and_mask, decide_eq_false (Nat.not_lt.2 hi), Bool.and_false]

lemma and_mask_eq_iff {x y : BitVec 32} :
    x &&& mask length = y &&& mask length ↔ ∀ i < length.val, x.getMsbD i = y.getMsbD i := by
  constructor
  · intro h i hi
    have hbit := congrArg (BitVec.getMsbD · i) h
    simpa only [getMsbD_and_mask, hi, decide_true, Bool.and_true] using hbit
  · intro h
    refine BitVec.eq_of_getMsbD_eq fun i _ => ?_
    rw [getMsbD_and_mask, getMsbD_and_mask]
    by_cases hi : i < length.val
    · rw [h i hi]
    · rw [decide_eq_false hi, Bool.and_false, Bool.and_false]

/-- A network has the addresses that agree with its base on the leading bits. -/
lemma contains_iff_agree : n.contains a = true ↔
    ∀ i < n.length.val, a.bits.getMsbD i = n.base.bits.getMsbD i := by
  rw [contains, beq_iff_eq, and_mask_eq_iff]

/-- The network around an address has the addresses that agree with it on the leading bits. -/
lemma contains_containing_iff {b : Address} : (containing a length).contains b = true ↔
    ∀ i < length.val, b.bits.getMsbD i = a.bits.getMsbD i := by
  rw [contains, containing, BitVec.and_assoc, BitVec.and_self, beq_iff_eq, and_mask_eq_iff]

/-- A network has the addresses from its first to its last one. -/
lemma contains_iff_between : n.contains a = true ↔ n.first ≤ a ∧ a ≤ n.last := by
  have hlast := n.toNat_last
  rw [contains_iff, Address.le_iff, Address.le_iff]
  omega

/-! ## Texts -/

/-- What is read as a network spells an address with a mask length, and the host bits of the address
are cleared. -/
lemma parse?_eq_some_iff : parse? text = some n ↔
    ∃ a length, Spells (trim text.toList) a length ∧ containing a length = n := by
  simp only [parse?, parseExact?, Option.map_eq_some_iff, Prod.exists, parseMasked?_eq_some_iff]

lemma canonical_of_parse? (h : parse? text = some n) : n.Canonical := by
  obtain ⟨a, length, -, rfl⟩ := parse?_eq_some_iff.1 h
  exact canonical_containing a length

/-- An address with any mask length names the network around it. -/
lemma parse?_masked (a : Address) (length : Fin 33) :
    parse? s!"{a}/{length.val}" = some (containing a length) := by
  have htext : s!"{a}/{length.val}" = toString (⟨a, length⟩ : Network) := rfl
  rw [htext, parse?, trim_of_visible (toString_visible _), toList_toString, parseExact?,
    parseMasked?_append]
  rfl

/-- A network as it is when it has been read. -/
structure IsBlock (n : Network) : Prop where
  /-- The base has no host bits. -/
  clear : ∀ i, n.length.val ≤ i → n.base.bits.getMsbD i = false
  /-- The network is read back from its printed form. -/
  reread : parse? (toString n) = some n
  /-- The addresses are those that agree with the base on the leading bits. -/
  agree : ∀ a, n.contains a = true ↔ ∀ i < n.length.val, a.bits.getMsbD i = n.base.bits.getMsbD i
  /-- The addresses are those from the first to the last one. -/
  between : ∀ a, n.contains a = true ↔ n.first ≤ a ∧ a ≤ n.last

lemma isBlock_of_parse? (h : parse? text = some n) : n.IsBlock where
  clear _ hi := (canonical_of_parse? h).getMsbD_eq_false hi
  reread := parse?_toString (canonical_of_parse? h)
  agree _ := contains_iff_agree
  between _ := contains_iff_between

end Network

/-! ## Both notations -/

/-- Texts denote addresses and networks without ambiguity. -/
structure CanonicalTexts : Prop where
  /-- An address is read back from its dotted quad. -/
  address_reread : ∀ a : Address, Address.parse? (toString a) = some a
  /-- Nothing but the dotted quad of an address, with white space around it, is read as it. -/
  address_iff : ∀ text a, Address.parse? text = some a ↔ trimmed text = toString a
  /-- Texts that are read denote one address exactly if they differ in white space only. -/
  address_eq_iff : ∀ text other a b, Address.parse? text = some a →
    Address.parse? other = some b → (a = b ↔ trimmed text = trimmed other)
  /-- Nothing but an address with a mask length, each number perhaps filled up with zeros and all with
  white space around it, is read as the network around that address. -/
  network_iff : ∀ text n, Network.parse? text = some n ↔
    ∃ a length, Network.Spells (trim text.toList) a length ∧ Network.containing a length = n
  /-- Every address with every mask length is read as a network. -/
  network_masked : ∀ (a : Address) (length : Fin 33),
    Network.parse? s!"{a}/{length.val}" = some (.containing a length)
  /-- It has the addresses that agree with the given one on the leading bits. -/
  network_contains : ∀ (a b : Address) (length : Fin 33),
    (Network.containing a length).contains b = true ↔
      ∀ i < length.val, b.bits.getMsbD i = a.bits.getMsbD i
  /-- Whatever its text was, a network that is read has no host bits and is read back from its
  printed form, and its addresses are given by its leading bits as well as by its ends. -/
  network_isBlock : ∀ text n, Network.parse? text = some n → n.IsBlock

/-- **The texts of addresses and networks are canonical.** -/
theorem texts_canonical : CanonicalTexts where
  address_reread := Address.parse?_toString
  address_iff _ _ := Address.parse?_eq_some_iff
  address_eq_iff _ _ _ _ := Address.eq_iff_of_parse?
  network_iff _ _ := Network.parse?_eq_some_iff
  network_masked := Network.parse?_masked
  network_contains _ _ _ := Network.contains_containing_iff
  network_isBlock _ _ := Network.isBlock_of_parse?

/-- Near misses of an address. -/
example : ["10.0.0.01", "10.0.0.256", "10.0.0", "10.0.0.1.", "10.0.0.1/32", "::1", ""].filterMap
    Address.parse? = [] := by decide

end Ipam
