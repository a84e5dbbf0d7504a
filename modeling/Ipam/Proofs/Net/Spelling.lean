import Ipam.Proofs.Net.Notation
import Ipam.Proofs.Text.Pieces

/-!
# How addresses and networks may be written

* **`Address.parseQuad?_eq_some_iff`** — an address is read from its dotted quad only.
* `Address.Spells` — the dotted quads of an address with leading zeros;
  `Address.parseOctets?_looseOctet?_eq_some_iff`.
* `Network.Spells` — an address with a mask length; **`Network.parseMasked?_eq_some_iff`**.

A plain address has one text.  With a mask length behind it, it has several: every octet may be filled
up with zeros to three digits, and the length to two.
-/

namespace Ipam

open Text

namespace Address

variable {cs : List Char} {a : Address} {n : Nat}

/-! ## Octets -/

lemma looseOctet?_eq_some_iff : looseOctet? cs = some n ↔ n < 256 ∧ Numeral 3 cs n := by
  rw [looseOctet?]
  constructor
  · intro h
    split_ifs at h with hlength
    · cases h
    · obtain ⟨m, hread, hm⟩ := Option.bind_eq_some_iff.1 h
      split_ifs at hm with hlt
      cases hm
      exact ⟨hlt, Nat.le_of_not_lt hlength, natOfDigits?_eq_some_iff.1 hread⟩
  · rintro ⟨hlt, hlength, hzeros⟩
    rw [if_neg (Nat.not_lt.2 hlength), natOfDigits?_eq_some_iff.2 hzeros]
    exact if_pos hlt

/-- An octet without leading zeros is read from its digits only. -/
lemma octet?_eq_some_iff : octet? cs = some n ↔ n < 256 ∧ cs = digits n := by
  constructor
  · intro h
    rw [octet?] at h
    split_ifs at h with hzero
    · cases h
    · obtain ⟨hlt, -, count, rfl⟩ := looseOctet?_eq_some_iff.1 h
      refine ⟨hlt, ?_⟩
      cases count with
      | zero => rfl
      | succ count =>
          have hpos := List.length_pos_iff.2 (digits_ne_nil n)
          exact absurd ⟨rfl, by simp; omega⟩ hzero
  · rintro ⟨hlt, rfl⟩
    exact octet?_digits hlt

/-! ## Dotted quads -/

lemma octets_ofOctets {w x y z : Nat} (hw : w < 256) (hx : x < 256) (hy : y < 256) (hz : z < 256) :
    (ofOctets w x y z).octets = [w, x, y, z] := by
  simp only [octets, ofOctets, toNat_ofNat, Nat.shiftRight_eq_div_pow, List.cons.injEq, and_true]
  omega

/-- Four octets between dots are the octets of the address that is read. -/
lemma parseOctets?_eq_some_iff {octet : List Char → Option Nat} {Written : List Char → Nat → Prop}
    (h : ∀ cs n, octet cs = some n ↔ n < 256 ∧ Written cs n) :
    parseOctets? octet cs = some a ↔
      ∃ texts, Cuts '.' cs texts ∧ List.Forall₂ Written texts a.octets := by
  constructor
  · intro hread
    rw [parseOctets?] at hread
    split at hread
    · rename_i w x y z hsplit
      simp only [Option.bind_eq_bind, Option.bind_eq_some_iff, h] at hread
      obtain ⟨nw, ⟨hw, hw'⟩, nx, ⟨hx, hx'⟩, ny, ⟨hy, hy'⟩, nz, ⟨hz, hz'⟩, haddress⟩ := hread
      obtain rfl := Option.some.inj haddress
      refine ⟨_, splitOn_eq_iff.1 hsplit, ?_⟩
      rw [octets_ofOctets hw hx hy hz]
      exact .cons hw' (.cons hx' (.cons hy' (.cons hz' .nil)))
    · cases hread
  · rintro ⟨texts, hcuts, hwritten⟩
    have hlt := a.octets_lt
    rw [octets] at hwritten
    simp only [octets, List.forall_mem_cons] at hlt
    obtain ⟨hw, hx, hy, hz, -⟩ := hlt
    rcases hwritten with _ | ⟨hw', _ | ⟨hx', _ | ⟨hy', _ | ⟨hz', ⟨⟩⟩⟩⟩⟩
    rw [parseOctets?, hcuts.splitOn_eq]
    simp [(h _ _).2 ⟨hw, hw'⟩, (h _ _).2 ⟨hx, hx'⟩, (h _ _).2 ⟨hy, hy'⟩, (h _ _).2 ⟨hz, hz'⟩,
      ofOctets_octets]

/-- **An address without mask is read from its dotted quad only.** -/
theorem parseQuad?_eq_some_iff : parseQuad? cs = some a ↔ cs = a.quad := by
  constructor
  · intro h
    obtain ⟨texts, hcuts, hwritten⟩ := (parseOctets?_eq_some_iff fun _ _ => octet?_eq_some_iff).1 h
    have htexts : texts = a.octets.map digits := by
      rw [← List.forall₂_eq_eq_eq, List.forall₂_map_right_iff]
      exact hwritten
    rw [quad, ← htexts, hcuts.joined]
  · rintro rfl
    exact a.parseQuad?_quad

/-- A dotted quad of an address, each octet of which may be filled up with zeros to three digits. -/
def Spells (cs : List Char) (a : Address) : Prop :=
  ∃ octets, Cuts '.' cs octets ∧ List.Forall₂ (Numeral 3) octets a.octets

lemma parseOctets?_looseOctet?_eq_some_iff :
    parseOctets? looseOctet? cs = some a ↔ Spells cs a :=
  parseOctets?_eq_some_iff fun _ _ => looseOctet?_eq_some_iff

lemma Spells.mem (h : Spells cs a) {c : Char} (hc : c ∈ cs) : c.isDigit = true ∨ c = '.' := by
  obtain ⟨texts, hcuts, hwritten⟩ := h
  have hdigits : ∀ text ∈ texts, ∀ c ∈ text, c.isDigit = true := by
    have hboth := hwritten.imp fun text n hnumeral => And.intro hnumeral.isDigit hnumeral
    exact ((List.forall₂_and_left _ _).1 hboth).1
  rcases mem_splitOn '.' hc with rfl | ⟨text, htext, hmem⟩
  · exact .inr rfl
  · rw [hcuts.splitOn_eq] at htext
    exact .inl (hdigits text htext c hmem)

lemma Spells.slash_notMem (h : Spells cs a) : '/' ∉ cs := by
  intro hc
  rcases h.mem hc with hdigit | heq
  · exact absurd hdigit (by decide)
  · exact absurd heq (by decide)

end Address

namespace Network

variable {cs : List Char} {a : Address} {length : Fin 33}

/-! ## Mask lengths -/

lemma length?_eq_some_iff : length? cs = some length ↔ Numeral 2 cs length.val := by
  rw [length?]
  constructor
  · intro h
    split_ifs at h with hlong
    · cases h
    · obtain ⟨n, hread, hn⟩ := Option.bind_eq_some_iff.1 h
      split_ifs at hn with hlt
      cases hn
      exact ⟨Nat.le_of_not_lt hlong, natOfDigits?_eq_some_iff.1 hread⟩
  · rintro ⟨hlong, hzeros⟩
    rw [if_neg (Nat.not_lt.2 hlong), natOfDigits?_eq_some_iff.2 hzeros]
    exact dif_pos length.isLt

/-- An address with a mask length, both with leading zeros allowed. -/
def Spells (cs : List Char) (a : Address) (length : Fin 33) : Prop :=
  ∃ quad bits, cs = quad ++ '/' :: bits ∧ Address.Spells quad a ∧ Numeral 2 bits length.val

lemma Spells.slash_mem (h : Spells cs a length) : '/' ∈ cs := by
  obtain ⟨quad, bits, rfl, -, -⟩ := h
  simp

/-- **An address with a mask length is read from all texts that spell it.** -/
theorem parseMasked?_eq_some_iff : parseMasked? cs = some (a, length) ↔ Spells cs a length := by
  simp only [parseMasked?, Option.bind_eq_bind, Option.bind_eq_some_iff, Prod.exists,
    splitOnce_eq_some_iff, Address.parseOctets?_looseOctet?_eq_some_iff, length?_eq_some_iff]
  constructor
  · rintro ⟨quad, bits, ⟨-, rfl⟩, b, hquad, length', hbits, hpair⟩
    cases hpair
    exact ⟨quad, bits, rfl, hquad, hbits⟩
  · rintro ⟨quad, bits, rfl, hquad, hbits⟩
    exact ⟨quad, bits, ⟨hquad.slash_notMem, rfl⟩, a, hquad, length, hbits, rfl⟩

end Network

end Ipam
