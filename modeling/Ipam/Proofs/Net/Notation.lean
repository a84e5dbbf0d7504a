import Ipam.Net.Network
import Ipam.Proofs.Text

/-!
# Addresses and networks as texts

* **`Address.parse?_toString`** — an address is read back from its dotted quad, so different
  addresses have different texts.
* **`Network.parseExact?_toString`** — a network without host bits is read back from its text.
* `Network.parse?_of_parseExact?` — a network that is read exactly is read the same where white space
  is allowed.

Both notations are made of digits, dots and a slash, so white space and the other separators of
range texts never occur in them.
-/

namespace Ipam

open Text

namespace Address

/-! ## Octets -/

lemma octets_lt (a : Address) : ∀ n ∈ a.octets, n < 256 := by
  have hlt := a.toNat_lt
  simp only [octets, List.forall_mem_cons, Nat.shiftRight_eq_div_pow]
  refine ⟨by omega, by omega, by omega, by omega, by simp⟩

/-- An address is put together again from its octets. -/
lemma ofOctets_octets (a : Address) :
    ofOctets (a.toNat >>> 24) ((a.toNat >>> 16) % 256) ((a.toNat >>> 8) % 256) (a.toNat % 256)
      = a := by
  have hlt := a.toNat_lt
  apply ext
  rw [ofOctets, toNat_ofNat]
  simp only [Nat.shiftRight_eq_div_pow]
  omega

/-- An octet is read back from its digits: there are at most three, and no zero in front. -/
lemma octet?_digits {n : Nat} (h : n < 256) : octet? (digits n) = some n := by
  have hall : ∀ n < 256, octet? (digits n) = some n := by decide +kernel
  exact hall n h

lemma looseOctet?_digits {n : Nat} (h : n < 256) : looseOctet? (digits n) = some n := by
  have hread := octet?_digits h
  rw [octet?] at hread
  split_ifs at hread
  · cases hread
  · exact hread

lemma isDigit_of_looseOctet? {cs : List Char} {n : Nat} (h : looseOctet? cs = some n) :
    ∀ c ∈ cs, c.isDigit = true := by
  rw [looseOctet?] at h
  split_ifs at h
  · cases h
  · obtain ⟨m, hm, -⟩ := Option.bind_eq_some_iff.1 h
    exact isDigit_of_natOfDigits? hm

/-! ## Dotted quads -/

lemma quad_eq (a : Address) :
    a.quad = digits (a.toNat >>> 24) ++ '.' :: (digits ((a.toNat >>> 16) % 256) ++
      '.' :: (digits ((a.toNat >>> 8) % 256) ++ '.' :: digits (a.toNat % 256))) := by
  simp [quad, octets, List.intercalate]

lemma mem_quad {a : Address} {c : Char} (h : c ∈ a.quad) : c.isDigit = true ∨ c = '.' := by
  simp only [quad_eq, List.mem_append, List.mem_cons] at h
  rcases h with h | rfl | h | rfl | h | rfl | h
  · exact .inl (mem_digits h)
  · exact .inr rfl
  · exact .inl (mem_digits h)
  · exact .inr rfl
  · exact .inl (mem_digits h)
  · exact .inr rfl
  · exact .inl (mem_digits h)

/-- Nothing but digits and dots occurs in a dotted quad. -/
lemma not_mem_quad (a : Address) {c : Char} (hdigit : c.isDigit = false) (hdot : c ≠ '.') :
    c ∉ a.quad := by
  intro h
  rcases mem_quad h with hc | hc
  · rw [hc] at hdigit
    cases hdigit
  · exact hdot hc

lemma quad_visible (a : Address) : ∀ c ∈ a.quad, isBlank c = false := by
  intro c hc
  rcases mem_quad hc with hdigit | rfl
  · exact isBlank_of_isDigit hdigit
  · decide

lemma splitOn_quad (a : Address) : splitOn '.' a.quad = a.octets.map digits := by
  have hdot : ∀ n, '.' ∉ digits n := fun n => not_mem_digits n (by decide)
  rw [quad_eq, splitOn_append (hdot _), splitOn_append (hdot _), splitOn_append (hdot _),
    splitOn_of_notMem (hdot _)]
  rfl

/-- A dotted quad is read back, whatever reads its octets. -/
lemma parseOctets?_quad (a : Address) {octet : List Char → Option Nat}
    (h : ∀ n < 256, octet (digits n) = some n) : parseOctets? octet a.quad = some a := by
  have hlt := a.octets_lt
  simp only [octets, List.forall_mem_cons] at hlt
  obtain ⟨h₁, h₂, h₃, h₄, -⟩ := hlt
  rw [parseOctets?, splitOn_quad, octets]
  simp [h _ h₁, h _ h₂, h _ h₃, h _ h₄, ofOctets_octets]

lemma parseQuad?_quad (a : Address) : parseQuad? a.quad = some a :=
  parseOctets?_quad a fun _ => octet?_digits

/-- Four octets are read from digits and dots. -/
lemma visible_of_parseOctets? {cs : List Char} {a : Address}
    (h : parseOctets? looseOctet? cs = some a) : ∀ c ∈ cs, isBlank c = false := by
  rw [parseOctets?] at h
  split at h
  · rename_i w x y z hsplit
    simp only [Option.bind_eq_bind, Option.bind_eq_some_iff] at h
    obtain ⟨_, hw, _, hx, _, hy, _, hz, -⟩ := h
    intro c hc
    rcases mem_splitOn '.' hc with rfl | ⟨piece, hpiece, hmem⟩
    · decide
    · rw [hsplit] at hpiece
      simp only [List.mem_cons, List.not_mem_nil, or_false] at hpiece
      rcases hpiece with rfl | rfl | rfl | rfl
      · exact isBlank_of_isDigit (isDigit_of_looseOctet? hw c hmem)
      · exact isBlank_of_isDigit (isDigit_of_looseOctet? hx c hmem)
      · exact isBlank_of_isDigit (isDigit_of_looseOctet? hy c hmem)
      · exact isBlank_of_isDigit (isDigit_of_looseOctet? hz c hmem)
  · cases h

lemma toList_toString (a : Address) : (toString a).toList = a.quad :=
  String.toList_ofList

/-- **An address is read back from its text.** -/
theorem parse?_toString (a : Address) : parse? (toString a) = some a := by
  rw [parse?, toList_toString, trim_of_visible a.quad_visible, parseQuad?_quad]

lemma toString_injective : Function.Injective (toString : Address → String) := by
  intro a b h
  have hread := parse?_toString a
  rw [h, parse?_toString] at hread
  exact (Option.some.inj hread).symm

lemma toString_ne_empty (a : Address) : toString a ≠ "" := by
  intro h
  have hread := parse?_toString a
  rw [h] at hread
  cases hread

end Address

namespace Network

/-! ## Networks -/

/-- A network without host bits, as networks are written. -/
def Canonical (n : Network) : Prop :=
  n.base.bits &&& mask n.length = n.base.bits

lemma containing_of_canonical {n : Network} (h : n.Canonical) :
    containing n.base n.length = n := by
  rw [containing, h]

lemma canonical_containing (a : Address) (length : Fin 33) : (containing a length).Canonical := by
  simp [Canonical, containing, BitVec.and_assoc]

lemma toList_toString (n : Network) :
    (toString n).toList = n.base.quad ++ '/' :: digits n.length.val := by
  change (toString n.base ++ "/" ++ toString n.length.val).toList = _
  rw [String.toList_append, String.toList_append, Address.toList_toString, Text.toList_toString,
    List.append_assoc]
  rfl

lemma length?_digits (length : Fin 33) : length? (digits length.val) = some length := by
  have hall : ∀ length : Fin 33, length? (digits length.val) = some length := by decide +kernel
  exact hall length

/-- An address with a mask length is read back from its text. -/
lemma parseMasked?_append (a : Address) (length : Fin 33) :
    parseMasked? (a.quad ++ '/' :: digits length.val) = some (a, length) := by
  have hslash : '/' ∉ a.quad := a.not_mem_quad (by decide) (by decide)
  have hread := a.parseOctets?_quad fun n => Address.looseOctet?_digits (n := n)
  rw [parseMasked?, splitOnce_append hslash]
  simp [hread, length?_digits]

/-- **A network without host bits is read back from its text.** -/
theorem parseExact?_toString {n : Network} (h : n.Canonical) :
    parseExact? (toString n).toList = some n := by
  rw [parseExact?, toList_toString, parseMasked?_append]
  exact congrArg some (containing_of_canonical h)

lemma toString_visible (n : Network) : ∀ c ∈ (toString n).toList, isBlank c = false := by
  intro c hc
  rw [toList_toString] at hc
  rcases List.mem_append.1 hc with hquad | hrest
  · exact n.base.quad_visible c hquad
  · rcases List.mem_cons.1 hrest with rfl | hdigit
    · decide
    · exact isBlank_of_isDigit (mem_digits hdigit)

lemma parse?_toString {n : Network} (h : n.Canonical) : parse? (toString n) = some n := by
  rw [parse?, trim_of_visible n.toString_visible, parseExact?_toString h]

lemma isDigit_of_length? {cs : List Char} {length : Fin 33} (h : length? cs = some length) :
    ∀ c ∈ cs, c.isDigit = true := by
  rw [length?] at h
  split_ifs at h
  · cases h
  · obtain ⟨n, hn, -⟩ := Option.bind_eq_some_iff.1 h
    exact isDigit_of_natOfDigits? hn

/-- What is read exactly has no white space that could be cut off. -/
lemma parse?_of_parseExact? {cidr : String} {n : Network} (h : parseExact? cidr.toList = some n) :
    parse? cidr = some n := by
  have hvisible : ∀ c ∈ cidr.toList, isBlank c = false := by
    rw [parseExact?, Option.map_eq_some_iff] at h
    obtain ⟨⟨a, length⟩, hmasked, -⟩ := h
    simp only [parseMasked?, Option.bind_eq_bind, Option.bind_eq_some_iff] at hmasked
    obtain ⟨⟨quad, bits⟩, hsplit, b, hquad, length', hbits, -⟩ := hmasked
    rw [eq_append_of_splitOnce hsplit]
    intro c hc
    rcases List.mem_append.1 hc with hmem | hmem
    · exact Address.visible_of_parseOctets? hquad c hmem
    · rcases List.mem_cons.1 hmem with rfl | hmem
      · decide
      · exact isBlank_of_isDigit (isDigit_of_length? hbits c hmem)
  rw [parse?, trim_of_visible hvisible, h]

end Network

end Ipam
