import Ipam.Proofs.Net.Notation
import Ipam.Proofs.Net.Range
import Ipam.Proofs.Traversal

/-!
# The hosts of a network

* `Network.size`, `Network.contains_iff` — a network as an interval of numbers.
* **`Network.mem_hosts_iff`** — the hosts, listed lowest first, are the addresses of the network but
  for its first and its last one.
* **`Range.parse_render`** — the parts of a range text are read back from their text.
* **`Network.expand_hosts`** — a range text from the first to the last host expands to the hosts.
-/

namespace Ipam

namespace Network

/-! ## Masks -/

/-- The number of addresses, the first and the last one included. -/
def size (n : Network) : Nat :=
  2 ^ (32 - n.length.val)

lemma size_pos (n : Network) : 0 < n.size :=
  Nat.two_pow_pos _

lemma and_shiftLeft_allOnes (x : BitVec 32) (k : Nat) :
    x &&& BitVec.allOnes 32 <<< k = (x >>> k) <<< k := by
  apply BitVec.eq_of_getLsbD_eq
  intro i hi
  simp only [BitVec.getLsbD_and, BitVec.getLsbD_shiftLeft, BitVec.getLsbD_allOnes,
    BitVec.getLsbD_ushiftRight, hi, decide_true, Bool.true_and]
  by_cases hk : i < k
  · simp [hk]
  · have hle : k ≤ i := Nat.le_of_not_lt hk
    simp [hk, Nat.add_sub_cancel' hle, Nat.lt_of_le_of_lt (Nat.sub_le i k) hi]

/-- A mask clears the lower bits. -/
lemma toNat_and_mask (x : BitVec 32) (n : Network) :
    (x &&& mask n.length).toNat = x.toNat / n.size * n.size := by
  rw [mask, and_shiftLeft_allOnes, BitVec.toNat_shiftLeft, BitVec.toNat_ushiftRight,
    Nat.shiftLeft_eq, Nat.shiftRight_eq_div_pow]
  exact Nat.mod_eq_of_lt (Nat.lt_of_le_of_lt (Nat.div_mul_le_self _ _) x.isLt)

lemma toNat_not_mask (n : Network) : (~~~(mask n.length)).toNat = n.size - 1 := by
  have hall : ∀ length : Fin 33, (~~~(mask length)).toNat = 2 ^ (32 - length.val) - 1 := by
    decide +kernel
  exact hall n.length

/-! ## Networks as intervals -/

lemma toNat_first (n : Network) : n.first.toNat = n.base.toNat / n.size * n.size :=
  toNat_and_mask n.base.bits n

lemma first_add_size_le (n : Network) : n.first.toNat + n.size ≤ 4294967296 := by
  have hdvd : n.size ∣ 4294967296 := by
    rw [size, show 4294967296 = 2 ^ 32 from rfl]
    exact Nat.pow_dvd_pow 2 (Nat.sub_le _ _)
  obtain ⟨count, hcount⟩ := hdvd
  have hlt : n.base.toNat / n.size < count := by
    rw [Nat.div_lt_iff_lt_mul n.size_pos, Nat.mul_comm, ← hcount]
    exact n.base.toNat_lt
  calc n.first.toNat + n.size
      = (n.base.toNat / n.size + 1) * n.size := by rw [toNat_first, Nat.add_mul, Nat.one_mul]
    _ ≤ count * n.size := Nat.mul_le_mul_right _ hlt
    _ = 4294967296 := by rw [hcount, Nat.mul_comm]

lemma toNat_last (n : Network) : n.last.toNat + 1 = n.first.toNat + n.size := by
  have hor : n.base.bits ||| ~~~(mask n.length)
      = (n.base.bits &&& mask n.length) + ~~~(mask n.length) := by
    have hzero : (n.base.bits &&& mask n.length) &&& ~~~(mask n.length) = 0#32 := by
      simp [BitVec.and_assoc]
    rw [BitVec.add_eq_or_of_and_eq_zero _ _ hzero]
    apply BitVec.eq_of_getLsbD_eq
    intro i hi
    simp only [BitVec.getLsbD_or, BitVec.getLsbD_and, BitVec.getLsbD_not, hi, decide_true,
      Bool.true_and]
    cases n.base.bits.getLsbD i <;> cases (mask n.length).getLsbD i <;> rfl
  have hle := n.first_add_size_le
  have hpos := n.size_pos
  have hfirst : (n.base.bits &&& mask n.length).toNat = n.first.toNat := rfl
  rw [last, Address.toNat, hor, BitVec.toNat_add, hfirst, toNat_not_mask,
    Nat.mod_eq_of_lt (by omega)]
  omega

/-- **A network is the interval of its size that starts at its first address.** -/
theorem contains_iff {n : Network} {a : Address} :
    n.contains a = true ↔ n.first.toNat ≤ a.toNat ∧ a.toNat < n.first.toNat + n.size := by
  have hmask : n.contains a = true ↔ a.toNat / n.size = n.base.toNat / n.size := by
    rw [contains, beq_iff_eq, ← BitVec.toNat_inj, toNat_and_mask, toNat_and_mask,
      Nat.mul_left_inj n.size_pos.ne']
    rfl
  rw [hmask, toNat_first, Nat.div_eq_iff n.size_pos]
  have hpos := n.size_pos
  constructor <;> rintro ⟨hlo, hhi⟩ <;> exact ⟨by omega, by omega⟩

lemma isHost_iff {n : Network} {a : Address} :
    n.isHost a = true ↔ n.first.toNat < a.toNat ∧ a.toNat + 1 < n.first.toNat + n.size := by
  have hlast := n.toNat_last
  have hfirst : a = n.first ↔ a.toNat = n.first.toNat := ⟨congrArg _, Address.ext⟩
  have hend : a = n.last ↔ a.toNat = n.last.toNat := ⟨congrArg _, Address.ext⟩
  simp only [isHost, Bool.and_eq_true, bne_iff_ne, ne_eq, contains_iff, hfirst, hend]
  omega

lemma contains_of_isHost {n : Network} {a : Address} (h : n.isHost a = true) :
    n.contains a = true := by
  rw [isHost, Bool.and_eq_true, Bool.and_eq_true] at h
  exact h.1.1

/-! ## Hosts -/

/-- The hosts of a network, lowest first. -/
def hosts (n : Network) : List Address :=
  (List.range n.hostCount).map n.host

lemma hostCount_eq (n : Network) : n.hostCount = n.size - 2 := by
  rw [hostCount, Nat.one_shiftLeft, size]

lemma toNat_host {n : Network} {i : Nat} (h : i < n.hostCount) :
    (n.host i).toNat = n.first.toNat + 1 + i := by
  have hle := n.first_add_size_le
  rw [hostCount_eq] at h
  rw [host, Address.toNat_ofNat, Nat.mod_eq_of_lt (by omega)]

/-- **The list of hosts has exactly the hosts.** -/
theorem mem_hosts_iff {n : Network} {a : Address} : a ∈ n.hosts ↔ n.isHost a = true := by
  rw [hosts, List.mem_map, isHost_iff]
  constructor
  · rintro ⟨i, hi, rfl⟩
    rw [List.mem_range] at hi
    rw [toNat_host hi]
    rw [hostCount_eq] at hi
    omega
  · rintro ⟨hlo, hhi⟩
    have hi : a.toNat - n.first.toNat - 1 < n.hostCount := by
      rw [hostCount_eq]
      omega
    refine ⟨a.toNat - n.first.toNat - 1, List.mem_range.2 hi, Address.ext ?_⟩
    rw [toNat_host hi]
    omega

/-- The hosts are listed lowest first. -/
lemma pairwise_hosts (n : Network) : n.hosts.Pairwise (fun a b => a.toNat < b.toNat) := by
  rw [hosts, List.pairwise_map]
  refine List.pairwise_lt_range.imp_of_mem fun {i j} hi hj hlt => ?_
  rw [List.mem_range] at hi hj
  rw [toNat_host hi, toNat_host hj]
  omega

lemma host_injOn {n : Network} {i j : Nat} (hi : i < n.hostCount) (hj : j < n.hostCount)
    (h : n.host i = n.host j) : i = j := by
  have hnat := congrArg Address.toNat h
  rw [toNat_host hi, toNat_host hj] at hnat
  omega

end Network

open Text

namespace Range

/-! ## Texts of parts -/

/-- An end of a part as it is printed. -/
def endpoint (a : Address) : Option (Fin 33) → List Char
  | none => a.quad
  | some length => a.quad ++ '/' :: digits length.val

/-- What is read as one part: ends in order, both in the network that qualifies them. -/
structure Proper (r : Range) : Prop where
  ordered : r.start ≤ r.stop
  qualified : ∀ n, r.network = some n →
    n = .containing r.start n.length ∧ n.contains r.stop = true

lemma mem_endpoint {a : Address} {length : Option (Fin 33)} {c : Char}
    (h : c ∈ endpoint a length) : c.isDigit = true ∨ c = '.' ∨ c = '/' := by
  cases length with
  | none => exact (Address.mem_quad h).imp_right .inl
  | some length =>
      rcases List.mem_append.1 h with hquad | hrest
      · exact (Address.mem_quad hquad).imp_right .inl
      · rcases List.mem_cons.1 hrest with rfl | hdigit
        · exact .inr (.inr rfl)
        · exact .inl (mem_digits hdigit)

lemma not_mem_endpoint (a : Address) (length : Option (Fin 33)) {c : Char}
    (hdigit : c.isDigit = false) (hdot : c ≠ '.') (hslash : c ≠ '/') :
    c ∉ endpoint a length := by
  intro h
  rcases mem_endpoint h with hc | hc | hc
  · rw [hc] at hdigit
    cases hdigit
  · exact hdot hc
  · exact hslash hc

lemma endpoint_visible (a : Address) (length : Option (Fin 33)) :
    ∀ c ∈ endpoint a length, isBlank c = false := by
  intro c hc
  rcases mem_endpoint hc with hdigit | rfl | rfl
  · exact isBlank_of_isDigit hdigit
  · decide
  · decide

lemma parseEndpoint_endpoint (a : Address) (length : Option (Fin 33)) :
    parseEndpoint (endpoint a length) = .ok (a, length) := by
  cases length with
  | none =>
      have hslash : '/' ∉ a.quad := a.not_mem_quad (by decide) (by decide)
      rw [endpoint, parseEndpoint, if_neg hslash, Address.parseQuad?_quad]
  | some length =>
      rw [endpoint, parseEndpoint, if_pos (by simp), Network.parseMasked?_append]

lemma toList_toString (r : Range) :
    (toString r).toList = endpoint r.start (r.network.map (·.length)) ++
      '-' :: endpoint r.stop (r.network.map (·.length)) := by
  obtain ⟨start, stop, network⟩ := r
  cases network with
  | none =>
      change (toString start ++ "-" ++ toString stop).toList = _
      simp [Address.toList_toString, endpoint]
  | some n =>
      change (toString start ++ "/" ++ toString n.length.val ++ "-" ++ toString stop ++ "/" ++
        toString n.length.val).toList = _
      have hslash : "/".toList = ['/'] := rfl
      have hdash : "-".toList = ['-'] := rfl
      simp [Address.toList_toString, endpoint, digits, hslash, hdash]

lemma comma_notMem_toString (r : Range) : ',' ∉ (toString r).toList := by
  rw [toList_toString, List.mem_append, List.mem_cons, not_or, not_or]
  exact ⟨not_mem_endpoint _ _ (by decide) (by decide) (by decide), by decide,
    not_mem_endpoint _ _ (by decide) (by decide) (by decide)⟩

lemma trim_toString (r : Range) : trim (toString r).toList = (toString r).toList := by
  refine trim_of_visible fun c hc => ?_
  rw [toList_toString, List.mem_append, List.mem_cons] at hc
  rcases hc with hstart | rfl | hstop
  · exact endpoint_visible _ _ c hstart
  · decide
  · exact endpoint_visible _ _ c hstop

lemma toString_ne_nil (r : Range) : (toString r).toList ≠ [] := by
  rw [toList_toString]
  simp

lemma parsePart_toString {r : Range} (h : r.Proper) : parsePart (toString r).toList = .ok r := by
  have hdash := not_mem_endpoint r.start (r.network.map (·.length)) (c := '-')
    (by decide) (by decide) (by decide)
  have hlt : ¬ r.stop < r.start := Nat.not_lt_of_le h.ordered
  have hbetween : between (toString r).toList (r.start, r.network.map (·.length))
      (r.stop, r.network.map (·.length)) = .ok r := by
    obtain ⟨start, stop, network⟩ := r
    cases network with
    | none => simp [between, hlt]
    | some n =>
        obtain ⟨hn, hstop⟩ := h.qualified n rfl
        simp only at hn hstop hlt
        simp [between, hlt, ← hn, hstop]
  rw [parsePart, toList_toString, splitOnce_append hdash]
  simp only [trim_of_visible (endpoint_visible _ _), parseEndpoint_endpoint, bind, Except.bind]
  rw [← toList_toString]
  exact hbetween

/-- **Parts are read back from their text,** in order. -/
theorem parse_render {ranges : List Range} (hne : ranges ≠ []) (h : ∀ r ∈ ranges, r.Proper) :
    parse (render ranges) = .ok ranges := by
  have htexts : (render ranges).toList
      = List.intercalate [','] (ranges.map fun r => (toString r).toList) := by
    rw [render, String.toList_intercalate, List.map_map]
    rfl
  have hsplit : splitOn ',' (render ranges).toList = ranges.map fun r => (toString r).toList := by
    rw [htexts]
    refine splitOn_intercalate (by simpa using hne) fun piece hpiece => ?_
    obtain ⟨r, -, rfl⟩ := List.mem_map.1 hpiece
    exact r.comma_notMem_toString
  have hpieces : pieces (render ranges) = ranges.map fun r => (toString r).toList := by
    rw [pieces, hsplit, List.map_map, List.filter_eq_self.2]
    · exact List.map_congr_left fun r _ => r.trim_toString
    · intro piece hpiece
      obtain ⟨r, -, rfl⟩ := List.mem_map.1 hpiece
      simpa [trim_toString] using r.toString_ne_nil
  have hread : (ranges.map fun r => (toString r).toList).mapM parsePart = .ok ranges := by
    rw [Traversal.mapM_eq_ok_iff, List.forall₂_map_left_iff, List.forall₂_same]
    exact fun r hr => parsePart_toString (h r hr)
  rw [parse, hpieces, hread]
  simp [bind, Except.bind, hne]

lemma parse_toString {r : Range} (h : r.Proper) : parse (toString r) = .ok [r] := by
  have hread := parse_render (List.cons_ne_nil r []) (by simpa using h)
  rwa [render, List.map_singleton, String.intercalate_singleton] at hread

/-! ## One part -/

/-- One part expands to its own addresses. -/
lemma expand_single {text : String} {r : Range} (hparse : parse text = .ok [r])
    (hle : r.start ≤ r.stop) (hsize : r.size ≤ maxPoolSize) :
    expand text = .ok r.addresses := by
  have hascending : r.addresses.Pairwise (· < ·) := by
    have hlt := r.stop.toNat_lt
    rw [Address.le_iff] at hle
    rw [addresses, List.pairwise_map]
    refine List.pairwise_lt_range.imp_of_mem ?_
    intro i j _ hj hij
    rw [List.mem_range, size] at hj
    rw [Address.lt_iff, Address.toNat_ofNat, Address.toNat_ofNat, Nat.mod_eq_of_lt (by omega),
      Nat.mod_eq_of_lt (by omega)]
    omega
  have hsorted : r.addresses.mergeSort (fun a b => a ≤ b) = r.addresses :=
    List.mergeSort_of_pairwise (hascending.imp fun hab => decide_eq_true (Nat.le_of_lt hab))
  have hunion : union [r] = r.addresses := by
    rw [union, List.flatMap_singleton, hsorted, dropRepeats_of_ascending hascending]
  have htotal : ¬ maxPoolSize < totalSize [r] := Nat.not_lt.2 (by simpa [totalSize] using hsize)
  simp [expand, hparse, htotal, hunion, bind, Except.bind]

end Range

namespace Network

/-! ## Ranges of hosts -/

/-- The part from the first to the last host, qualified or not. -/
def hostRange (n : Network) (qualifier : Option Network) : Range :=
  ⟨n.host 0, n.host (n.hostCount - 1), qualifier⟩

/-- A text that means the range from the first to the last host. -/
def IsHostRange (n : Network) (text : String) : Prop :=
  ∃ qualifier, Range.parse text = .ok [n.hostRange qualifier]

lemma hostCount_pos {n : Network} (h : n.length.val ≤ 30) : 0 < n.hostCount := by
  have hle : 2 ^ 2 ≤ n.size := Nat.pow_le_pow_right (by omega) (by omega)
  rw [hostCount_eq]
  omega

/-- **A text from the first to the last host of a network expands to the hosts.** -/
theorem expand_hosts {n : Network} {text : String} (h : n.IsHostRange text)
    (hlo : 16 ≤ n.length.val) (hhi : n.length.val ≤ 30) :
    Range.expand text = .ok n.hosts := by
  obtain ⟨qualifier, hparse⟩ := h
  have hpos := hostCount_pos hhi
  have hfirst : (n.host 0).toNat = n.first.toNat + 1 := toNat_host hpos
  have hlast : (n.host (n.hostCount - 1)).toNat = n.first.toNat + 1 + (n.hostCount - 1) :=
    toNat_host (by omega)
  have hcount : (n.hostRange qualifier).size = n.hostCount := by
    simp only [Range.size, hostRange, hfirst, hlast]
    omega
  have hsize : n.size ≤ 2 ^ 16 := Nat.pow_le_pow_right (by omega) (by omega)
  have haddresses : (n.hostRange qualifier).addresses = n.hosts := by
    rw [Range.addresses, hcount, hosts]
    simp only [hostRange, hfirst]
    rfl
  rw [← haddresses]
  refine Range.expand_single hparse ?_ ?_
  · rw [Address.le_iff, hostRange, hfirst, hlast]
    omega
  · rw [hcount, hostCount_eq, maxPoolSize]
    omega

/-- The range is usually written without a mask. -/
lemma isHostRange_toString {n : Network} (h : n.length.val ≤ 30) :
    n.IsHostRange (toString (n.hostRange none)) := by
  refine ⟨none, Range.parse_toString ⟨?_, by simp [hostRange]⟩⟩
  have hpos := hostCount_pos h
  rw [Address.le_iff, hostRange, toNat_host hpos, toNat_host (by omega)]
  omega

end Network

end Ipam
