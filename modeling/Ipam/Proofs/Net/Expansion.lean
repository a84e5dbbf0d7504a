import Ipam.Proofs.Net.Hosts
import Ipam.Proofs.Table

/-!
# What a range text expands to

A range text that can be read and is not too large expands to the sorted union of its parts.

* `Range.proper_of_parse` — the ends of every part are in order, and both in the network that
  qualifies them.
* `Range.mem_addresses_iff`, `Range.Proper.contains` — a part covers exactly what lies between its
  ends, all of it in its network.
* `Range.totalSize?` — the sizes of the parts, added up with numbers of 64 bits;
  `Range.totalSize?_eq`, which are large enough.
* **`Range.expand_expands`** — when a range text expands, to what, and what is answered otherwise.

The sizes are added up before the addresses are listed, and parts that overlap count twice; so a
text may be too large although the union of its parts is not.
-/

namespace Ipam

open Text

namespace Range

variable {text : String} {ranges : List Range} {r : Range} {a : Address}

/-! ## Parts -/

/-- A part is only put together from ends in order, that share their network if they have one. -/
lemma proper_of_between {piece : List Char} {start stop : Address × Option (Fin 33)}
    (h : between piece start stop = .ok r) : r.Proper := by
  obtain ⟨start, startLength⟩ := start
  obtain ⟨stop, stopLength⟩ := stop
  rw [between] at h
  split_ifs at h with hreversed
  have hordered : start ≤ stop := Nat.le_of_not_lt hreversed
  rcases startLength with _ | length <;> rcases stopLength with _ | other
  · cases h
    exact ⟨hordered, by simp⟩
  · cases h
  · cases h
  · simp only at h
    split_ifs at h with hlength hinside
    cases h
    refine ⟨hordered, fun n hn => ?_⟩
    cases hn
    exact ⟨rfl, hinside⟩

lemma proper_of_parsePart {piece : List Char} (h : parsePart piece = .ok r) : r.Proper := by
  rw [parsePart] at h
  cases hsplit : splitOnce '-' piece with
  | none =>
      rw [hsplit] at h
      cases h
  | some ends =>
      simp only [hsplit] at h
      cases hstart : parseEndpoint (trim ends.1) with
      | error e =>
          rw [hstart] at h
          cases h
      | ok start =>
          cases hstop : parseEndpoint (trim ends.2) with
          | error e =>
              rw [hstart, hstop] at h
              cases h
          | ok stop =>
              rw [hstart, hstop] at h
              exact proper_of_between h

/-- **What is read are proper parts, at least one.** -/
theorem proper_of_parse (h : parse text = .ok ranges) :
    ranges ≠ [] ∧ ∀ r ∈ ranges, r.Proper := by
  rw [parse] at h
  cases hparts : (pieces text).mapM parsePart with
  | error e =>
      rw [hparts] at h
      cases h
  | ok parts =>
      rw [hparts] at h
      change (if parts.isEmpty then _ else _) = _ at h
      split_ifs at h with hempty
      cases h
      refine ⟨fun hnil => hempty (by rw [hnil]; rfl), fun r hr => ?_⟩
      obtain ⟨piece, -, hpiece⟩ := Table.exists_of_mapM hparts r hr
      exact proper_of_parsePart hpiece

/-- **A part covers exactly the addresses between its ends,** also where the last address of all is
one of them. -/
theorem mem_addresses_iff (h : r.start ≤ r.stop) :
    a ∈ r.addresses ↔ r.start ≤ a ∧ a ≤ r.stop := by
  have hlt := r.stop.toNat_lt
  simp only [addresses, List.mem_map, List.mem_range, size, Address.le_iff] at h ⊢
  constructor
  · rintro ⟨i, hi, rfl⟩
    rw [Address.toNat_ofNat, Nat.mod_eq_of_lt (by omega)]
    omega
  · rintro ⟨hlo, hhi⟩
    refine ⟨a.toNat - r.start.toNat, by omega, Address.ext ?_⟩
    rw [Address.toNat_ofNat, Nat.mod_eq_of_lt (by omega)]
    omega

/-- A network is an interval, so with the ends of a part it contains all that lies between. -/
lemma Proper.contains (h : r.Proper) {n : Network} (hn : r.network = some n) (hlo : r.start ≤ a)
    (hhi : a ≤ r.stop) : n.contains a = true := by
  obtain ⟨hnetwork, hstop⟩ := h.qualified n hn
  have hstart : n.contains r.start = true := by
    rw [hnetwork, Network.contains, Network.containing]
    simp [BitVec.and_assoc]
  rw [Network.contains_iff] at hstart hstop ⊢
  rw [Address.le_iff] at hlo hhi
  omega

lemma Proper.canonical (h : r.Proper) {n : Network} (hn : r.network = some n) : n.Canonical := by
  rw [(h.qualified n hn).1]
  exact Network.canonical_containing ..

/-! ## The union of the parts -/

lemma length_dropRepeats_le : ∀ as : List Address, (dropRepeats as).length ≤ as.length
  | [] => Nat.le_refl _
  | [_] => Nat.le_refl _
  | a :: b :: rest => by
      have ih := length_dropRepeats_le (b :: rest)
      rw [dropRepeats]
      split_ifs
      · exact Nat.le_succ_of_le ih
      · exact Nat.succ_le_succ ih

lemma length_flatMap_addresses (ranges : List Range) :
    (ranges.flatMap addresses).length = totalSize ranges := by
  induction ranges with
  | nil => rfl
  | cons r rest ih => simp [totalSize, addresses, ih]

lemma length_union_le (ranges : List Range) : (union ranges).length ≤ totalSize ranges := by
  rw [← length_flatMap_addresses]
  exact (length_dropRepeats_le _).trans (List.length_mergeSort _).le

/-- A list of addresses is the sorted union of some parts. -/
structure IsUnion (ranges : List Range) (as : List Address) : Prop where
  /-- The addresses ascend, so that none occurs twice. -/
  ascending : as.Pairwise (· < ·)
  /-- There is at least one. -/
  nonempty : as ≠ []
  /-- There are not more than a pool may hold. -/
  bounded : as.length ≤ 65536
  /-- They are those between the ends of a part. -/
  mem_iff : ∀ a, a ∈ as ↔ ∃ r ∈ ranges, r.start ≤ a ∧ a ≤ r.stop

lemma isUnion_union (hne : ranges ≠ []) (hproper : ∀ r ∈ ranges, r.Proper)
    (hsize : totalSize ranges ≤ maxPoolSize) : IsUnion ranges (union ranges) := by
  have hmem : ∀ a, a ∈ union ranges ↔ ∃ r ∈ ranges, r.start ≤ a ∧ a ≤ r.stop := fun a => by
    rw [mem_union]
    exact exists_congr fun r => and_congr_right fun hr => mem_addresses_iff (hproper r hr).ordered
  refine ⟨union_ascending ranges, ?_, (length_union_le ranges).trans hsize, hmem⟩
  obtain ⟨first, hfirst⟩ := List.exists_mem_of_ne_nil ranges hne
  exact List.ne_nil_of_mem
    ((hmem first.start).2 ⟨first, hfirst, Nat.le_refl _, (hproper first hfirst).ordered⟩)

/-! ## Sizes in 64 bits -/

/-- The difference of two numbers of 64 bits, unless it is negative. -/
def minus? (x y : Nat) : Option Nat :=
  if y ≤ x then some (x - y) else none

/-- The sum of two numbers of 64 bits, unless it is too large for one. -/
def plus? (x y : Nat) : Option Nat :=
  if x + y < 2 ^ 64 then some (x + y) else none

/-- The size of a part, computed in 64 bits. -/
def size? (r : Range) : Option Nat := do
  plus? (← minus? r.stop.toNat r.start.toNat) 1

/-- A sum of sizes with one more part. -/
def addSize? (total : Nat) (r : Range) : Option Nat := do
  plus? total (← r.size?)

/-- The sizes of some parts, added up from the first one on, computed in 64 bits. -/
def totalSize? (ranges : List Range) : Option Nat :=
  ranges.foldlM addSize? 0

lemma size_le (r : Range) : r.size ≤ 2 ^ 32 := by
  have hlt := r.stop.toNat_lt
  rw [size]
  omega

lemma size?_eq (h : r.start ≤ r.stop) : r.size? = some r.size := by
  have hle := r.size_le
  rw [size] at hle
  have hminus : minus? r.stop.toNat r.start.toNat = some (r.stop.toNat - r.start.toNat) := if_pos h
  rw [size?, hminus]
  exact if_pos (by omega)

/-- A sum that has room for the largest part for each part that is left never gets too large. -/
lemma foldlM_addSize? (h : ∀ r ∈ ranges, r.start ≤ r.stop) {total : Nat}
    (hroom : total + ranges.length * 2 ^ 32 < 2 ^ 64) :
    ranges.foldlM addSize? total = some (total + totalSize ranges) := by
  induction ranges generalizing total with
  | nil => rfl
  | cons r rest ih =>
      obtain ⟨hr, hrest⟩ := List.forall_mem_cons.1 h
      have hle := r.size_le
      rw [List.length_cons] at hroom
      have hadd : addSize? total r = some (total + r.size) := by
        rw [addSize?, size?_eq hr]
        exact if_pos (by omega)
      have hsum : rest.foldlM addSize? (total + r.size)
          = some (total + r.size + totalSize rest) := ih hrest (by omega)
      rw [List.foldlM_cons, hadd, totalSize, ← Nat.add_assoc, ← hsum]
      rfl

/-- **No size is too large for 64 bits,** nor is any difference negative, if there are fewer than
2³¹ parts. -/
theorem totalSize?_eq (h : ∀ r ∈ ranges, r.start ≤ r.stop) (hcount : ranges.length < 2 ^ 31) :
    totalSize? ranges = some (totalSize ranges) := by
  rw [totalSize?, foldlM_addSize? h (by omega), Nat.zero_add]

/-! ## Expansion -/

lemma expand_of_parse (h : parse text = .ok ranges) :
    expand text = if maxPoolSize < totalSize ranges then .error (.tooLarge text (totalSize ranges))
      else .ok (union ranges) := by
  rw [expand, h]
  rfl

lemma expand_of_error {e : RangeError} (h : parse text = .error e) : expand text = .error e := by
  rw [expand, h]
  rfl

/-- What is known of the expansion of a range text. -/
structure Expands (text : String) : Prop where
  /-- A text expands if it can be read and the sizes of its parts add up to no more than a pool may
  hold. -/
  succeeds_iff : (∃ as, expand text = .ok as) ↔
    ∃ ranges, parse text = .ok ranges ∧ totalSize ranges ≤ 65536
  /-- Otherwise the fault is that of reading it, or the sum of the sizes. -/
  fails_iff : ∀ e, expand text = .error e ↔ parse text = .error e ∨
    ∃ ranges, parse text = .ok ranges ∧ 65536 < totalSize ranges ∧
      e = .tooLarge text (totalSize ranges)
  /-- It expands to the sorted union of its parts. -/
  union : ∀ ranges as, parse text = .ok ranges → expand text = .ok as → IsUnion ranges as
  /-- A part with a mask lies in its network, which has no host bits. -/
  qualified : ∀ ranges, parse text = .ok ranges → ∀ r ∈ ranges, ∀ n, r.network = some n →
    n.Canonical ∧ ∀ a ∈ r.addresses, n.contains a = true
  /-- With fewer than 2³¹ parts the sizes can be computed in 64 bits. -/
  fits : ∀ ranges, parse text = .ok ranges → ranges.length < 2 ^ 31 →
    totalSize? ranges = some (totalSize ranges)

/-- **A range text expands to the sorted union of its parts,** or has a fault, or is too large. -/
theorem expand_expands (text : String) : Expands text := by
  cases hparse : parse text with
  | error e =>
      have hexpand := expand_of_error hparse
      refine ⟨?_, fun e' => ?_, ?_, ?_, ?_⟩ <;> simp [hexpand, hparse]
  | ok ranges =>
      obtain ⟨hne, hproper⟩ := proper_of_parse hparse
      have hexpand := expand_of_parse hparse
      have hordered : ∀ r ∈ ranges, r.start ≤ r.stop := fun r hr => (hproper r hr).ordered
      have hmax : maxPoolSize = 65536 := rfl
      rw [hmax] at hexpand
      refine ⟨?_, fun e => ?_, fun parts as hparts hok => ?_, fun parts hparts r hr n hn => ?_,
        fun parts hparts hcount => ?_⟩
      · rw [hexpand, hparse]
        split_ifs with hlarge
        · simpa using hlarge
        · simpa using Nat.le_of_not_lt hlarge
      · rw [hexpand, hparse]
        split_ifs with hlarge
        · simp [hlarge, eq_comm]
        · simp [hlarge]
      · cases hparse.symm.trans hparts
        rw [hexpand] at hok
        split_ifs at hok with hlarge
        cases hok
        exact isUnion_union hne hproper (Nat.le_of_not_lt hlarge)
      · cases hparse.symm.trans hparts
        refine ⟨(hproper r hr).canonical hn, fun a ha => ?_⟩
        obtain ⟨hlo, hhi⟩ := (mem_addresses_iff (hordered r hr)).1 ha
        exact (hproper r hr).contains hn hlo hhi
      · cases hparse.symm.trans hparts
        exact totalSize?_eq hordered hcount

end Range

end Ipam
