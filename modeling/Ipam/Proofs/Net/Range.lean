import Ipam.Net.Range
import Mathlib.Tactic

/-!
# The addresses of a range text

* **`Range.expand_ascending`** — what a range text expands to is strictly increasing, so no address
  occurs twice.
* `Range.mem_union` — the expansion loses no address of a part and adds none.

The expansion sorts the addresses of all parts and then drops every address that equals its
successor; both lemmas follow these two stages.
-/

namespace Ipam

/-! ## The order of addresses -/

namespace Address

lemma lt_iff {a b : Address} : a < b ↔ a.toNat < b.toNat := Iff.rfl

lemma le_iff {a b : Address} : a ≤ b ↔ a.toNat ≤ b.toNat := Iff.rfl

lemma lt_irrefl (a : Address) : ¬ a < a := Nat.lt_irrefl a.toNat

lemma lt_of_le_of_ne {a b : Address} (hle : a ≤ b) (hne : a ≠ b) : a < b :=
  Nat.lt_of_le_of_ne hle fun heq => hne (ext heq)

/-- A strictly increasing list has no address twice. -/
lemma nodup_of_ascending {as : List Address} (h : as.Pairwise (· < ·)) : as.Nodup := by
  refine List.Pairwise.imp ?_ h
  rintro a b hlt rfl
  exact lt_irrefl a hlt

end Address

/-! ## Dropping repetitions -/

namespace Range

lemma mem_dropRepeats {a : Address} : ∀ {as : List Address}, a ∈ dropRepeats as ↔ a ∈ as
  | [] => by simp [dropRepeats]
  | [b] => by simp [dropRepeats]
  | b :: c :: rest => by
      have ih : a ∈ dropRepeats (c :: rest) ↔ a ∈ c :: rest := mem_dropRepeats
      rw [dropRepeats]
      split_ifs with heq
      · subst heq
        rw [ih]
        simp
      · rw [List.mem_cons, ih, List.mem_cons (b := b)]

/-- On a sorted list equal addresses are neighbours, so dropping those that equal their successor
leaves a strictly increasing list. -/
lemma dropRepeats_ascending : ∀ {as : List Address}, as.Pairwise (· ≤ ·) →
    (dropRepeats as).Pairwise (· < ·)
  | [], _ => by simp [dropRepeats]
  | [b], _ => by simp [dropRepeats]
  | b :: c :: rest, h => by
      obtain ⟨hb, hrest⟩ := List.pairwise_cons.1 h
      have ih := dropRepeats_ascending hrest
      rw [dropRepeats]
      split_ifs with heq
      · exact ih
      · refine List.pairwise_cons.2 ⟨fun a ha => ?_, ih⟩
        have hbc : b < c := Address.lt_of_le_of_ne (hb c List.mem_cons_self) heq
        rcases List.mem_cons.1 (mem_dropRepeats.1 ha) with rfl | hmem
        · exact hbc
        · exact Nat.lt_of_lt_of_le hbc ((List.pairwise_cons.1 hrest).1 a hmem)

lemma dropRepeats_of_ascending : ∀ {as : List Address}, as.Pairwise (· < ·) →
    dropRepeats as = as
  | [], _ => rfl
  | [b], _ => rfl
  | b :: c :: rest, h => by
      obtain ⟨hb, hrest⟩ := List.pairwise_cons.1 h
      have hne : b ≠ c := fun heq => Address.lt_irrefl c (heq ▸ hb c List.mem_cons_self)
      rw [dropRepeats, if_neg hne, dropRepeats_of_ascending hrest]

/-! ## Expansion -/

lemma sorted_mergeSort (as : List Address) :
    (as.mergeSort fun a b => a ≤ b).Pairwise (· ≤ ·) := by
  have h : (as.mergeSort fun a b => decide (a ≤ b)).Pairwise fun a b => decide (a ≤ b) = true :=
    List.pairwise_mergeSort
    (fun a b c hab hbc => by
      simp only [decide_eq_true_eq, Address.le_iff] at *
      omega)
    (fun a b => by
      simp only [Bool.or_eq_true, decide_eq_true_eq, Address.le_iff]
      omega) as
  exact h.imp fun hab => of_decide_eq_true hab

/-- **The union of some parts is strictly increasing.** -/
theorem union_ascending (ranges : List Range) : (union ranges).Pairwise (· < ·) :=
  dropRepeats_ascending (sorted_mergeSort _)

/-- **The union of some parts has the addresses of the parts and no others.** -/
theorem mem_union {ranges : List Range} {a : Address} :
    a ∈ union ranges ↔ ∃ r ∈ ranges, a ∈ r.addresses := by
  rw [union, mem_dropRepeats, List.mem_mergeSort, List.mem_flatMap]

/-- What a text expands to is the union of its parts. -/
lemma expand_eq_ok {text : String} {as : List Address} (h : expand text = .ok as) :
    ∃ ranges, parse text = .ok ranges ∧ totalSize ranges ≤ maxPoolSize ∧ as = union ranges := by
  simp only [expand, bind, Except.bind] at h
  split at h
  · cases h
  · rename_i ranges hparse
    split_ifs at h with hsize
    · cases h
      exact ⟨ranges, hparse, Nat.le_of_not_lt hsize, rfl⟩

/-- **The expansion of a range text is strictly increasing.** -/
theorem expand_ascending {text : String} {as : List Address} (h : expand text = .ok as) :
    as.Pairwise (· < ·) := by
  obtain ⟨ranges, -, -, rfl⟩ := expand_eq_ok h
  exact union_ascending ranges

end Range

end Ipam
