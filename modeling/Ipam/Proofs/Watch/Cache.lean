import Ipam.Watch.Cache
import Mathlib.Tactic

/-!
# What the watcher keeps in mind

* `Watch.Change.subject` — the resource that a change is about.
* `Watch.Cache.find?_keep`, `Watch.Cache.find?_drop` — the copies after one was taken up or dropped.
* `Watch.Cache.fst_see`, `Watch.Cache.isDeletion_of_see` — the change that is seen in a copy.
* `Watch.Cache.endListing_of_listed` — a listing of everything ends without a deletion.
-/

namespace Ipam.Watch

/-- The resource that a change is about. -/
def Change.subject : Change → ResourceRef
  | .created r => r.ref
  | .updated _ new => new.ref
  | .deleted r => r.ref

namespace Cache

/-- The cache without what it knows of a listing. -/
def copies (c : Cache) : Cache :=
  { c with listing := none }

variable (c : Cache) (r : Resource)

lemma find?_keep (ref : ResourceRef) :
    (c.keep r).find? ref = if r.ref = ref then some r else c.find? ref := by
  cases hold : c.find? r.ref with
  | none =>
      have hkeep : c.keep r = { c with seen := c.seen ++ [r] } := by simp [keep, hold]
      rw [hkeep, find?, List.find?_append]
      split_ifs with href
      · rw [← href, ← find?, hold]
        simp
      · simp [find?, href]
  | some old =>
      have hkeep : c.keep r
          = { c with seen := c.seen.map fun s => if s.ref = r.ref then r else s } := by
        simp [keep, hold]
      have hcomp : ((fun s : Resource => decide (s.ref = ref)) ∘
          fun s => if s.ref = r.ref then r else s) = fun s => decide (s.ref = ref) := by
        funext s
        by_cases hs : s.ref = r.ref <;> simp [hs]
      rw [hkeep, find?, List.find?_map, hcomp, ← find?]
      split_ifs with href
      · have hfound : old.ref = r.ref := by simpa using List.find?_some hold
        rw [← href, hold]
        simp [hfound]
      · cases hfind : c.find? ref with
        | none => rfl
        | some found =>
            have hfound : found.ref = ref := by simpa using List.find?_some hfind
            have hne : found.ref ≠ r.ref := fun heq => href (heq.symm.trans hfound)
            simp [hne]

lemma find?_drop (ref other : ResourceRef) :
    (c.drop ref).find? other = if other = ref then none else c.find? other := by
  simp only [drop, find?, List.find?_filter]
  split_ifs with heq
  · subst heq
    simp
  · have hother : ∀ s : Resource, (s.ref ≠ ref ∧ s.ref = other) ↔ s.ref = other := fun s =>
      and_iff_right_of_imp fun hs => hs ▸ heq
    simp only [decide_eq_true_eq, hother]

lemma mem_seen_keep {other : Resource} (h : other ∈ (c.keep r).seen) :
    other = r ∨ other ∈ c.seen := by
  simp only [keep] at h
  split_ifs at h
  · obtain ⟨s, hs, heq⟩ := List.mem_map.1 h
    split_ifs at heq
    · exact .inl heq.symm
    · exact .inr (heq ▸ hs)
  · rcases List.mem_append.1 h with hold | hadded
    · exact .inr hold
    · exact .inl (List.mem_singleton.1 hadded)

/-- A listing that has brought all that was seen ends without a deletion. -/
lemma endListing_of_listed {c : Cache} {listed : List ResourceRef} (h : c.listing = some listed)
    (hseen : ∀ r ∈ c.seen, r.ref ∈ listed) : c.endListing = ([], c.copies) := by
  have hgone : (c.seen.filter fun r => r.ref ∉ listed) = [] := by
    rw [List.filter_eq_nil_iff]
    simpa using hseen
  have hkept : (c.seen.filter fun r => r.ref ∈ listed) = c.seen := by
    rw [List.filter_eq_self]
    simpa using hseen
  simp only [endListing, h, hgone, hkept, List.mergeSort_nil, List.map_nil]
  rfl

lemma fst_see : (c.see r).1 = match c.find? r.ref with
    | none => some (.created r)
    | some old => if old.requests = r.requests then none else some (.updated old r) := rfl

lemma isDeletion_of_see {change : Change} (h : (c.see r).1 = some change) :
    change.isDeletion = false := by
  rw [fst_see] at h
  split at h
  · cases h
    rfl
  · split_ifs at h
    cases h
    rfl

end Cache

end Ipam.Watch
