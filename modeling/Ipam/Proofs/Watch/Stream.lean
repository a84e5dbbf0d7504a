import Ipam.Proofs.Watch.Cache

/-!
# What a watch delivers

A watch delivers listings, and live events between them.  The cache takes them one at a time, and
what an event means for one resource does not depend on the others.

* `Watch.Event`, `Watch.Framed` — what a watch delivers, and in which order.
* `Watch.Cache.take`, `Watch.Cache.after`, `Watch.Cache.trace` — what the cache makes of it.
* `Watch.Since` — something has happened, and something else has not happened since;
  `Watch.LastSeen` says this of the copy of a resource.
* **`Watch.Cache.happens`** — what one event means for one resource. All that is said of streams
  follows from it by induction.
-/

namespace Ipam.Watch

/-! ## Events -/

/-- What a watch delivers. -/
inductive Event where
  /-- A listing begins. -/
  | began
  /-- The listing brings a resource. -/
  | listed (resource : Resource)
  /-- The listing ends. -/
  | ended
  /-- A resource was added or modified. -/
  | applied (resource : Resource)
  /-- A resource was deleted. -/
  | deleted (resource : Resource)

namespace Event

/-- The copy of a resource that an event brings. -/
def copy? : Event → Option Resource
  | .listed r | .applied r => some r
  | .began | .ended | .deleted _ => none

/-- Whether a listing is under way after an event. -/
def opens : Event → Bool
  | .began | .listed _ => true
  | .ended | .applied _ | .deleted _ => false

/-- Where an event may come, inside of a listing or outside.  A listing may begin while another one
is under way, which is then abandoned. -/
def Fits (inside : Bool) : Event → Prop
  | .began => True
  | .listed _ | .ended => inside = true
  | .applied _ | .deleted _ => inside = false

end Event

/-- Every event comes where it may. -/
def Framed : Bool → List Event → Prop
  | _, [] => True
  | inside, event :: rest => event.Fits inside ∧ Framed event.opens rest

/-- Whether a listing is under way after some events. -/
def opensAfter (inside : Bool) (events : List Event) : Bool :=
  events.foldl (fun _ event => event.opens) inside

lemma opensAfter_concat (inside : Bool) (events : List Event) (event : Event) :
    opensAfter inside (events ++ [event]) = event.opens :=
  List.foldl_concat ..

lemma framed_concat_iff {inside : Bool} {events : List Event} {event : Event} :
    Framed inside (events ++ [event]) ↔
      Framed inside events ∧ event.Fits (opensAfter inside events) := by
  induction events generalizing inside with
  | nil => simp [Framed, opensAfter]
  | cons first rest ih => rw [List.cons_append, Framed, Framed, ih, and_assoc]; rfl

/-! ## Something since something -/

section Since

variable {α : Type} {p q : α → Prop} {xs ys : List α} {x : α}

/-- The one thing has happened, and the other has not happened since. -/
def Since (p q : α → Prop) (xs : List α) : Prop :=
  ∃ earlier x later, xs = earlier ++ x :: later ∧ p x ∧ ∀ y ∈ later, ¬ q y

@[simp]
lemma not_since_nil : ¬ Since p q [] := by
  rintro ⟨earlier, x, later, heq, -⟩
  simp at heq

lemma since_append : Since p q (xs ++ ys) ↔ Since p q ys ∨ Since p q xs ∧ ∀ y ∈ ys, ¬ q y := by
  constructor
  · rintro ⟨earlier, x, later, heq, hx, hlater⟩
    rcases List.append_eq_append_iff.1 heq with ⟨front, -, hys⟩ | ⟨back, hxs, hback⟩
    · exact .inl ⟨front, x, later, hys, hx, hlater⟩
    · cases back with
      | nil => exact .inl ⟨[], x, later, hback.symm, hx, hlater⟩
      | cons y back =>
          obtain ⟨rfl, rfl⟩ := List.cons.inj hback
          obtain ⟨hmiddle, hys⟩ := List.forall_mem_append.1 hlater
          exact .inr ⟨⟨earlier, x, back, hxs, hx, hmiddle⟩, hys⟩
  · rintro (⟨earlier, x, later, rfl, hx, hlater⟩ | ⟨⟨earlier, x, later, rfl, hx, hlater⟩, hys⟩)
    · exact ⟨xs ++ earlier, x, later, by simp, hx, hlater⟩
    · exact ⟨earlier, x, later ++ ys, by simp, hx, List.forall_mem_append.2 ⟨hlater, hys⟩⟩

lemma Since.exists_mem (h : Since p q xs) : ∃ x ∈ xs, p x := by
  obtain ⟨earlier, x, later, rfl, hx, -⟩ := h
  exact ⟨x, by simp, hx⟩

lemma since_concat_iff : Since p q (xs ++ [x]) ↔ p x ∨ Since p q xs ∧ ¬ q x := by
  rw [since_append, List.forall_mem_singleton]
  refine or_congr_left ⟨fun h => ?_, fun h => ⟨[], x, [], rfl, h, by simp⟩⟩
  obtain ⟨y, hy, hpy⟩ := h.exists_mem
  exact List.mem_singleton.1 hy ▸ hpy

lemma since_concat (h : p x) : Since p q (xs ++ [x]) :=
  since_concat_iff.2 (.inl h)

/-- Of two things, neither of which may come after the other, the last ones are the same. -/
lemma Since.exists_both {p' q' : α → Prop} (h : Since p q xs) (h' : Since p' q' xs)
    (hq' : ∀ x, p x → q' x) (hq : ∀ x, p' x → q x) : ∃ x, p x ∧ p' x := by
  induction xs using List.reverseRecOn with
  | nil => exact absurd h not_since_nil
  | append_singleton xs x ih =>
      rcases since_concat_iff.1 h with hx | ⟨hearlier, hx⟩
      · rcases since_concat_iff.1 h' with hx' | ⟨-, hx'⟩
        · exact ⟨x, hx, hx'⟩
        · exact absurd (hq' x hx) hx'
      · rcases since_concat_iff.1 h' with hx' | ⟨hearlier', -⟩
        · exact absurd (hq x hx') hx
        · exact ih hearlier hearlier'

/-- What concerns neither of the two makes no difference. -/
lemma since_append_of_forall (hp : ∀ y ∈ ys, ¬ p y) (hq : ∀ y ∈ ys, ¬ q y) :
    Since p q (xs ++ ys) ↔ Since p q xs := by
  rw [since_append, and_iff_left hq, or_iff_right]
  intro h
  obtain ⟨y, hy, hpy⟩ := h.exists_mem
  exact hp y hy hpy

end Since

/-- The copy is the last one of its resource that was brought. -/
def LastSeen (r : Resource) : List Event → Prop :=
  Since (fun event => event.copy? = some r)
    fun event => ∃ other, event.copy? = some other ∧ other.ref = r.ref

section LastSeen

variable {r s : Resource} {events : List Event} {event : Event}

lemma lastSeen_concat_of_other (h : ∀ s, event.copy? = some s → s.ref ≠ r.ref) :
    LastSeen r (events ++ [event]) ↔ LastSeen r events := by
  refine since_append_of_forall ?_ ?_ <;> simp only [List.mem_singleton, forall_eq]
  · exact fun hcopy => h r hcopy rfl
  · rintro ⟨s, hcopy, href⟩
    exact h s hcopy href

lemma lastSeen_concat (h : event.copy? = some r) : LastSeen r (events ++ [event]) :=
  since_concat h

/-- A resource has only one last copy. -/
lemma LastSeen.unique (hr : LastSeen r events) (hs : LastSeen s events) (href : r.ref = s.ref) :
    r = s := by
  obtain ⟨event, hcopy, hcopy'⟩ := Since.exists_both hr hs (fun _ hcopy => ⟨r, hcopy, href⟩)
    fun _ hcopy => ⟨s, hcopy, href.symm⟩
  exact Option.some.inj (hcopy.symm.trans hcopy')

end LastSeen

namespace Cache

variable (c : Cache)

/-! ## A stream of events -/

/-- The cache takes an event: the changes that it finds, and what it has in mind then. -/
def take : Event → List Change × Cache
  | .began => ([], c.beginListing)
  | .listed r => ((c.list r).1.toList, (c.list r).2)
  | .ended => c.endListing
  | .applied r => ((c.see r).1.toList, (c.see r).2)
  | .deleted r => ([(c.forget r).1], (c.forget r).2)

/-- The cache after some events. -/
def after (events : List Event) : Cache :=
  events.foldl (fun c event => (c.take event).2) c

/-- The changes that the cache finds in some events, oldest first. -/
def trace (c : Cache) : List Event → List Change
  | [] => []
  | event :: rest => (c.take event).1 ++ trace (c.take event).2 rest

lemma after_append (events later : List Event) :
    c.after (events ++ later) = (c.after events).after later :=
  List.foldl_append

lemma after_concat (events : List Event) (event : Event) :
    c.after (events ++ [event]) = ((c.after events).take event).2 :=
  c.after_append events [event]

lemma trace_append (events later : List Event) :
    c.trace (events ++ later) = c.trace events ++ (c.after events).trace later := by
  induction events generalizing c with
  | nil => rfl
  | cons event rest ih => rw [List.cons_append, trace, trace, ih, List.append_assoc]; rfl

lemma trace_concat (events : List Event) (event : Event) :
    c.trace (events ++ [event]) = c.trace events ++ ((c.after events).take event).1 := by
  rw [trace_append, trace, trace, List.append_nil]

/-! ## One event -/

variable {c} {event : Event} {ref : ResourceRef} {r : Resource} {change : Change}
  {listed : List ResourceRef}

lemma ref_of_find? (h : c.find? ref = some r) : r.ref = ref := by
  simpa using List.find?_some h

lemma subject_of_see (h : (c.see r).1 = some change) : change.subject = r.ref := by
  rw [fst_see] at h
  split at h
  · cases h
    rfl
  · split_ifs at h
    cases h
    rfl

/-- An event that brings a copy shows it to the cache. -/
lemma take_of_copy? (h : event.copy? = some r) :
    ∃ listing, c.take event
      = (({ c with listing }.see r).1.toList, ({ c with listing }.see r).2) := by
  cases event with
  | listed s =>
      cases h
      exact ⟨_, rfl⟩
  | applied s =>
      cases h
      exact ⟨c.listing, rfl⟩
  | began | ended | deleted s => cases h

lemma mem_endListing (h : c.listing = some listed) :
    change ∈ c.endListing.1 ↔ ∃ r ∈ c.seen, r.ref ∉ listed ∧ change = .deleted r := by
  simp only [endListing, h, List.mem_map, List.mem_mergeSort, List.mem_filter, decide_eq_true_eq,
    and_assoc, @eq_comm _ change]

lemma find?_endListing (h : c.listing = some listed) :
    c.endListing.2.find? ref = if ref ∈ listed then c.find? ref else none := by
  simp only [endListing, h, find?, List.find?_filter, decide_eq_true_eq]
  split_ifs with hmem
  · have hlisted : ∀ s : Resource, (s.ref ∈ listed ∧ s.ref = ref) ↔ s.ref = ref := fun s =>
      and_iff_right_of_imp fun hs => hs ▸ hmem
    simp only [hlisted]
  · rw [List.find?_eq_none]
    rintro s - hs
    obtain ⟨hlisted, rfl⟩ := of_decide_eq_true hs
    exact hmem hlisted

/-- What an event means for one resource. -/
inductive Happens (c : Cache) (event : Event) (ref : ResourceRef) : Prop where
  /-- Nothing. -/
  | rests (copy : ∀ r, event.copy? = some r → r.ref ≠ ref)
      (found : ∀ change ∈ (c.take event).1, change.subject ≠ ref)
      (kept : (c.take event).2.find? ref = c.find? ref)
  /-- It is seen for the first time. -/
  | first (r : Resource) (copy : event.copy? = some r) (named : r.ref = ref)
      (cached : c.find? ref = none) (found : (c.take event).1 = [.created r])
      (kept : (c.take event).2.find? ref = some r)
  /-- It is seen again with the same requests. -/
  | again (old r : Resource) (copy : event.copy? = some r) (named : r.ref = ref)
      (cached : c.find? ref = some old) (same : old.requests = r.requests)
      (found : (c.take event).1 = []) (kept : (c.take event).2.find? ref = some r)
  /-- It is seen with other requests. -/
  | changed (old r : Resource) (copy : event.copy? = some r) (named : r.ref = ref)
      (cached : c.find? ref = some old) (other : old.requests ≠ r.requests)
      (found : (c.take event).1 = [.updated old r]) (kept : (c.take event).2.find? ref = some r)
  /-- It is gone. -/
  | gone (copy : event.copy? = none) (only : ∀ change ∈ (c.take event).1, change.isDeletion = true)
      (found : ∃ change ∈ (c.take event).1, change.subject = ref)
      (kept : (c.take event).2.find? ref = none)

/-- A copy of a resource means something for it alone. -/
lemma happens_of_copy? (h : event.copy? = some r) (ref : ResourceRef) : c.Happens event ref := by
  obtain ⟨listing, htake⟩ := take_of_copy? (c := c) h
  have hkept : (c.take event).2.find? ref = if r.ref = ref then some r else c.find? ref := by
    rw [htake]
    exact find?_keep _ r ref
  by_cases href : r.ref = ref
  · rw [if_pos href] at hkept
    have hfind : Cache.find? { c with listing } r.ref = c.find? ref := href ▸ rfl
    have hchange : (c.take event).1 = ({ c with listing }.see r).1.toList := congrArg Prod.fst htake
    rw [fst_see, hfind] at hchange
    cases hcached : c.find? ref with
    | none =>
        rw [hcached] at hchange
        exact .first r h href hcached hchange hkept
    | some old =>
        simp only [hcached] at hchange
        by_cases hsame : old.requests = r.requests
        · rw [if_pos hsame] at hchange
          exact .again old r h href hcached hsame hchange hkept
        · rw [if_neg hsame] at hchange
          exact .changed old r h href hcached hsame hchange hkept
  · rw [if_neg href] at hkept
    refine .rests (fun s hs => ?_) (fun change hchange => ?_) hkept
    · cases h.symm.trans hs
      exact href
    · rw [htake, Option.mem_toList] at hchange
      rw [subject_of_see hchange]
      exact href

/-- The end of a listing means something for the resources that it did not bring. -/
lemma happens_ended (ref : ResourceRef) : c.Happens .ended ref := by
  have hcopy : ∀ r, Event.ended.copy? = some r → r.ref ≠ ref := fun r hr => by cases hr
  cases hlisting : c.listing with
  | none =>
      have htake : c.take .ended = ([], c) := by simp only [take, endListing, hlisting]
      refine .rests hcopy ?_ ?_ <;> simp [htake]
  | some listed =>
      have hkept : (c.take .ended).2.find? ref = if ref ∈ listed then c.find? ref else none :=
        find?_endListing hlisting
      by_cases hgone : ref ∉ listed ∧ (c.find? ref).isSome = true
      · obtain ⟨hunlisted, hcached⟩ := hgone
        obtain ⟨r, hr⟩ := Option.isSome_iff_exists.1 hcached
        rw [if_neg hunlisted] at hkept
        refine .gone rfl (fun change hchange => ?_) ⟨.deleted r, ?_, ref_of_find? hr⟩ hkept
        · obtain ⟨-, -, -, rfl⟩ := (mem_endListing hlisting).1 hchange
          rfl
        · exact (mem_endListing hlisting).2
            ⟨r, List.mem_of_find?_eq_some hr, (ref_of_find? hr).symm ▸ hunlisted, rfl⟩
      · refine .rests hcopy (fun change hchange hsubject => hgone ?_) ?_
        · obtain ⟨r, hr, hunlisted, rfl⟩ := (mem_endListing hlisting).1 hchange
          subst hsubject
          exact ⟨hunlisted, List.find?_isSome.2 ⟨r, hr, by simp [Change.subject]⟩⟩
        · rw [hkept]
          split_ifs with hlisted
          · rfl
          · have hnone : ¬ (c.find? ref).isSome = true := fun hcached => hgone ⟨hlisted, hcached⟩
            exact (Option.not_isSome_iff_eq_none.1 hnone).symm

/-- **Every event means for every resource one of five things.** -/
theorem happens (c : Cache) (event : Event) (ref : ResourceRef) : c.Happens event ref := by
  cases event with
  | began => exact .rests (fun r hr => by cases hr) (by simp [take]) rfl
  | listed r => exact happens_of_copy? rfl ref
  | ended => exact happens_ended ref
  | applied r => exact happens_of_copy? rfl ref
  | deleted r =>
      have hkept : (c.take (.deleted r)).2.find? ref = if ref = r.ref then none else c.find? ref :=
        find?_drop c r.ref ref
      by_cases href : r.ref = ref
      · rw [if_pos href.symm] at hkept
        exact .gone rfl (by simp [take, forget, Change.isDeletion])
          ⟨.deleted r, by simp [take, forget], href⟩ hkept
      · rw [if_neg (Ne.symm href)] at hkept
        exact .rests (fun s hs => by cases hs) (by simpa [take, forget, Change.subject]) hkept

end Cache

end Ipam.Watch
