import Ipam.Proofs.Watch.Stream

/-!
# Which changes a watch leads to

Whatever a watch delivers, the changes that the cache finds tell a consistent story of every
resource: it is created first, every update starts from what the last change has brought, and a
listing removes what was there and is not listed.

* `Watch.Alive`, `Watch.Asked` — what changes say of a resource.
* `Watch.Cache.Tracks` — the invariant: the cache has a copy of exactly the resources that are
  alive, the last one that was seen, with the requests of their last change.
* `Watch.exists_listing` — in a framed stream, the end of a listing follows the listing.
* `Watch.Classified`, **`Watch.classified`** — what is known of the changes that an event leads to.
-/

namespace Ipam.Watch

/-! ## What changes say of a resource -/

/-- The requests that a create or an update brings. -/
def Change.wanted? : Change → Option (List Request)
  | .created r => some r.requests
  | .updated _ new => some new.requests
  | .deleted _ => none

/-- The resource was created and not deleted since. -/
def Alive (ref : ResourceRef) : List Change → Prop :=
  Since (fun change => ∃ r, change = .created r ∧ r.ref = ref)
    fun change => change.subject = ref ∧ change.isDeletion = true

/-- The last create or update of the resource has brought the requests. -/
def Asked (ref : ResourceRef) (requests : List Request) : List Change → Prop :=
  Since (fun change => change.subject = ref ∧ change.wanted? = some requests)
    fun change => change.subject = ref ∧ change.wanted?.isSome = true

variable {ref : ResourceRef} {r : Resource} {changes batch : List Change} {events : List Event}
  {event : Event}

lemma alive_append_of_other (h : ∀ change ∈ batch, change.subject ≠ ref) :
    Alive ref (changes ++ batch) ↔ Alive ref changes := by
  refine since_append_of_forall (fun change hchange => ?_) fun change hchange hgone =>
    h change hchange hgone.1
  rintro ⟨r, rfl, href⟩
  exact h _ hchange href

lemma asked_append_of_other {requests : List Request} (h : ∀ change ∈ batch, change.subject ≠ ref) :
    Asked ref requests (changes ++ batch) ↔ Asked ref requests changes :=
  since_append_of_forall (fun change hchange hasked => h change hchange hasked.1)
    fun change hchange hasked => h change hchange hasked.1

namespace Cache

/-! ## The invariant -/

/-- The cache fits the events that it took and the changes that it found in them. -/
structure Tracks (c : Cache) (events : List Event) (changes : List Change) (ref : ResourceRef) :
    Prop where
  alive : (c.find? ref).isSome = true ↔ Alive ref changes
  lastSeen : ∀ r, c.find? ref = some r → LastSeen r events
  asked : ∀ r, c.find? ref = some r → Asked ref r.requests changes

variable {c : Cache}

/-- One event keeps the invariant. -/
lemma Tracks.take (h : c.Tracks events changes ref) (event : Event) :
    (c.take event).2.Tracks (events ++ [event]) (changes ++ (c.take event).1) ref := by
  cases c.happens event ref with
  | rests copy found kept =>
      refine ⟨?_, fun r hr => ?_, fun r hr => ?_⟩
      · rw [kept, h.alive, alive_append_of_other found]
      · rw [kept] at hr
        have href := ref_of_find? hr
        exact (lastSeen_concat_of_other fun s hs => href.symm ▸ copy s hs).2 (h.lastSeen r hr)
      · rw [kept] at hr
        exact (asked_append_of_other found).2 (h.asked r hr)
  | first r copy named cached found kept =>
      rw [found]
      refine ⟨iff_of_true (by simp [kept]) (since_concat ⟨r, rfl, named⟩), fun s hs => ?_,
        fun s hs => ?_⟩ <;> cases kept.symm.trans hs
      · exact lastSeen_concat copy
      · exact since_concat ⟨named, rfl⟩
  | again old r copy named cached same found kept =>
      rw [found, List.append_nil]
      refine ⟨iff_of_true (by simp [kept]) (h.alive.1 (by simp [cached])), fun s hs => ?_,
        fun s hs => ?_⟩ <;> cases kept.symm.trans hs
      · exact lastSeen_concat copy
      · exact same ▸ h.asked old cached
  | changed old r copy named cached other found kept =>
      rw [found]
      have halive : Alive ref (changes ++ [.updated old r]) :=
        since_append.2 (.inr ⟨h.alive.1 (by simp [cached]), by simp [Change.isDeletion]⟩)
      refine ⟨iff_of_true (by simp [kept]) halive, fun s hs => ?_, fun s hs => ?_⟩ <;>
        cases kept.symm.trans hs
      · exact lastSeen_concat copy
      · exact since_concat ⟨named, rfl⟩
  | gone copy only found kept =>
      refine ⟨iff_of_false (by simp [kept]) fun halive => ?_, fun s hs => ?_, fun s hs => ?_⟩
      · obtain ⟨change, hchange, hsubject⟩ := found
        rcases since_append.1 halive with hcreated | ⟨-, hstays⟩
        · obtain ⟨_, hmem, r, rfl, -⟩ := hcreated.exists_mem
          cases only _ hmem
        · exact hstays change hchange ⟨hsubject, only change hchange⟩
      · cases kept.symm.trans hs
      · cases kept.symm.trans hs

end Cache

/-- What a watcher has in mind that started with these events. -/
abbrev known (events : List Event) : Cache :=
  ({} : Cache).after events

/-- The changes that such a watcher has found. -/
abbrev history (events : List Event) : List Change :=
  ({} : Cache).trace events

/-- The changes that such a watcher finds in a further event. -/
abbrev found (events : List Event) (event : Event) : List Change :=
  ((known events).take event).1

/-- **The invariant holds after every stream of events.** -/
theorem tracks (events : List Event) (ref : ResourceRef) :
    (known events).Tracks events (history events) ref := by
  induction events using List.reverseRecOn with
  | nil =>
      refine ⟨iff_of_false (by simp [known, Cache.after, Cache.find?]) not_since_nil, ?_, ?_⟩ <;>
        intro r hr <;> cases hr
  | append_singleton events event ih =>
      rw [known, history, Cache.after_concat, Cache.trace_concat]
      exact ih.take event

/-! ## Listings -/

namespace Cache

variable {c : Cache}

/-- No two copies are of the same resource. -/
def Distinct (c : Cache) : Prop :=
  (c.seen.map Resource.ref).Nodup

lemma Distinct.filter (h : c.Distinct) (p : Resource → Bool) :
    ((c.seen.filter p).map Resource.ref).Nodup :=
  h.sublist (List.filter_sublist.map _)

lemma Distinct.keep (h : c.Distinct) (r : Resource) : (c.keep r).Distinct := by
  unfold Distinct Cache.keep
  split_ifs with hcached
  · have hrefs : (Resource.ref ∘ fun s => if s.ref = r.ref then r else s) = Resource.ref := by
      funext s
      by_cases hs : s.ref = r.ref <;> simp [hs]
    rw [List.map_map, hrefs]
    exact h
  · have hnew : ∀ s ∈ c.seen, s.ref ≠ r.ref := by simpa [find?] using hcached
    rw [List.map_append, List.nodup_append]
    refine ⟨h, by simp, ?_⟩
    simpa using hnew

lemma Distinct.take (h : c.Distinct) (event : Event) : (c.take event).2.Distinct := by
  cases event with
  | began => exact h
  | listed r | applied r => exact Distinct.keep h r
  | deleted r => exact h.filter _
  | ended =>
      change c.endListing.2.Distinct
      rw [endListing]
      split
      · exact h
      · exact h.filter _

/-- The copies are those that are found under their references. -/
lemma Distinct.mem_seen_iff (h : c.Distinct) : r ∈ c.seen ↔ c.find? r.ref = some r := by
  constructor
  · intro hr
    obtain ⟨s, hs⟩ : ∃ s, c.find? r.ref = some s :=
      Option.isSome_iff_exists.1 (List.find?_isSome.2 ⟨r, hr, by simp⟩)
    have hsame := List.inj_on_of_nodup_map h (List.mem_of_find?_eq_some hs) hr (ref_of_find? hs)
    rw [hs, hsame]
  · exact List.mem_of_find?_eq_some

/-- What a cache has in mind after a listing has brought some resources. -/
lemma after_listed {references : List ResourceRef} (h : c.listing = some references)
    (listed : List Resource) :
    (∃ all, (c.after (listed.map .listed)).listing = some all ∧
        ∀ ref, ref ∈ all ↔ ref ∈ listed.map Resource.ref ∨ ref ∈ references) ∧
      ∀ ref,
        (ref ∈ listed.map Resource.ref →
          ((c.after (listed.map .listed)).find? ref).isSome = true) ∧
        (ref ∉ listed.map Resource.ref →
          (c.after (listed.map .listed)).find? ref = c.find? ref) := by
  induction listed generalizing c references with
  | nil => exact ⟨⟨references, h, by simp⟩, by simp [after]⟩
  | cons r rest ih =>
      have hlisting : (c.take (.listed r)).2.listing = some (r.ref :: references) := by
        simp [Cache.take, list, see, Cache.keep, h]
      have hfind : ∀ ref, (c.take (.listed r)).2.find? ref
          = if r.ref = ref then some r else c.find? ref := find?_keep _ r
      obtain ⟨⟨all, hall, hmem⟩, hcopies⟩ := ih hlisting
      refine ⟨⟨all, hall, fun ref => ?_⟩, fun ref => ⟨fun href => ?_, fun href => ?_⟩⟩
      · rw [hmem, List.map_cons, List.mem_cons, List.mem_cons]
        tauto
      · by_cases hlater : ref ∈ rest.map Resource.ref
        · exact (hcopies ref).1 hlater
        · have hname : r.ref = ref := ((List.mem_cons.1 href).resolve_right hlater).symm
          have hsame := (hcopies ref).2 hlater
          rw [hfind, if_pos hname] at hsame
          exact Option.isSome_iff_exists.2 ⟨r, hsame⟩
      · rw [List.map_cons, List.mem_cons, not_or] at href
        have hsame := (hcopies ref).2 href.2
        rwa [hfind, if_neg (Ne.symm href.1)] at hsame

end Cache

lemma distinct_known (events : List Event) : (known events).Distinct := by
  induction events using List.reverseRecOn with
  | nil => exact List.nodup_nil
  | append_singleton events event ih =>
      rw [known, Cache.after_concat]
      exact ih.take event

/-- An event that comes inside of a listing follows its beginning and what it has brought. -/
lemma exists_listing (h : Framed false (events ++ [event])) (hinside : ¬ event.Fits false) :
    ∃ (earlier : List Event) (listed : List Resource),
      events = earlier ++ .began :: listed.map .listed := by
  induction events using List.reverseRecOn generalizing event with
  | nil => exact absurd h.1 hinside
  | append_singleton events last ih =>
      obtain ⟨hframed, hfits⟩ := framed_concat_iff.1 h
      rw [opensAfter_concat] at hfits
      cases last with
      | began => exact ⟨events, [], rfl⟩
      | listed r =>
          obtain ⟨earlier, listed, rfl⟩ := ih hframed (by simp [Event.Fits])
          exact ⟨earlier, listed ++ [r], by simp⟩
      | ended | applied _ | deleted _ => exact absurd hfits hinside

/-- Before a listing ends, it has brought the references of the listed resources.  These are known
then, and of all others what was known before. -/
lemma known_of_listing (earlier : List Event) (listed : List Resource) :
    ∃ all, (known (earlier ++ .began :: listed.map .listed)).listing = some all ∧
      (∀ ref, ref ∈ all ↔ ref ∈ listed.map Resource.ref) ∧
      ∀ ref,
        (ref ∈ listed.map Resource.ref →
          ((known (earlier ++ .began :: listed.map .listed)).find? ref).isSome = true) ∧
        (ref ∉ listed.map Resource.ref →
          (known (earlier ++ .began :: listed.map .listed)).find? ref
            = (known earlier).find? ref) := by
  have hknown : known (earlier ++ .began :: listed.map .listed)
      = (known earlier).beginListing.after (listed.map .listed) := Cache.after_append _ earlier _
  obtain ⟨⟨all, hall, hmem⟩, hcopies⟩ :=
    Cache.after_listed (c := (known earlier).beginListing) rfl listed
  rw [hknown]
  exact ⟨all, hall, fun ref => (hmem ref).trans (or_iff_left List.not_mem_nil), hcopies⟩

/-- What the end of a listing finds, and what is known then. -/
structure Exact (earlier : List Event) (listed : List Resource) (found : List Change) (c : Cache) :
    Prop where
  /-- Exactly the listed resources are known. -/
  cached : ∀ ref, (c.find? ref).isSome = true ↔ ref ∈ listed.map Resource.ref
  /-- Exactly the resources are deleted that were known before and are not listed, each of them once
  and as it was seen last. -/
  gone : ∃ gone : List Resource, found = gone.map .deleted ∧ (gone.map Resource.ref).Nodup ∧
    (∀ r, r ∈ gone ↔
      (known earlier).find? r.ref = some r ∧ r.ref ∉ listed.map Resource.ref) ∧
    ∀ r ∈ gone, LastSeen r (earlier ++ .began :: listed.map .listed)

/-- **The end of a listing is exact.** -/
lemma exact_of_listing (earlier : List Event) (listed : List Resource) :
    Exact earlier listed (found (earlier ++ .began :: listed.map .listed) .ended)
      (known (earlier ++ .began :: listed.map .listed ++ [.ended])) := by
  obtain ⟨all, hall, hmem, hcopies⟩ := known_of_listing earlier listed
  set events := earlier ++ .began :: listed.map .listed
  constructor
  · intro ref
    rw [known, Cache.after_concat, ← known]
    change ((known events).endListing.2.find? ref).isSome = true ↔ _
    rw [Cache.find?_endListing hall, ← hmem]
    split_ifs with hlisted
    · exact iff_of_true ((hcopies ref).1 ((hmem ref).1 hlisted)) hlisted
    · exact iff_of_false (by simp) hlisted
  · refine ⟨((known events).seen.filter fun r => r.ref ∉ all).mergeSort Cache.refOrder, ?_, ?_,
      fun r => ?_, fun r hr => ?_⟩
    · simp only [found, Cache.take, Cache.endListing, hall]
    · rw [((List.mergeSort_perm _ _).map Resource.ref).nodup_iff]
      exact (distinct_known events).filter _
    · rw [List.mem_mergeSort, List.mem_filter, decide_eq_true_eq, hmem,
        (distinct_known events).mem_seen_iff]
      exact and_congr_left fun hgone => by rw [(hcopies r.ref).2 hgone]
    · have hseen := (List.mem_filter.1 (List.mem_mergeSort.1 hr)).1
      exact (tracks events r.ref).lastSeen r ((distinct_known events).mem_seen_iff.1 hseen)

/-! ## Every event -/

/-- What is known of the changes that an event leads to. -/
structure Classified (events : List Event) (event : Event) : Prop where
  /-- The end of a listing is exact, with regard to all that this listing has brought. -/
  ended : event = .ended → ∃ (earlier : List Event) (listed : List Resource),
    events = earlier ++ .began :: listed.map .listed ∧
      Exact earlier listed (found events event) (known (events ++ [event]))
  /-- An update is of a resource that is there, and starts from the requests of its last change. -/
  updated : ∀ old new, .updated old new ∈ found events event →
    old.ref = new.ref ∧ Alive new.ref (history events) ∧
      Asked new.ref old.requests (history events) ∧ old.requests ≠ new.requests
  /-- The end of a listing deletes resources that are there. -/
  removed : event = .ended → ∀ r, .deleted r ∈ found events event → Alive r.ref (history events)
  /-- A copy leads to no change exactly if a copy with the same requests is known, whatever their
  statuses. -/
  silent : ∀ r, event.copy? = some r →
    (found events event = [] ↔
      ∃ old, (known events).find? r.ref = some old ∧ old.requests = r.requests)

/-- An update comes from a copy with other requests than the known one. -/
lemma Cache.cached_of_updated {c : Cache} {old new : Resource}
    (h : .updated old new ∈ (c.take event).1) :
    c.find? new.ref = some old ∧ old.requests ≠ new.requests := by
  cases c.happens event new.ref with
  | rests copy found kept => exact absurd rfl (found _ h)
  | first r copy named cached found kept => simp [found] at h
  | again old r copy named cached same found kept => simp [found] at h
  | changed old r copy named cached other found kept =>
      rw [found, List.mem_singleton, Change.updated.injEq] at h
      obtain ⟨rfl, rfl⟩ := h
      exact ⟨cached, other⟩
  | gone copy only found kept => cases only _ h

lemma Cache.silent_iff {c : Cache} (h : event.copy? = some r) :
    (c.take event).1 = [] ↔ ∃ old, c.find? r.ref = some old ∧ old.requests = r.requests := by
  cases c.happens event r.ref with
  | rests copy found kept => exact absurd rfl (copy r h)
  | first s copy named cached found kept => simp [found, cached]
  | again old s copy named cached same found kept =>
      cases h.symm.trans copy
      exact iff_of_true found ⟨old, cached, same⟩
  | changed old s copy named cached other found kept =>
      cases h.symm.trans copy
      simp [found, cached, other]
  | gone copy only found kept => cases h.symm.trans copy

lemma alive_of_ended (h : .deleted r ∈ found events .ended) : Alive r.ref (history events) := by
  rw [← (tracks events r.ref).alive]
  cases hlisting : (known events).listing with
  | none => simp [found, Cache.take, Cache.endListing, hlisting] at h
  | some listed =>
      obtain ⟨s, hs, -, heq⟩ := (Cache.mem_endListing hlisting).1 h
      cases heq
      exact List.find?_isSome.2 ⟨r, hs, by simp⟩

/-- **Every event of a watch leads to the right changes**: listings are exact, only resources that
are there are updated or missed, updates continue each other, and what is no news is ignored. -/
theorem classified (h : Framed false (events ++ [event])) : Classified events event where
  ended hended := by
    subst hended
    obtain ⟨earlier, listed, rfl⟩ := exists_listing h (by simp [Event.Fits])
    exact ⟨earlier, listed, rfl, exact_of_listing earlier listed⟩
  updated old new hfound := by
    obtain ⟨hcached, hother⟩ := Cache.cached_of_updated hfound
    have htracks := tracks events new.ref
    exact ⟨Cache.ref_of_find? hcached, htracks.alive.1 (by simp [hcached]),
      htracks.asked old hcached, hother⟩
  removed hended r hfound := by
    subst hended
    exact alive_of_ended hfound
  silent _ hcopy := Cache.silent_iff hcopy

/-- A resource that asks for addresses of one pool. -/
def asking (name : String) (hosts : List String) : Resource where
  metadata := { name := some name, ns := some "prod" }
  requests := hosts.map fun host => { host := some host, label := some "lan" }
  status := none

/-- A listing is abandoned, a second one is complete, and a third one misses a resource that has
changed meanwhile. -/
def relisted : List Event :=
  [.began, .listed (asking "web" ["www"]), .began, .listed (asking "web" ["www"]),
    .listed (asking "db" ["sql"]), .ended, .applied (asking "db" ["sql", "log"]), .began,
    .listed (asking "web" ["www"])]

theorem classified_relisted :
    Framed false (relisted ++ [.ended]) ∧ Classified relisted .ended ∧
      .deleted (asking "db" ["sql", "log"]) ∈ found relisted .ended := by
  have hframed : Framed false (relisted ++ [.ended]) := by
    simp [relisted, Framed, Event.Fits, Event.opens]
  have hlisting : (known relisted).listing = some [⟨"web", "prod"⟩] := by cbv
  have hseen : asking "db" ["sql", "log"] ∈ (known relisted).seen := by
    have hcopies : (known relisted).seen = [asking "web" ["www"], asking "db" ["sql", "log"]] := by
      cbv
    simp [hcopies]
  exact ⟨hframed, classified hframed,
    (Cache.mem_endListing hlisting).2 ⟨_, hseen, by decide, rfl⟩⟩

end Ipam.Watch
