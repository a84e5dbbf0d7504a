import Ipam.Proofs.Cluster.Departure
import Ipam.Proofs.Cluster.Population
import Ipam.Proofs.Watch.Cache

/-!
# What the watcher is about to find

The events that have not reached the watcher yet already determine the changes that it will find.
`foresee` says which, and from then on an event counts as the change that it will become.

* `hear`, `foresee` — the changes for one event, and for some events.
* `Controller.inbox`, `Controller.foreseen` — the events that are to reach the watcher, and the
  changes that it will find in them.
* `Controller.traffic` — the traffic of a controller.
-/

namespace Ipam.Cluster

open Watch (Cache Change)

/-! ## Events -/

/-- The changes that the watcher finds in an event, and what it has seen then. -/
def hear (c : Cache) : Event → List Change × Cache
  | .applied (some r) => ((c.see r).1.toList, (c.see r).2)
  | .deleted (some r) => ([(c.forget r).1], (c.forget r).2)
  | .applied none | .deleted none | .expired => ([], c)

/-- The changes that the watcher will find in some events, and what it will have seen then. -/
def foresee (c : Cache) : List Event → List Change × Cache
  | [] => ([], c)
  | event :: events =>
    ((hear c event).1 ++ (foresee (hear c event).2 events).1, (foresee (hear c event).2 events).2)

lemma foresee_concat (c : Cache) (events : List Event) (event : Event) :
    foresee c (events ++ [event])
      = ((foresee c events).1 ++ (hear (foresee c events).2 event).1,
        (hear (foresee c events).2 event).2) := by
  induction events generalizing c with
  | nil => simp [foresee]
  | cons first rest ih => simp [foresee, ih]

/-- Resources that are listed for the first time will all be found to be new. -/
lemma foresee_listing {rs : List Resource} (hnodup : (rs.map (·.ref)).Nodup) {c : Cache}
    (hnew : ∀ r ∈ rs, c.find? r.ref = none) :
    foresee c (rs.map fun r => .applied (some r))
      = (rs.map .created, { c with seen := c.seen ++ rs }) := by
  induction rs generalizing c with
  | nil => simp [foresee]
  | cons r rest ih =>
      obtain ⟨hr, hrest⟩ := List.forall_mem_cons.1 hnew
      obtain ⟨hfirst, hlater⟩ := List.nodup_cons.1 hnodup
      have hsee : c.see r = (some (.created r), { c with seen := c.seen ++ [r] }) := by
        simp [Cache.see, Cache.keep, hr]
      have hothers : ∀ other ∈ rest,
          Cache.find? { c with seen := c.seen ++ [r] } other.ref = none := by
        intro other hother
        have hne : r.ref ≠ other.ref := fun heq =>
          hfirst (List.mem_map.2 ⟨other, hother, heq.symm⟩)
        have hnone := hrest other hother
        rw [Cache.find?] at hnone ⊢
        simp [hnone, hne]
      have hrest' := ih hlater hothers
      simp [foresee, hear, hsee, hrest']

/-! ## The traffic of a controller -/

namespace Controller

variable {σ : Type}

/-- The events that are to reach the watcher.  What is left of a listing comes first; before the
first listing there are none, since that will bring all there is. -/
def inbox (s : Controller σ) : List Event :=
  match s.watcher.phase with
  | .unlisted => []
  | .listing rest => rest.map (fun r => .applied (some r)) ++ s.server.events
  | .listed | .watching | .ended => s.server.events

/-- The changes that the watcher will find, and what it will have seen then. -/
def foreseen (s : Controller σ) : List Change × Cache :=
  foresee s.watcher.cache.copies s.inbox

/-- The traffic of a controller, given the store that the last written outcome has left and what is
lost. -/
def traffic (s : Controller Store) (written : Store) (lost : Losses) : Traffic where
  status := s.server.status
  changes := s.watcher.changes ++ s.foreseen.1
  queued := s.pipeline.requests ++ s.pipeline.unsent
  store := s.pipeline.state
  outcomes := s.writing.toList ++ s.pipeline.results ++ s.pipeline.pending.toList
  written := written
  lost := lost

end Controller

end Ipam.Cluster
