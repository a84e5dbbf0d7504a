import Ipam.Proofs.Cluster.Steps
import Ipam.Proofs.Watch.Stream

/-!
# What the watcher of a controller hears

Whatever happens around it, a watcher shows its cache listings and live events between them, one at
a time, and dispatches the changes that are found in the order in which they are found.  So all that
holds of framed streams of events holds of a running controller.

* `Controller.Happens` — a step of a part, or anything that happens to the server, or the end of the
  coordinator.
* `Controller.Heard` — the watcher has shown a stream of events to its cache.
* **`Controller.heard_of_run`** — in every run it has.
-/

namespace Ipam.Cluster.Controller

open Watch (Cache opensAfter)

variable {σ : Type} {e : Setting σ} {s s' : Controller σ} {events : List Watch.Event}

/-- A step of a part, or anything that happens to the server, or the end of the coordinator. -/
inductive Happens (e : Setting σ) (s : Controller σ) : Controller σ → Prop where
  | act {s' : Controller σ} (activity : Activity) (h : s.act? e activity = some s') : Happens e s s'
  | serves (server : Server) : Happens e s { s with server }
  | dies : Happens e s s.kill

/-- Only the watcher itself changes the watcher. -/
lemma watcher_eq_of_act {activity : Activity} (hwatch : activity ≠ .watch)
    (hsend : activity ≠ .send) (h : s.act? e activity = some s') : s'.watcher = s.watcher := by
  cases activity with
  | watch => exact absurd rfl hwatch
  | send => exact absurd rfl hsend
  | publish =>
      rw [act?, publish?] at h
      split_ifs at h
      obtain ⟨pipeline, -, rfl⟩ := Option.map_eq_some_iff.1 h
      rfl
  | work =>
      rw [act?, work?] at h
      split_ifs at h
      obtain ⟨pipeline, -, rfl⟩ := Option.map_eq_some_iff.1 h
      rfl
  | receive =>
      rw [act?, receive?] at h
      split_ifs at h
      · cases h
      · simp only [bind, pure, Option.bind_eq_some_iff, Option.some.injEq] at h
        obtain ⟨outcome, -, pipeline, -, rfl⟩ := h
        rfl
  | write =>
      obtain ⟨outcome, metrics, -, rfl⟩ := write?_eq_some h
      rfl

/-- The watcher has shown the events to its cache, and has dispatched the first of the changes that
were found, or ended. -/
structure Heard (s : Controller σ) (events : List Watch.Event) : Prop where
  framed : Watch.Framed false events
  cache : s.watcher.cache = ({} : Cache).after events
  changes : s.watcher.changes <:+ ({} : Cache).trace events
  listing : ∀ rest, s.watcher.phase = .listing rest → opensAfter false events = true
  live : s.watcher.phase = .listed ∨ s.watcher.phase = .watching → opensAfter false events = false

/-- The watcher shows one more event to its cache. -/
lemma Heard.take (h : s.Heard events) (event : Watch.Event)
    (hfits : event.Fits (opensAfter false events))
    (hcache : s'.watcher.cache = (s.watcher.cache.take event).2)
    (hchanges : s'.watcher.changes = s.watcher.changes ++ (s.watcher.cache.take event).1)
    (hlisting : ∀ rest, s'.watcher.phase = .listing rest → event.opens = true)
    (hlive : s'.watcher.phase = .listed ∨ s'.watcher.phase = .watching → event.opens = false) :
    ∃ later, s'.Heard (events ++ later) := by
  refine ⟨[event], Watch.framed_concat_iff.2 ⟨h.framed, hfits⟩, ?_, ?_, fun rest hphase => ?_,
    fun hphase => ?_⟩
  · rw [hcache, h.cache, Cache.after_concat]
  · obtain ⟨dispatched, hdispatched⟩ := h.changes
    refine ⟨dispatched, ?_⟩
    rw [hchanges, ← List.append_assoc, hdispatched, Cache.trace_concat, h.cache]
  · rw [Watch.opensAfter_concat, hlisting rest hphase]
  · rw [Watch.opensAfter_concat, hlive hphase]

/-- The watcher shows nothing to its cache. -/
lemma Heard.rest (h : s.Heard events) (hcache : s'.watcher.cache = s.watcher.cache)
    (hchanges : s'.watcher.changes <:+ s.watcher.changes)
    (hlisting : ∀ rest, s'.watcher.phase = .listing rest → s.watcher.phase = .listing rest)
    (hlive : s'.watcher.phase = .listed ∨ s'.watcher.phase = .watching →
      s.watcher.phase = .listed ∨ s.watcher.phase = .watching) :
    ∃ later, s'.Heard (events ++ later) := by
  refine ⟨[], ?_⟩
  rw [List.append_nil]
  exact ⟨h.framed, hcache.trans h.cache, hchanges.trans h.changes,
    fun rest hphase => h.listing rest (hlisting rest hphase), fun hphase => h.live (hlive hphase)⟩

/-- A step of another part leaves the watcher alone. -/
lemma Heard.same (h : s.Heard events) (hwatcher : s'.watcher = s.watcher) :
    ∃ later, s'.Heard (events ++ later) :=
  h.rest (by rw [hwatcher]) (by rw [hwatcher]) (by simp [hwatcher]) (by simp [hwatcher])

/-- The watcher takes an event of its watch. -/
lemma Heard.takeLive (h : s.Heard events) (hphase : s.watcher.phase = .watching) (server : Server)
    (event : Event) : ∃ later, ({ s with server }.take event).Heard (events ++ later) := by
  have houtside := h.live (.inr hphase)
  have hlisting : ∀ rest, s.watcher.phase ≠ .listing rest := by simp [hphase]
  cases event with
  | applied resource =>
      cases resource with
      | none => exact h.rest rfl List.suffix_rfl (fun _ => id) id
      | some r =>
          exact h.take (.applied r) houtside rfl rfl (fun rest => (absurd · (hlisting rest)))
            fun _ => rfl
  | deleted resource =>
      cases resource with
      | none => exact h.rest rfl List.suffix_rfl (fun _ => id) id
      | some r =>
          exact h.take (.deleted r) houtside rfl rfl (fun rest => (absurd · (hlisting rest)))
            fun _ => rfl
  | expired =>
      exact h.rest rfl List.suffix_rfl (by simp [Controller.take]) (by simp [Controller.take])

/-- The watcher looks for changes. -/
lemma Heard.look (h : s.Heard events) (hlook : s.look? = some s') :
    ∃ later, s'.Heard (events ++ later) := by
  rw [look?] at hlook
  split at hlook
  · split at hlook
    · cases hlook
    · cases hlook
      exact h.take .began trivial rfl (List.append_nil _).symm (fun _ _ => rfl) (by simp)
  · rename_i r rest hphase
    cases hlook
    exact h.take (.listed r) (h.listing _ hphase) rfl rfl (fun _ _ => rfl) (by simp [inPhase])
  · rename_i hphase
    cases hlook
    exact h.take .ended (h.listing _ hphase) rfl rfl (by simp [inPhase]) fun _ => rfl
  · rename_i hphase
    obtain ⟨server, -, rfl⟩ := Option.map_eq_some_iff.1 hlook
    exact h.rest rfl List.suffix_rfl (by simp [inPhase]) fun _ => .inl hphase
  · rename_i hphase
    split_ifs at hlook
    · cases hlook
      exact h.rest rfl List.suffix_rfl (by simp [inPhase]) fun _ => .inr hphase
    · obtain ⟨⟨event, server⟩, -, rfl⟩ := Option.map_eq_some_iff.1 hlook
      exact h.takeLive hphase server event
  · cases hlook

/-- The watcher makes a step. -/
lemma Heard.watch (h : s.Heard events) (hwatch : s.watch? = some s') :
    ∃ later, s'.Heard (events ++ later) := by
  obtain ⟨-, ⟨change, rest, hchanges, rfl⟩ | ⟨-, rfl | hlook⟩⟩ := watch?_eq_some hwatch
  · exact h.rest rfl (hchanges ▸ List.suffix_cons change rest) (fun _ => id) id
  · exact h.rest rfl List.suffix_rfl (fun _ => id) id
  · exact h.look hlook

/-- The watcher sends an operation, or ends since nobody takes it. -/
lemma Heard.send (h : s.Heard events) (hsend : s.send? e.capacity = some s') :
    ∃ later, s'.Heard (events ++ later) := by
  rw [send?] at hsend
  split_ifs at hsend
  · obtain ⟨pipeline, -, rfl⟩ := Option.map_eq_some_iff.1 hsend
    exact h.same rfl
  · cases hsend
    exact h.rest rfl List.nil_suffix (by simp [endWatcher]) (by simp [endWatcher])

/-- Whatever happens, the watcher may hear more. -/
lemma Heard.step (h : s.Heard events) (hstep : s.Happens e s') :
    ∃ later, s'.Heard (events ++ later) := by
  cases hstep with
  | serves server => exact h.same rfl
  | dies => exact h.same rfl
  | act activity hact =>
      by_cases hwatch : activity = .watch
      · subst hwatch
        exact h.watch hact
      · by_cases hsend : activity = .send
        · subst hsend
          exact h.send hact
        · exact h.same (watcher_eq_of_act hwatch hsend hact)

/-- **In every run of a controller** the watcher has shown a framed stream of events to its cache.
-/
theorem heard_of_run {server : Server} {state : σ}
    (h : Relation.ReflTransGen (Happens e) (.initial server state) s) :
    ∃ events, s.Heard events := by
  induction h with
  | refl => exact ⟨[], trivial, rfl, List.suffix_rfl, by simp [initial], by simp [initial]⟩
  | tail _ hstep ih =>
      obtain ⟨events, hheard⟩ := ih
      obtain ⟨later, hlater⟩ := hheard.step hstep
      exact ⟨_, hlater⟩

end Ipam.Cluster.Controller
