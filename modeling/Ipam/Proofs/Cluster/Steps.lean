import Ipam.Cluster.Controller
import Mathlib.Tactic

/-!
# What a step of a controller does

One lemma a step: when it is possible, and what it leaves.

* `Controller.Passes` — operations and outcomes only move along their queues, as they do when one is
  sent, published or received.
* `Controller.watch?_eq_some`, `Controller.work?_eq_some`, `Controller.write?_eq_some` — the other
  steps.
-/

namespace Ipam.Cluster

/-- The next event is the first of those that wait. -/
lemma Server.nextEvent?_eq_some {server server' : Server} {event : Event}
    (h : server.nextEvent? = some (event, server')) :
    server.events = event :: server'.events ∧
      server' = { server with events := server'.events } := by
  rw [nextEvent?] at h
  split at h
  · rename_i hevents
    cases h
    exact ⟨hevents, rfl⟩
  · cases h

namespace Controller

variable {σ : Type} {s s' : Controller σ} {capacity : Nat}

/-! ## The queues -/

/-- Operations and outcomes move along their queues, and nothing else happens. -/
structure Passes (s s' : Controller σ) : Prop where
  server : s'.server = s.server
  watcher : s'.watcher = s.watcher
  alive : s'.alive = s.alive
  publishes : s'.pipeline.publishes = s.pipeline.publishes
  listening : s'.pipeline.listening = s.pipeline.listening
  state : s'.pipeline.state = s.pipeline.state
  queued : s'.pipeline.requests ++ s'.pipeline.unsent = s.pipeline.requests ++ s.pipeline.unsent
  outcomes : s'.writing.toList ++ s'.pipeline.results ++ s'.pipeline.pending.toList
    = s.writing.toList ++ s.pipeline.results ++ s.pipeline.pending.toList

/-- The watcher sends an operation. -/
lemma passes_of_send (halive : s.alive = true) (h : s.send? capacity = some s') : s.Passes s' := by
  rw [send?, if_pos halive] at h
  obtain ⟨pipeline, hpipeline, rfl⟩ := Option.map_eq_some_iff.1 h
  rw [Coordinator.Pipeline.send?] at hpipeline
  split at hpipeline
  · cases hpipeline
  · rename_i op unsent hunsent
    split_ifs at hpipeline
    cases hpipeline
    exact ⟨rfl, rfl, rfl, rfl, rfl, rfl, by simp [hunsent], rfl⟩

/-- The coordinator publishes an outcome, as long as somebody listens. -/
lemma passes_of_publish (halive : s.alive = true) (hpublishes : s.pipeline.publishes = true)
    (hlistening : s.pipeline.listening = true) (h : s.publish? capacity = some s') :
    s.Passes s' := by
  rw [publish?, if_pos halive] at h
  obtain ⟨pipeline, hpipeline, rfl⟩ := Option.map_eq_some_iff.1 h
  simp only [Coordinator.Pipeline.publish?, hpublishes, hlistening, Bool.not_true, Bool.or_self,
    Bool.false_eq_true, if_false] at hpipeline
  split at hpipeline
  · cases hpipeline
  · rename_i outcome hpending
    split_ifs at hpipeline
    cases hpipeline
    exact ⟨rfl, rfl, rfl, hpublishes.symm, hlistening.symm, rfl, rfl, by simp [hpending]⟩

/-- The status writer receives an outcome. -/
lemma passes_of_receive (hlistening : s.pipeline.listening = true) (h : s.receive? = some s') :
    s.Passes s' := by
  rw [receive?] at h
  cases hwriting : s.writing with
  | some outcome => simp [hwriting] at h
  | none =>
      cases hresults : s.pipeline.results with
      | nil => simp [hwriting, hresults] at h
      | cons outcome results =>
          simp only [hwriting, hresults, Coordinator.Pipeline.receive?, hlistening] at h
          cases h
          exact ⟨rfl, rfl, rfl, rfl, hlistening.symm, rfl, rfl, by simp [hwriting, hresults]⟩

/-! ## The other steps -/

/-- The watcher dispatches the changes that it has found, and then ends its rest or looks for more.
-/
lemma watch?_eq_some (h : s.watch? = some s') :
    s.pipeline.unsent = [] ∧
      ((∃ change rest, s.watcher.changes = change :: rest ∧ s' = s.dispatch change rest) ∨
        s.watcher.changes = [] ∧
          (s' = { s with watcher := { s.watcher with resting := false } } ∨
            s.look? = some s')) := by
  rw [watch?] at h
  by_cases hunsent : s.pipeline.unsent = []
  · refine ⟨hunsent, ?_⟩
    simp only [hunsent, List.isEmpty_nil, Bool.not_true, Bool.false_eq_true, if_false] at h
    split at h
    · rename_i change rest hchanges
      cases h
      exact .inl ⟨change, rest, hchanges, rfl⟩
    · rename_i hchanges
      split_ifs at h
      · cases h
        exact .inr ⟨hchanges, .inl rfl⟩
      · exact .inr ⟨hchanges, .inr h⟩
  · simp [hunsent] at h

/-- The coordinator carries out the first operation of its queue. -/
lemma work?_eq_some {backend : Backend σ} (halive : s.alive = true)
    (h : s.work? backend = some s') :
    ∃ op requests, s.pipeline.pending = none ∧ s.pipeline.requests = op :: requests ∧
      s' = { s with pipeline := { s.pipeline with
        requests
        state := (Coordinator.process backend op s.pipeline.state).2
        pending := some (Coordinator.process backend op s.pipeline.state).1 } } := by
  rw [work?, if_pos halive] at h
  obtain ⟨pipeline, hpipeline, rfl⟩ := Option.map_eq_some_iff.1 h
  rw [Coordinator.Pipeline.work?] at hpipeline
  split at hpipeline
  · rename_i op requests hpending hrequests
    cases hpipeline
    exact ⟨op, requests, hpending, hrequests, rfl⟩
  · cases hpipeline

/-- The status writer writes the outcome that it has received. -/
lemma write?_eq_some {now : Timestamp} (h : s.write? now = some s') :
    ∃ outcome metrics, s.writing = some outcome ∧ s' = { s with
      server := (writeStatus now s.server outcome).2
      writing := none
      metrics } := by
  rw [write?] at h
  cases hwriting : s.writing with
  | none => simp [hwriting] at h
  | some outcome =>
      simp only [hwriting] at h
      cases h
      exact ⟨outcome, _, rfl, rfl⟩

end Controller

end Ipam.Cluster
