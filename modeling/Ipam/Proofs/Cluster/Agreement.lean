import Ipam.Proofs.Allocation.Tokens
import Ipam.Proofs.Cluster.Moves

/-!
# The status of a resource agrees with the store

A resource lives in the cluster, its requests are edited at will, and a controller that starts over
any store takes care of it.  While operations and outcomes are on their way, the status may say
anything.  Whenever nothing is on its way it says what the store says.

* `Controller.Trace` — the states of a run, last one first.
* `Controller.Tracked` — the bindings that the status recorded at the start, and all that were
  requested in a state that the watcher has seen.
* `Controller.Idle` — nothing is on its way.
* **`Controller.recorded_eq_of_idle`** — the theorem, for every run and every idle state after the
  first sight.

Before the first sight nothing has happened to the bindings (`Unseen`); from then on the flow of the
controller is sound (`Sighted`).
-/

namespace Ipam.Cluster.Controller

open Pool (TokenSource)

/-! ## Runs -/

/-- The states of a run, last one first. -/
inductive Trace (e : Setting Store) (name : String) (start : Controller Store) :
    List (Controller Store) → Prop where
  | start : Trace e name start [start]
  | step {s s' : Controller Store} {past : List (Controller Store)}
      (before : Trace e name start (s :: past)) (next : s.Step e name s') :
      Trace e name start (s' :: s :: past)

/-- A binding that the status recorded at the start, or that was requested in a state of the
resource that the watcher has seen. -/
def Tracked (r : Resource) (states : List (Controller Store)) (k : BindingKey) : Prop :=
  k ∈ r.records.map (·.bindingKey) ∨
    ∃ t ∈ states, ∃ c ∈ t.watcher.cache.seen, k ∈ Reconcile.keys c.requests

/-- Every operation at the head of the queue draws a new token, if it draws one. -/
def DrawsNew (tokens : TokenSource) (s : Controller Store) : Prop :=
  ∀ op, s.pipeline.requests.head? = some op → Local.DrawsNew tokens s.pipeline.state op

/-- Both queues are empty, and all that was found has been dispatched and written. -/
structure Idle (s : Controller Store) : Prop where
  changes : s.watcher.changes = []
  unsent : s.pipeline.unsent = []
  requests : s.pipeline.requests = []
  pending : s.pipeline.pending = none
  results : s.pipeline.results = []
  writing : s.writing = none

variable {e : Setting Store} {tokens : TokenSource} {r₀ : Resource} {s s' : Controller Store}
  {states : List (Controller Store)}

/-! ## Tracked bindings -/

lemma Tracked.mono {k : BindingKey} (h : Tracked r₀ states k) (s : Controller Store) :
    Tracked r₀ (s :: states) k := by
  rcases h with hstart | ⟨t, ht, hseen⟩
  · exact .inl hstart
  · exact .inr ⟨t, List.mem_cons_of_mem _ ht, hseen⟩

/-- A state in which the watcher has seen no other requests than before tracks nothing new. -/
lemma tracked_of_same (hs : s ∈ states)
    (hseen : ∀ c ∈ s'.watcher.cache.seen, ∃ d ∈ s.watcher.cache.seen, d.requests = c.requests) :
    Tracked r₀ (s' :: states) = Tracked r₀ states := by
  funext k
  refine propext ⟨?_, fun h => h.mono s'⟩
  rintro (hstart | ⟨t, ht, c, hc, hk⟩)
  · exact .inl hstart
  · rcases List.mem_cons.1 ht with rfl | hmem
    · obtain ⟨d, hd, heq⟩ := hseen c hc
      exact .inr ⟨s, hs, d, hd, heq ▸ hk⟩
    · exact .inr ⟨t, hmem, c, hc, hk⟩

/-- A state in which the watcher has seen another state of the resource tracks its requests, too. -/
lemma tracked_of_seen {r : Resource} (hseen : s'.watcher.cache.seen = [r]) :
    Tracked r₀ (s' :: states)
      = fun k => Tracked r₀ states k ∨ k ∈ Reconcile.keys r.requests := by
  funext k
  refine propext ⟨?_, ?_⟩
  · rintro (hstart | ⟨t, ht, c, hc, hk⟩)
    · exact .inl (.inl hstart)
    · rcases List.mem_cons.1 ht with rfl | hmem
      · rw [hseen, List.mem_singleton] at hc
        exact .inr (hc ▸ hk)
      · exact .inl (.inr ⟨t, hmem, c, hc, hk⟩)
  · rintro (hold | hk)
    · exact hold.mono s'
    · exact .inr ⟨s', List.mem_cons_self, r, hseen ▸ List.mem_singleton_self r, hk⟩

/-! ## The invariant -/

/-- Nothing was seen yet, and what there is to be seen has the status of the start. -/
structure Unseen (r₀ : Resource) (store : Store) (s : Controller Store)
    (states : List (Controller Store)) : Prop where
  seen : ∀ t ∈ states, t.watcher.cache.seen = []
  flow : s.flow r₀.ref.name = ⟨[], store, [], r₀.records⟩
  sightings : ∀ r ∈ s.sightings, r.records = r₀.records

/-- The resource was seen, and the flow of its operations is sound. -/
structure Sighted (r₀ : Resource) (s : Controller Store) (states : List (Controller Store)) :
    Prop where
  seen : s.watcher.cache.seen ≠ []
  sound : (s.flow r₀.ref.name).Sound r₀.ref (Tracked r₀ states)

/-- Where the watcher has seen nothing, its first sight starts a sound flow. -/
lemma Unseen.move {store : Store} (h : Unseen r₀ store s states) (hs : s ∈ states)
    (hsteady : s'.Steady r₀.ref) (hstore : store.Valid) (hlabelled : store.Labelled)
    (hdistinct : Status.Distinct r₀.records) (hmove : s.Moves e r₀.ref.name s') :
    Unseen r₀ store s' (s' :: states) ∨ Sighted r₀ s' (s' :: states) := by
  have hnone := h.seen s hs
  cases hmove with
  | quiet seen flow sightings =>
      refine .inl ⟨List.forall_mem_cons.2 ⟨seen.trans hnone, h.seen⟩, flow.trans h.flow, ?_⟩
      intro r hr
      rcases sightings r hr with hold | hnow
      · exact h.sightings r hold
      · rw [hnow, h.flow]
  | sees r sighting seen flow =>
      have hrecords := h.sightings r sighting
      have href : r.ref = r₀.ref := by
        rcases hsteady.seen with hempty | ⟨c, hone, hc⟩
        · rw [seen] at hempty
          cases hempty
        · rw [seen] at hone
          cases hone
          exact hc
      have hcreated : (s.watcher.cache.see r).1 = some (.created r) := by
        simp [Watch.Cache.see, Watch.Cache.find?, hnone]
      have hflow : s'.flow r₀.ref.name = ⟨Reconcile.onCreate r, store, [], r.records⟩ := by
        rw [flow, h.flow, hcreated, hrecords]
        simp [Watch.Change.operations]
      have htracked : Tracked r₀ (s' :: states) = (· ∈ Reconcile.bindings r) := by
        rw [tracked_of_seen seen]
        funext k
        refine propext ⟨?_, fun hk => ?_⟩
        · rintro ((hstart | ⟨t, ht, c, hc, -⟩) | hrequested)
          · exact List.mem_append_left _ (hrecords ▸ hstart)
          · rw [h.seen t ht] at hc
            cases hc
          · exact List.mem_append_right _ hrequested
        · rcases List.mem_append.1 hk with hrecorded | hrequested
          · exact .inl (.inl (hrecords ▸ hrecorded))
          · exact .inr hrequested
      refine .inr ⟨by simp [seen], ?_⟩
      rw [hflow, htracked, ← href]
      exact Flow.sound_of_created hstore hlabelled (hrecords ▸ hdistinct)
  | works op rest seen requests queued flow =>
      rw [h.flow] at queued
      cases queued
  | writes outcome rest seen outcomes flow =>
      rw [h.flow] at outcomes
      cases outcomes

/-- Once the resource was seen, every move keeps the flow sound. -/
lemma Sighted.move (h : Sighted r₀ s states) (hs : s ∈ states) (hsteady : s.Steady r₀.ref)
    (hsteady' : s'.Steady r₀.ref) (hbackend : e.backend = Local.backend tokens)
    (hsep : Flow.Separate (Tracked r₀ states)) (hnew : s.DrawsNew tokens)
    (hmove : s.Moves e r₀.ref.name s') : Sighted r₀ s' (s' :: states) := by
  have hsame : s'.watcher.cache.seen = s.watcher.cache.seen →
      Tracked r₀ (s' :: states) = Tracked r₀ states := by
    intro heq
    refine tracked_of_same hs fun c hc => ⟨c, heq ▸ hc, rfl⟩
  cases hmove with
  | quiet seen flow sightings =>
      refine ⟨seen ▸ h.seen, ?_⟩
      rw [flow, hsame seen]
      exact h.sound
  | sees r sighting seen flow =>
      refine ⟨by simp [seen], ?_⟩
      obtain ⟨c, hone, hc⟩ := hsteady.seen.resolve_left h.seen
      have href : r.ref = r₀.ref := by
        obtain ⟨d, hd, hdref⟩ := hsteady'.seen.resolve_left (by simp [seen])
        rw [seen] at hd
        cases hd
        exact hdref
      have hchange : (s.watcher.cache.see r).1
          = if c.requests = r.requests then none else some (.updated c r) := by
        simp [Watch.Cache.see, Watch.Cache.find?, hone, hc, href]
      rw [flow, hchange]
      split_ifs with hrequests
      · rw [tracked_of_same hs fun d hd => ⟨c, hone ▸ List.mem_singleton_self c, by
          rw [seen, List.mem_singleton] at hd
          rw [hd, hrequests]⟩]
        simpa using h.sound
      · rw [tracked_of_seen seen]
        simp only [Option.toList_some, List.flatMap_cons, List.flatMap_nil, List.append_nil,
          Watch.Change.operations]
        exact h.sound.updated href fun k hk =>
          .inr ⟨s, hs, c, hone ▸ List.mem_singleton_self c, hk⟩
  | works op rest seen requests queued flow =>
      refine ⟨seen ▸ h.seen, ?_⟩
      rw [flow, hsame seen, hbackend]
      exact h.sound.work hsep queued (hnew op requests)
        (Local.process_effect tokens h.sound.valid op)
  | writes outcome rest seen outcomes flow =>
      refine ⟨seen ▸ h.seen, ?_⟩
      rw [flow, hsame seen]
      exact h.sound.write outcomes

/-! ## Runs keep the invariant -/

section Runs

variable {server : Server} {store : Store}

/-- At every moment of a run the controller is steady, and either nothing was seen or the flow is
sound. -/
lemma Trace.invariant (hserver : server.Hosts r₀.ref) (ha : Addressable r₀.ref.name)
    (hresource : server.resource? r₀.ref.name = some r₀) (hevents : server.events = [])
    (hdistinct : Status.Distinct r₀.records) (hstore : store.Valid) (hlabelled : store.Labelled)
    (hbackend : e.backend = Local.backend tokens)
    (htrace : Trace e r₀.ref.name (.initial server store) states)
    (hnew : ∀ t ∈ states, t.DrawsNew tokens) (hsep : Flow.Separate (Tracked r₀ states)) :
    ∃ s past, states = s :: past ∧ s.Steady r₀.ref ∧
      (Unseen r₀ store s states ∨ Sighted r₀ s states) := by
  induction htrace with
  | start =>
      refine ⟨_, _, rfl, ⟨rfl, rfl, rfl, hserver, .inl rfl, ?_, by simp [initial]⟩,
        .inl ⟨?_, ?_, ?_⟩⟩
      · intro rest hphase
        cases hphase
      · simp [initial]
      · simp [flow, initial, Coordinator.Pipeline.initial, Server.recordsOf, hresource]
      · intro r hr
        rcases mem_sightings.1 hr with ⟨rest, hphase, -⟩ | hmem
        · cases hphase
        · change _ ∈ server.events at hmem
          rw [hevents] at hmem
          cases hmem
  | @step s s' past before next ih =>
      have hsep' : Flow.Separate (Tracked r₀ (s :: past)) := fun k l hk hl =>
        hsep k l (hk.mono s') (hl.mono s')
      obtain ⟨_, _, heq, hsteady, hinv⟩ := ih (fun t ht => hnew t (List.mem_cons_of_mem _ ht)) hsep'
      cases heq
      have howner : ∀ outcome, s.writing = some outcome → outcome.operation.owner = r₀.ref := by
        intro outcome hwriting
        rcases hinv with hunseen | hsighted
        · have hflow := congrArg Flow.outcomes hunseen.flow
          simp [flow, hwriting] at hflow
        · exact hsighted.sound.outcomes outcome (by simp [flow, hwriting])
      obtain ⟨hsteady', hmove⟩ := hsteady.step ha howner next
      refine ⟨s', _, rfl, hsteady', ?_⟩
      have hmem : s ∈ s :: past := List.mem_cons_self
      rcases hinv with hunseen | hsighted
      · exact hunseen.move hmem hsteady' hstore hlabelled hdistinct hmove
      · exact .inr (hsighted.move hmem hsteady hsteady' hbackend hsep'
          (hnew s (List.mem_cons_of_mem _ hmem)) hmove)

/-- **Whenever nothing is on its way, the status records for every tracked binding what the store
keeps for it.** -/
theorem recorded_eq_of_idle (tokens : TokenSource) (r₀ : Resource) (hserver : server.Hosts r₀.ref)
    (ha : Addressable r₀.ref.name) (hresource : server.resource? r₀.ref.name = some r₀)
    (hevents : server.events = []) (hdistinct : Status.Distinct r₀.records)
    (hstore : store.Valid) (hlabelled : store.Labelled)
    (hbackend : e.backend = Local.backend tokens) {past : List (Controller Store)}
    (htrace : Trace e r₀.ref.name (.initial server store) (s :: past))
    (hnew : ∀ t ∈ s :: past, t.DrawsNew tokens)
    (hsep : Flow.Separate (Tracked r₀ (s :: past)))
    (hseen : s.watcher.cache.seen ≠ []) (hidle : s.Idle) {k : BindingKey}
    (hk : Tracked r₀ (s :: past) k) (hcomplete : k.isComplete = true) :
    Status.recorded? k (s.server.recordsOf r₀.ref.name)
      = (s.pipeline.state.addressOf k).map toString := by
  obtain ⟨_, _, heq, -, hinv⟩ := htrace.invariant hserver ha hresource hevents hdistinct hstore
    hlabelled hbackend hnew hsep
  cases heq
  rcases hinv with hunseen | hsighted
  · exact absurd (hunseen.seen s List.mem_cons_self) hseen
  · refine hsighted.sound.agrees_of_idle ?_ ?_ hk hcomplete
    · simp [flow, hidle.requests, hidle.unsent, hidle.changes]
    · simp [flow, hidle.writing, hidle.results, hidle.pending]

end Runs

/-! ## A run -/

/-- A resource with one request. -/
def web : Resource where
  metadata := { name := some "web", ns := some "kube-system" }
  requests := [{ host := some "www", label := some "lan" }]
  status := none

/-- The key of the request. -/
def www : BindingKey :=
  ⟨some "www", none, some "lan"⟩

/-- A store with one pool of one address. -/
def lan : Store where
  pools := Table.empty.insert "lan"
    ⟨"10.0.0.1-10.0.0.1", [⟨.ofNat 0x0A000001, .free (Pool.Token.dashes 0)⟩]⟩
  dns := []
  drawn := 1

/-- A controller that starts over the store, beside a server with the resource. -/
def start : Controller Store :=
  .initial { objects := Table.empty.insert "web" ⟨some web, .null⟩ } lan

/-- The backend of the run, with queues of one place. -/
def setting : Setting Store :=
  ⟨Local.backend Pool.Token.dashes, 1, ⟨0, 0⟩⟩

lemma lan_valid : lan.Valid := by
  intro label p hp
  rw [lan, Table.get?_insert] at hp
  split_ifs at hp
  · cases hp
    exact ⟨by cbv, List.nodup_singleton _⟩
  · cases hp

lemma lan_labelled : lan.Labelled := by
  intro label p hp
  rw [lan, Table.get?_insert] at hp
  split_ifs at hp with heq
  · subst heq
    decide
  · cases hp

/-- Where nothing but the resource is seen, the key of its request is the only one. -/
lemma separate_web (h : ∀ t ∈ states, t.watcher.cache.seen = [] ∨ t.watcher.cache.seen = [web]) :
    Flow.Separate (Tracked web states) := by
  have honly : ∀ k, Tracked web states k → k = www := by
    rintro k (hrecorded | ⟨t, ht, c, hc, hk⟩)
    · cases hrecorded
    · rcases h t ht with hnone | hone
      · rw [hnone] at hc
        cases hc
      · rw [hone, List.mem_singleton] at hc
        subst hc
        exact List.mem_singleton.1 hk
  intro k l hk hl _ _ _ _
  rw [honly k hk, honly l hl]

/-- The request is carried through: once it has reached the status, the status says what the store
says. -/
theorem recorded_of_web :
    ∃ s past, Trace setting "web" start (s :: past) ∧ s.Idle ∧
      Status.recorded? www (s.server.recordsOf "web") = some "10.0.0.1" := by
  have htrace : Trace setting "web" start (_ :: _) := .step (.step (.step (.step (.step (.step
    (.step (.step .start (.act .watch rfl)) (.act .watch rfl)) (.act .watch rfl)) (.act .send rfl))
    (.act .work rfl)) (.act .publish rfl)) (.act .receive rfl)) (.act .write rfl)
  refine ⟨_, _, htrace, ⟨rfl, rfl, rfl, rfl, rfl, rfl⟩, ?_⟩
  have hserver : Server.Hosts web.ref start.server :=
    ⟨⟨_, web, rfl, rfl, rfl⟩, rfl, rfl, by simp [start, initial]⟩
  have haddressable : Addressable web.ref.name := ⟨⟨_, rfl, by decide⟩, by decide⟩
  refine (recorded_eq_of_idle Pool.Token.dashes web hserver haddressable rfl rfl List.nodup_nil
    lan_valid lan_labelled rfl htrace ?_ ?_ ?_ ⟨rfl, rfl, rfl, rfl, rfl, rfl⟩ ?_ rfl).trans ?_
  · -- The only operation that is ever queued is a create.
    simp only [List.forall_mem_cons]
    refine ⟨?_, ?_, ?_, ?_, ?_, ?_, ?_, ?_, ?_, by simp⟩ <;>
      (intro op hop hkind; cases hop <;> cases hkind)
  · refine separate_web ?_
    simp only [List.forall_mem_cons]
    exact ⟨.inr rfl, .inr rfl, .inr rfl, .inr rfl, .inr rfl, .inr rfl, .inr rfl, .inl rfl, .inl rfl,
      by simp⟩
  · exact List.cons_ne_nil web []
  · exact .inr ⟨_, List.mem_cons_self, web, List.mem_singleton_self web, by decide⟩
  · decide +kernel

end Ipam.Cluster.Controller
