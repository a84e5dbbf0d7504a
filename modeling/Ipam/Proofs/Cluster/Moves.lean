import Ipam.Proofs.Cluster.Flow
import Ipam.Proofs.Cluster.Server
import Ipam.Proofs.Cluster.Steps
import Ipam.Proofs.Watch.Cache

/-!
# A controller with a single resource

While one resource lives in the cluster, a controller does only four things that matter for its
bindings: it sees a state of the resource, it carries out an operation, it writes an outcome, or it
does nothing of this kind.

* `Controller.Step` — a step of the whole system.
* `Controller.Steady` — the resource is there and can be reached, and the controller expects nothing
  else.
* `Controller.flow` — the flow of a controller, from the changes that it has found to the status.
* `Controller.Moves` — the four things; **`Controller.Steady.step`**, every step is one of them.
-/

namespace Ipam.Cluster

open Pool (TokenSource)

namespace Controller

/-! ## Steps of the system -/

/-- A step of the controller, or something that happens to its server. -/
inductive Step {σ : Type} (e : Setting σ) (name : String) (s : Controller σ) :
    Controller σ → Prop where
  | act {s' : Controller σ} (activity : Activity) (h : s.act? e activity = some s') :
      Step e name s s'
  | disturbed {server : Server} (h : s.server.Disturbs name server) :
      Step e name s { s with server }

/-! ## Steadiness -/

/-- A controller whose parts all run, beside a server with a single resource. -/
structure Steady (ref : ResourceRef) (s : Controller Store) : Prop where
  alive : s.alive = true
  publishes : s.pipeline.publishes = true
  listening : s.pipeline.listening = true
  hosts : s.server.Hosts ref
  seen : s.watcher.cache.seen = [] ∨ ∃ c, s.watcher.cache.seen = [c] ∧ c.ref = ref
  listing : ∀ rest, s.watcher.phase = .listing rest → (∀ r ∈ rest, r.ref = ref) ∧
    ∃ listed, s.watcher.cache.listing = some listed ∧ (rest = [] → ref ∈ listed)
  changes : ∀ change ∈ s.watcher.changes, change.isDeletion = false

/-! ## Moves -/

/-- The flow of a controller: operations from the changes that are found to the queue, outcomes from
the coordinator to the status writer. -/
def flow (name : String) (s : Controller Store) : Flow where
  queued := s.pipeline.requests ++ s.pipeline.unsent
    ++ s.watcher.changes.flatMap (Watch.Change.operations [])
  store := s.pipeline.state
  outcomes := s.writing.toList ++ s.pipeline.results ++ s.pipeline.pending.toList
  records := s.server.recordsOf name

/-- The states of the resource that the watcher is about to see. -/
def sightings (s : Controller Store) : List Resource :=
  (match s.watcher.phase with
    | .listing rest => rest
    | _ => []) ++
  s.server.events.filterMap fun event =>
    match event with
    | .applied r => r
    | _ => none

/-- What a step does to the bindings of the resource. -/
inductive Moves (e : Setting Store) (name : String) (s s' : Controller Store) : Prop where
  /-- Nothing.  What is new to be seen has the status of now. -/
  | quiet (seen : s'.watcher.cache.seen = s.watcher.cache.seen) (flow : s'.flow name = s.flow name)
      (sightings : ∀ r ∈ s'.sightings, r ∈ s.sightings ∨ r.records = (s.flow name).records)
  /-- The watcher sees a state of the resource and finds its change. -/
  | sees (r : Resource) (sighting : r ∈ s.sightings) (seen : s'.watcher.cache.seen = [r])
      (flow : s'.flow name = { s.flow name with
        queued := (s.flow name).queued
          ++ (s.watcher.cache.see r).1.toList.flatMap (Watch.Change.operations []) })
  /-- The coordinator carries out an operation. -/
  | works (op : Operation) (rest : List Operation)
      (seen : s'.watcher.cache.seen = s.watcher.cache.seen)
      (requests : s.pipeline.requests.head? = some op) (queued : (s.flow name).queued = op :: rest)
      (flow : s'.flow name = { s.flow name with
        queued := rest
        store := (Coordinator.process e.backend op s.pipeline.state).2
        outcomes := (s.flow name).outcomes
          ++ [(Coordinator.process e.backend op s.pipeline.state).1] })
  /-- The status writer writes an outcome. -/
  | writes (outcome : Outcome) (rest : List Outcome)
      (seen : s'.watcher.cache.seen = s.watcher.cache.seen)
      (outcomes : (s.flow name).outcomes = outcome :: rest)
      (flow : s'.flow name = { s.flow name with
        outcomes := rest
        records := Status.fold outcome (s.flow name).records })

end Controller

/-! ## The cache -/

section Cache

open Watch (Cache)

variable {ref : ResourceRef} {cache : Cache} {r : Resource}

/-- A cache that has seen one resource at most keeps the last state of it. -/
lemma seen_see (hseen : cache.seen = [] ∨ ∃ c, cache.seen = [c] ∧ c.ref = ref)
    (href : r.ref = ref) : (cache.see r).2.seen = [r] := by
  rcases hseen with hnone | ⟨c, hone, hc⟩
  · simp [Cache.see, Cache.keep, Cache.find?, hnone]
  · simp [Cache.see, Cache.keep, Cache.find?, hone, hc, href]

end Cache

/-! ## Steps of the watcher -/

namespace Controller

variable {ref : ResourceRef} {s s' : Controller Store} {e : Setting Store}

lemma mem_sightings {r : Resource} :
    r ∈ s.sightings ↔ (∃ rest, s.watcher.phase = .listing rest ∧ r ∈ rest) ∨
      .applied (some r) ∈ s.server.events := by
  rw [sightings, List.mem_append]
  refine or_congr ?_ ?_
  · cases s.watcher.phase <;> simp
  · rw [List.mem_filterMap]
    constructor
    · rintro ⟨event, hmem, heq⟩
      cases event with
      | applied resource =>
          cases heq
          exact hmem
      | deleted | expired => cases heq
    · exact fun hmem => ⟨_, hmem, rfl⟩

/-- The watcher dispatches a change. -/
lemma Steady.dispatch (h : s.Steady ref) {change : Watch.Change} {rest : List Watch.Change}
    (hunsent : s.pipeline.unsent = []) (hchanges : s.watcher.changes = change :: rest) :
    (s.dispatch change rest).Steady ref ∧ s.Moves e ref.name (s.dispatch change rest) := by
  have hnot : change.isDeletion = false := h.changes change (hchanges ▸ List.mem_cons_self)
  have hdispatch : s.dispatch change rest = { s with
      watcher := { s.watcher with changes := rest }
      pipeline := { s.pipeline with unsent := change.operations [] } } := by
    simp [Controller.dispatch, hnot]
  rw [hdispatch]
  refine ⟨⟨h.alive, h.publishes, h.listening, h.hosts, h.seen, h.listing, ?_⟩, ?_⟩
  · exact fun other hother => h.changes other (hchanges ▸ List.mem_cons_of_mem _ hother)
  · refine .quiet rfl ?_ fun r hr => .inl hr
    simp [flow, hunsent, hchanges]

/-- The watcher sees a state of the resource. -/
lemma Steady.see (h : s.Steady ref) {r : Resource} (hr : r ∈ s.sightings) (href : r.ref = ref)
    (hpublishes : s'.pipeline = s.pipeline) (halive : s'.alive = s.alive)
    (hwriting : s'.writing = s.writing) (hhosts : s'.server.Hosts ref)
    (hrecords : s'.server.recordsOf ref.name = s.server.recordsOf ref.name)
    (hseen : s'.watcher.cache.seen = (s.watcher.cache.see r).2.seen)
    (hchanges : s'.watcher.changes = s.watcher.changes ++ (s.watcher.cache.see r).1.toList)
    (hlisting : ∀ rest, s'.watcher.phase = .listing rest → (∀ r ∈ rest, r.ref = ref) ∧
      ∃ listed, s'.watcher.cache.listing = some listed ∧ (rest = [] → ref ∈ listed)) :
    s'.Steady ref ∧ s.Moves e ref.name s' := by
  have hone : s'.watcher.cache.seen = [r] := hseen.trans (seen_see h.seen href)
  refine ⟨⟨halive ▸ h.alive, hpublishes ▸ h.publishes, hpublishes ▸ h.listening, hhosts,
    .inr ⟨r, hone, href⟩, hlisting, ?_⟩, .sees r hr hone ?_⟩
  · intro change hchange
    rw [hchanges] at hchange
    rcases List.mem_append.1 hchange with hold | hfound
    · exact h.changes change hold
    · exact Watch.Cache.isDeletion_of_see _ _ (Option.mem_toList.1 hfound)
  · simp only [flow, hpublishes, hwriting, hrecords, hchanges, List.flatMap_append,
      List.append_assoc]

/-- A step of the watcher that finds nothing. -/
lemma Steady.rest (h : s.Steady ref) (hpipeline : s'.pipeline = s.pipeline)
    (halive : s'.alive = s.alive) (hwriting : s'.writing = s.writing)
    (hhosts : s'.server.Hosts ref)
    (hrecords : s'.server.recordsOf ref.name = s.server.recordsOf ref.name)
    (hseen : s'.watcher.cache.seen = s.watcher.cache.seen)
    (hchanges : s'.watcher.changes = s.watcher.changes)
    (hlisting : ∀ rest, s'.watcher.phase = .listing rest → (∀ r ∈ rest, r.ref = ref) ∧
      ∃ listed, s'.watcher.cache.listing = some listed ∧ (rest = [] → ref ∈ listed))
    (hsightings : ∀ r ∈ s'.sightings, r ∈ s.sightings ∨ r.records = s.server.recordsOf ref.name) :
    s'.Steady ref ∧ s.Moves e ref.name s' := by
  refine ⟨⟨halive ▸ h.alive, hpipeline ▸ h.publishes, hpipeline ▸ h.listening, hhosts,
    hseen ▸ h.seen, hlisting, hchanges ▸ h.changes⟩, .quiet hseen ?_ hsightings⟩
  simp only [flow, hpipeline, hwriting, hrecords, hchanges]

lemma ne_listing {phase : WatchPhase} (h : ∀ rest, phase ≠ .listing rest)
    {P : List Resource → Prop} : ∀ rest, phase = .listing rest → P rest :=
  fun rest heq => absurd heq (h rest)

/-- A step of the watcher that finds nothing and has no listing to go through. -/
lemma Steady.rest_of_ne_listing (h : s.Steady ref) (hpipeline : s'.pipeline = s.pipeline)
    (halive : s'.alive = s.alive) (hwriting : s'.writing = s.writing)
    (hhosts : s'.server.Hosts ref)
    (hrecords : s'.server.recordsOf ref.name = s.server.recordsOf ref.name)
    (hseen : s'.watcher.cache.seen = s.watcher.cache.seen)
    (hchanges : s'.watcher.changes = s.watcher.changes)
    (hphase : ∀ rest, s'.watcher.phase ≠ .listing rest)
    (hevents : ∀ event ∈ s'.server.events, event ∈ s.server.events) :
    s'.Steady ref ∧ s.Moves e ref.name s' := by
  refine h.rest hpipeline halive hwriting hhosts hrecords hseen hchanges (ne_listing hphase)
    fun r hr => .inl ?_
  rcases mem_sightings.1 hr with ⟨rest, heq, -⟩ | hmem
  · exact absurd heq (hphase rest)
  · exact mem_sightings.2 (.inr (hevents _ hmem))

/-- The watcher lists the resource. -/
lemma Steady.list (h : s.Steady ref) {resources : List Resource} {server : Server}
    (hlist : s.server.list = (some resources, server)) :
    (∃ r, resources = [r] ∧ r.ref = ref ∧ r.records = s.server.recordsOf ref.name) ∧
      server.Hosts ref ∧ server.recordsOf ref.name = s.server.recordsOf ref.name ∧
      ∀ event ∈ server.events, event ∈ s.server.events := by
  obtain ⟨d, r, hentries, hread, href⟩ := h.hosts.only
  have hrecords : s.server.recordsOf ref.name = r.records := by
    obtain ⟨d', r', hget, hread', -, hresource⟩ := h.hosts.get?
    rw [Table.get?, hentries] at hget
    simp only [Table.lookupIn, if_true, Option.some.injEq] at hget
    subst hget
    rw [hread] at hread'
    cases hread'
    simp [Server.recordsOf, hresource]
  have hresources : s.server.resources? = some [r] := by
    simp [Server.resources?, hentries, hread]
  rw [Server.list, hresources] at hlist
  split_ifs at hlist with hworks hwatched
  · cases hlist
    exact ⟨⟨r, rfl, href, hrecords.symm⟩, h.hosts, rfl, fun _ => id⟩
  · cases hlist
    exact ⟨⟨r, rfl, href, hrecords.symm⟩, h.hosts.same rfl h.hosts.gets h.hosts.patches (by simp),
      rfl, by simp⟩
  · cases hlist

/-- The watcher takes an event. -/
lemma Steady.take (h : s.Steady ref) (hphase : s.watcher.phase = .watching) {event : Event}
    {server : Server} (hnext : s.server.nextEvent? = some (event, server)) :
    ({ s with server }.take event).Steady ref ∧
      s.Moves e ref.name ({ s with server }.take event) := by
  obtain ⟨hevents, hserver⟩ := Server.nextEvent?_eq_some hnext
  have hsub : ∀ other ∈ server.events, other ∈ s.server.events := by
    intro other hother
    rw [hevents]
    exact List.mem_cons_of_mem _ hother
  have hhosts : server.Hosts ref := by
    rw [hserver]
    exact h.hosts.same rfl h.hosts.gets h.hosts.patches fun other hother => .inl (hsub other hother)
  have hrecords : server.recordsOf ref.name = s.server.recordsOf ref.name := by
    rw [hserver]
    rfl
  rcases h.hosts.events event (hevents ▸ List.mem_cons_self) with rfl | ⟨r, rfl, href⟩
  · exact h.rest_of_ne_listing rfl rfl rfl
      (hhosts.same rfl hhosts.gets hhosts.patches fun _ => .inl) hrecords rfl rfl
      (by simp [Controller.take]) hsub
  · refine h.see (mem_sightings.2 (.inr (hevents ▸ List.mem_cons_self))) href rfl rfl rfl hhosts
      hrecords rfl rfl (ne_listing ?_)
    intro rest hlisting
    change s.watcher.phase = _ at hlisting
    rw [hphase] at hlisting
    cases hlisting

/-- The watcher looks for changes. -/
lemma Steady.look (h : s.Steady ref) (hlook : s.look? = some s') :
    s'.Steady ref ∧ s.Moves e ref.name s' := by
  rw [look?] at hlook
  split at hlook
  · -- It begins a listing.
    rename_i hphase
    split at hlook
    · cases hlook
    · rename_i resources server hlist
      cases hlook
      obtain ⟨⟨r, rfl, href, hstatus⟩, hhosts, hrecords, hsub⟩ := h.list hlist
      refine h.rest rfl rfl rfl hhosts hrecords rfl rfl ?_ ?_
      · rintro rest heq
        cases heq
        exact ⟨by simp [href], [], rfl, by simp⟩
      · intro r' hr'
        rcases mem_sightings.1 hr' with ⟨rest, heq, hmem⟩ | hmem
        · cases heq
          rw [List.mem_singleton.1 hmem]
          exact .inr hstatus
        · exact .inl (mem_sightings.2 (.inr (hsub _ hmem)))
  · -- The listing brings the resource.
    rename_i r rest hphase
    cases hlook
    obtain ⟨hrefs, listed, hlisting, -⟩ := h.listing _ hphase
    have href := hrefs r List.mem_cons_self
    refine h.see (mem_sightings.2 (.inl ⟨_, hphase, List.mem_cons_self⟩)) href rfl rfl rfl h.hosts
      rfl rfl rfl ?_
    rintro rest' heq
    cases heq
    refine ⟨fun r' hr' => hrefs r' (List.mem_cons_of_mem _ hr'), r.ref :: listed, ?_, ?_⟩
    · change Option.map (r.ref :: ·) s.watcher.cache.listing = _
      rw [hlisting]
      rfl
    · exact fun _ => href ▸ List.mem_cons_self
  · -- The listing ends.
    rename_i hphase
    obtain ⟨-, listed, hlisting, hmem⟩ := h.listing _ hphase
    have hseen : ∀ c ∈ s.watcher.cache.seen, c.ref ∈ listed := by
      intro c hc
      rcases h.seen with hnone | ⟨c', hone, rfl⟩
      · simp [hnone] at hc
      · rw [hone, List.mem_singleton] at hc
        exact hc ▸ hmem rfl
    rw [Watch.Cache.endListing_of_listed hlisting hseen] at hlook
    cases hlook
    exact h.rest_of_ne_listing rfl rfl rfl h.hosts rfl rfl (List.append_nil _) (by simp [inPhase])
      fun _ => id
  · -- A watch is opened.
    obtain ⟨server, hwatch, rfl⟩ := Option.map_eq_some_iff.1 hlook
    rw [Server.watch?] at hwatch
    split_ifs at hwatch
    cases hwatch
    exact h.rest_of_ne_listing rfl rfl rfl
      (h.hosts.same rfl h.hosts.gets h.hosts.patches fun _ => .inl) rfl rfl rfl (by simp [inPhase])
      fun _ => id
  · -- The watch has ended, or it delivers an event.
    rename_i hphase
    split_ifs at hlook
    · cases hlook
      exact h.rest_of_ne_listing rfl rfl rfl h.hosts rfl rfl rfl (by simp [inPhase]) fun _ => id
    · obtain ⟨⟨event, server⟩, hnext, rfl⟩ := Option.map_eq_some_iff.1 hlook
      exact h.take hphase hnext
  · cases hlook

/-- A step of the watcher. -/
lemma Steady.watch (h : s.Steady ref) (hwatch : s.watch? = some s') :
    s'.Steady ref ∧ s.Moves e ref.name s' := by
  obtain ⟨hunsent, ⟨change, rest, hchanges, rfl⟩ | ⟨-, rfl | hlook⟩⟩ := watch?_eq_some hwatch
  · exact h.dispatch hunsent hchanges
  · exact h.rest rfl rfl rfl h.hosts rfl rfl rfl h.listing fun r hr => .inl hr
  · exact h.look hlook

/-! ## Steps of the other parts -/

/-- A step that moves operations and outcomes along their queues. -/
lemma Steady.pass (h : s.Steady ref) (hpasses : s.Passes s') :
    s'.Steady ref ∧ s.Moves e ref.name s' := by
  have hwatcher := hpasses.watcher
  refine ⟨⟨hpasses.alive.trans h.alive, hpasses.publishes.trans h.publishes,
    hpasses.listening.trans h.listening, hpasses.server ▸ h.hosts, hwatcher ▸ h.seen,
    hwatcher ▸ h.listing, hwatcher ▸ h.changes⟩, .quiet (by rw [hwatcher]) ?_ fun r hr => .inl ?_⟩
  · simp only [flow, hpasses.server, hwatcher, hpasses.state, hpasses.queued, hpasses.outcomes]
  · rw [sightings, hpasses.server, hwatcher] at hr
    exact hr

/-- The coordinator carries out an operation. -/
lemma Steady.work (h : s.Steady ref) (hwork : s.work? e.backend = some s') :
    s'.Steady ref ∧ s.Moves e ref.name s' := by
  obtain ⟨op, requests, hpending, hrequests, rfl⟩ := work?_eq_some h.alive hwork
  refine ⟨⟨h.alive, h.publishes, h.listening, h.hosts, h.seen, h.listing, h.changes⟩,
    .works op (requests ++ s.pipeline.unsent
      ++ s.watcher.changes.flatMap (Watch.Change.operations [])) rfl ?_ ?_ ?_⟩
  · rw [hrequests]
    rfl
  · simp [flow, hrequests]
  · simp [flow, hpending]

/-- The status writer writes an outcome. -/
lemma Steady.write (h : s.Steady ref) (ha : Addressable ref.name)
    (howner : ∀ outcome, s.writing = some outcome → outcome.operation.owner = ref)
    (hwrite : s.write? e.now = some s') : s'.Steady ref ∧ s.Moves e ref.name s' := by
  obtain ⟨outcome, metrics, hwriting, rfl⟩ := write?_eq_some hwrite
  obtain ⟨hhosts, hrecords⟩ := h.hosts.writeStatus ha (howner outcome hwriting) e.now
  refine ⟨⟨h.alive, h.publishes, h.listening, hhosts, h.seen, h.listing, h.changes⟩,
    .writes outcome (s.pipeline.results ++ s.pipeline.pending.toList) rfl ?_ ?_⟩
  · simp [flow, hwriting]
  · simp only [flow, Option.toList_none, List.nil_append, hrecords]

/-! ## All steps -/

/-- **With a single resource, every step is one of the moves**, and it leaves the resource reachable
and the controller running. -/
theorem Steady.step (h : s.Steady ref) (ha : Addressable ref.name)
    (howner : ∀ outcome, s.writing = some outcome → outcome.operation.owner = ref)
    (hstep : s.Step e ref.name s') : s'.Steady ref ∧ s.Moves e ref.name s' := by
  cases hstep with
  | act activity hact =>
      cases activity with
      | watch => exact h.watch hact
      | send => exact h.pass (passes_of_send h.alive hact)
      | publish => exact h.pass (passes_of_publish h.alive h.publishes h.listening hact)
      | work => exact h.work hact
      | receive => exact h.pass (passes_of_receive h.listening hact)
      | write => exact h.write ha howner hact
  | disturbed hdisturbed =>
      obtain ⟨hhosts, hrecords, hevents⟩ := h.hosts.disturbed hdisturbed
      refine h.rest rfl rfl rfl hhosts hrecords rfl rfl h.listing fun r hr => ?_
      rcases mem_sightings.1 hr with hlisted | hmem
      · exact .inl (mem_sightings.2 (.inl hlisted))
      · rcases hevents r hmem with hold | hstatus
        · exact .inl (mem_sightings.2 (.inr hold))
        · exact .inr hstatus

end Controller

end Ipam.Cluster
