import Ipam.Proofs.Cluster.Agreement
import Ipam.Proofs.Cluster.Foresight

/-!
# A controller that serves its users

Between a controller and its traffic: every step of a controller that has begun to list is a move of
its traffic, and so is everything that users do.

* `Controller.Serving` — all parts run, and what the watcher will have seen is what the server has.
* `Controller.losses` — what is lost after a step.
* `Controller.Advances` — the controller goes on serving, and its traffic makes a move.
* **`Controller.Serving.act`** — every step of the controller advances it.
* **`Controller.Serving.put`**, **`Controller.Serving.remove`** — so do users.
-/

namespace Ipam.Cluster.Controller

open Pool (TokenSource)
open Watch (Cache Change)

/-- A controller that has begun to list, all of whose parts run.  What the watcher will have seen is
what the server has, as far as requests go. -/
structure Serving (s : Controller Store) : Prop where
  alive : s.alive = true
  publishes : s.pipeline.publishes = true
  listening : s.pipeline.listening = true
  server : s.server.Populated
  begun : s.watcher.phase ≠ .unlisted
  listing : ∀ rest, s.watcher.phase = .listing rest →
    ∃ listed, s.watcher.cache.listing = some listed ∧ ∀ r ∈ s.watcher.cache.seen, r.ref ∈ listed
  watching : s.watcher.phase = .watching → s.server.watched = true
  deletions : ∀ change ∈ s.watcher.changes, change.isDeletion = true → s.watcher.phase = .watching
  knows : ∀ name, (s.foreseen.2.find? ⟨name, home⟩).map (·.requests)
    = (s.server.resource? name).map (·.requests)

/-- The losses after a step of a part.  Something is lost when the watcher finds the operations for
a change, or when an outcome is written. -/
def losses (s : Controller Store) (lost : Losses) : Activity → Losses
  | .watch =>
    match s.watcher.changes with
    | [] => lost
    | change :: _ => lost.dispatch change s.others.1
  | .write =>
    match s.writing with
    | none => lost
    | some outcome => lost.write outcome (s.server.status outcome.operation.owner.name).isNone
  | .send | .publish | .work | .receive => lost

/-- The controller goes on serving, and its traffic makes a move. -/
def Advances (tokens : TokenSource) (s : Controller Store) (lost : Losses) (s' : Controller Store)
    (lost' : Losses) : Prop :=
  ∀ written, (s.traffic written lost).Sound tokens →
    s'.Serving ∧ ∃ written', (s.traffic written lost).Moves tokens (s'.traffic written' lost')

variable {tokens : TokenSource} {lost : Losses} {e : Setting Store} {s s' : Controller Store}

lemma advances_of_traffic_eq (hserving : s'.Serving)
    (htraffic : ∀ written, s'.traffic written lost = s.traffic written lost) :
    s.Advances tokens lost s' lost :=
  fun written _ => ⟨hserving, written, htraffic written ▸ .rests⟩

/-! ## The watcher -/

/-- A step of the watcher that changes nothing for the bindings. -/
lemma Serving.look (h : s.Serving) (hpipeline : s'.pipeline = s.pipeline)
    (halive : s'.alive = s.alive) (hwriting : s'.writing = s.writing)
    (hserver : s'.server.Populated) (hobjects : s'.server.objects = s.server.objects)
    (hbegun : s'.watcher.phase ≠ .unlisted)
    (hlisting : ∀ rest, s'.watcher.phase = .listing rest →
      ∃ listed, s'.watcher.cache.listing = some listed ∧
        ∀ r ∈ s'.watcher.cache.seen, r.ref ∈ listed)
    (hwatching : s'.watcher.phase = .watching → s'.server.watched = true)
    (hdeletions : ∀ change ∈ s'.watcher.changes, change.isDeletion = true →
      s'.watcher.phase = .watching)
    (hchanges : s'.watcher.changes ++ s'.foreseen.1 = s.watcher.changes ++ s.foreseen.1)
    (hseen : s'.foreseen.2 = s.foreseen.2) : s.Advances tokens lost s' lost := by
  have hresource : ∀ name, s'.server.resource? name = s.server.resource? name := fun name => by
    rw [Server.resource?, Server.resource?, hobjects]
  refine advances_of_traffic_eq ⟨halive ▸ h.alive, hpipeline ▸ h.publishes, hpipeline ▸ h.listening,
    hserver, hbegun, hlisting, hwatching, hdeletions, ?_⟩ ?_
  · intro name
    rw [hseen, hresource]
    exact h.knows name
  · intro written
    have hstatus : s'.server.status = s.server.status := funext fun name => by
      rw [Server.status, Server.status, hresource]
    simp only [traffic, hpipeline, hwriting, hchanges, hstatus]

/-- The watcher finds what was foreseen. -/
lemma foreseen_of_hear {event : Event} (hinbox : s.inbox = event :: s'.inbox)
    (hcache : s'.watcher.cache.copies = (hear s.watcher.cache.copies event).2)
    (hfound : s'.watcher.changes = s.watcher.changes ++ (hear s.watcher.cache.copies event).1) :
    s'.watcher.changes ++ s'.foreseen.1 = s.watcher.changes ++ s.foreseen.1 ∧
      s'.foreseen.2 = s.foreseen.2 := by
  have hforeseen : s.foreseen = ((hear s.watcher.cache.copies event).1 ++ s'.foreseen.1,
      s'.foreseen.2) := by
    rw [foreseen, foreseen, hinbox, foresee, hcache]
  rw [hforeseen, hfound]
  exact ⟨List.append_assoc _ _ _, rfl⟩

/-- The watcher finds the operations of a change.  Where resources of others count, it sees all that
the server has. -/
lemma Serving.dispatch (h : s.Serving) {change : Change} {rest : List Change}
    (hunsent : s.pipeline.unsent = []) (hchanges : s.watcher.changes = change :: rest) :
    s.Advances tokens lost (s.dispatch change rest) (lost.dispatch change s.others.1) := by
  obtain ⟨others, hlist, -, hmem⟩ := h.server.list
  have hothers : s.others.1 = others := by simp [Controller.others, hlist]
  have hdispatch : s.dispatch change rest = { s with
      watcher := { s.watcher with changes := rest }
      pipeline := { s.pipeline with unsent := change.operations others } } := by
    cases hdeletion : change.isDeletion with
    | false =>
        have hsame : change.operations [] = change.operations others := by
          cases change with
          | created | updated => rfl
          | deleted => cases hdeletion
        simp [Controller.dispatch, hdeletion, hsame]
    | true =>
        have hwatched := h.watching (h.deletions change (hchanges ▸ List.mem_cons_self) hdeletion)
        rw [hwatched, if_pos rfl] at hlist
        simp [Controller.dispatch, hdeletion, Controller.others, hlist]
  rw [hdispatch, hothers]
  refine fun written _ => ⟨⟨h.alive, h.publishes, h.listening, h.server, h.begun, h.listing,
    h.watching, ?_, h.knows⟩, written, ?_⟩
  · exact fun other hother => h.deletions other (hchanges ▸ List.mem_cons_of_mem _ hother)
  · have hmove : (s.traffic written lost).Moves tokens { s.traffic written lost with
        changes := rest ++ s.foreseen.1
        queued := (s.traffic written lost).queued ++ change.operations others
        lost := lost.dispatch change others } := by
      refine .dispatches (by simp [traffic, hchanges]) fun other hother => ?_
      obtain ⟨name, hr⟩ := (hmem other).1 hother
      simp [traffic, Server.status, h.server.ref_eq hr, hr]
    have htraffic : traffic { s with
        watcher := { s.watcher with changes := rest }
        pipeline := { s.pipeline with unsent := change.operations others } } written
          (lost.dispatch change others)
        = { s.traffic written lost with
          changes := rest ++ s.foreseen.1
          queued := (s.traffic written lost).queued ++ change.operations others
          lost := lost.dispatch change others } := by
      simp [traffic, hunsent, foreseen, inbox]
    exact htraffic ▸ hmove

/-- The watcher takes an event. -/
lemma Serving.take (h : s.Serving) (hphase : s.watcher.phase = .watching) {event : Event}
    {server : Server} (hnext : s.server.nextEvent? = some (event, server)) :
    s.Advances tokens lost ({ s with server }.take event) lost := by
  obtain ⟨hevents, hserver⟩ := Server.nextEvent?_eq_some hnext
  have hpopulated : server.Populated := by
    rw [hserver]
    exact ⟨h.server.working, h.server.documents, fun other hother =>
      h.server.events other (hevents ▸ List.mem_cons_of_mem _ hother)⟩
  have hobjects : server.objects = s.server.objects := by rw [hserver]
  have hwatched : server.watched = true := by
    rw [hserver]
    exact h.watching hphase
  -- Whichever event it is, the watcher goes on watching and has found what was to be found.
  have hheard : ∀ s' : Controller Store, s'.pipeline = s.pipeline → s'.alive = s.alive →
      s'.writing = s.writing → s'.server = server → s'.watcher.phase = .watching →
      s'.watcher.cache.copies = (hear s.watcher.cache.copies event).2 →
      s'.watcher.changes = s.watcher.changes ++ (hear s.watcher.cache.copies event).1 →
      s.Advances tokens lost s' lost := by
    intro s' hpipeline halive hwriting hserver' hwatching hcache hfound
    have hinbox : s.inbox = event :: s'.inbox := by
      simp [inbox, hphase, hwatching, hserver', hevents]
    obtain ⟨hchanges, hseen⟩ := foreseen_of_hear hinbox hcache hfound
    exact h.look hpipeline halive hwriting (hserver' ▸ hpopulated) (hserver' ▸ hobjects)
      (by simp [hwatching]) (by simp [hwatching]) (fun _ => hserver' ▸ hwatched)
      (fun _ _ _ => hwatching) hchanges hseen
  obtain ⟨r, rfl | rfl⟩ := h.server.events event (hevents ▸ List.mem_cons_self)
  · exact hheard _ rfl rfl rfl rfl hphase rfl rfl
  · exact hheard _ rfl rfl rfl rfl hphase rfl rfl

/-- The listing brings a resource. -/
lemma Serving.list (h : s.Serving) {r : Resource} {rest : List Resource}
    (hphase : s.watcher.phase = .listing (r :: rest)) :
    s.Advances tokens lost ((s.withChanges (s.watcher.cache.list r).1.toList
      (s.watcher.cache.list r).2).inPhase (.listing rest)) lost := by
  obtain ⟨listed, hlisted, hseen⟩ := h.listing _ hphase
  have hinbox : s.inbox = .applied (some r) :: inbox ((s.withChanges
      (s.watcher.cache.list r).1.toList (s.watcher.cache.list r).2).inPhase (.listing rest)) := by
    simp [inbox, hphase, inPhase, withChanges]
  obtain ⟨hchanges, hforeseen⟩ := foreseen_of_hear hinbox rfl rfl
  refine h.look rfl rfl rfl h.server rfl (by simp [inPhase]) ?_ (by simp [inPhase]) ?_ hchanges
    hforeseen
  · rintro rest' -
    refine ⟨r.ref :: listed, ?_, fun other hother => ?_⟩
    · change Option.map (r.ref :: ·) s.watcher.cache.listing = _
      rw [hlisted]
      rfl
    · rcases Cache.mem_seen_keep _ r hother with rfl | hold
      · exact List.mem_cons_self
      · exact List.mem_cons_of_mem _ (hseen other hold)
  · intro change hchange hdeletion
    rcases List.mem_append.1 hchange with hold | hfound
    · rw [h.deletions change hold hdeletion] at hphase
      cases hphase
    · have hnot := Cache.isDeletion_of_see _ r (Option.mem_toList.1 hfound)
      rw [hdeletion] at hnot
      cases hnot

/-- The listing ends. -/
lemma Serving.endListing (h : s.Serving) (hphase : s.watcher.phase = .listing [])
    (metrics : Metrics) :
    s.Advances tokens lost { (s.withChanges s.watcher.cache.endListing.1
      s.watcher.cache.endListing.2).inPhase .listed with metrics } lost := by
  obtain ⟨listed, hlisted, hseen⟩ := h.listing _ hphase
  rw [Cache.endListing_of_listed hlisted hseen]
  have hforeseen : foreseen { (s.withChanges [] s.watcher.cache.copies).inPhase .listed with
      metrics } = s.foreseen := by
    simp [foreseen, inbox, inPhase, withChanges, hphase, Cache.copies]
  refine h.look rfl rfl rfl h.server rfl (by simp [inPhase]) (by simp [inPhase]) (by simp [inPhase])
    ?_ ?_ (congrArg Prod.snd hforeseen)
  · intro change hchange hdeletion
    rw [h.deletions change (by simpa [inPhase, withChanges] using hchange) hdeletion] at hphase
    cases hphase
  · rw [hforeseen]
    simp [inPhase, withChanges]

/-- A watch is opened. -/
lemma Serving.openWatch (h : s.Serving) (hphase : s.watcher.phase = .listed) :
    s.Advances tokens lost
      { s.inPhase .watching with server := { s.server with watched := true } } lost := by
  have hforeseen : foreseen { s.inPhase .watching with
      server := { s.server with watched := true } } = s.foreseen := by
    simp [foreseen, inbox, inPhase, hphase]
  refine h.look rfl rfl rfl ⟨h.server.working, h.server.documents, h.server.events⟩ rfl
    (by simp [inPhase]) (by simp [inPhase]) (fun _ => rfl) (fun _ _ _ => rfl) ?_
    (congrArg Prod.snd hforeseen)
  rw [hforeseen]
  rfl

/-- The watcher looks for changes. -/
lemma Serving.look? (h : s.Serving) (hlook : s.look? = some s') :
    s.Advances tokens lost s' lost := by
  rw [Controller.look?] at hlook
  split at hlook
  · rename_i hphase
    exact absurd hphase h.begun
  · rename_i hphase
    cases hlook
    exact h.list hphase
  · rename_i hphase
    cases hlook
    exact h.endListing hphase _
  · rename_i hphase
    obtain ⟨server, hwatch, rfl⟩ := Option.map_eq_some_iff.1 hlook
    rw [Server.watch?, if_pos (Server.works_of_failing h.server.working _)] at hwatch
    cases hwatch
    exact h.openWatch hphase
  · rename_i hphase
    rw [h.watching hphase] at hlook
    simp only [Bool.not_true, Bool.false_eq_true, if_false] at hlook
    obtain ⟨⟨event, server⟩, hnext, rfl⟩ := Option.map_eq_some_iff.1 hlook
    exact h.take hphase hnext
  · cases hlook

/-- A step of the watcher. -/
lemma Serving.watch (h : s.Serving) (hwatch : s.watch? = some s') :
    s.Advances tokens lost s' (s.losses lost .watch) := by
  obtain ⟨hunsent, ⟨change, rest, hchanges, rfl⟩ | ⟨hchanges, hlook⟩⟩ := watch?_eq_some hwatch
  · rw [losses, hchanges]
    exact h.dispatch hunsent hchanges
  · rw [losses, hchanges]
    rcases hlook with rfl | hlook
    · exact h.look rfl rfl rfl h.server rfl h.begun h.listing h.watching h.deletions rfl rfl
    · exact h.look? hlook

/-! ## The queues and the coordinator -/

/-- A step that moves operations and outcomes along their queues. -/
lemma Serving.pass (h : s.Serving) (hpasses : s.Passes s') :
    s.Advances tokens lost s' lost := by
  have hserver := hpasses.server
  have hwatcher := hpasses.watcher
  have hforeseen : s'.foreseen = s.foreseen := by simp only [foreseen, inbox, hserver, hwatcher]
  refine advances_of_traffic_eq ⟨hpasses.alive.trans h.alive, hpasses.publishes.trans h.publishes,
    hpasses.listening.trans h.listening, hserver ▸ h.server, hwatcher ▸ h.begun,
    hwatcher ▸ h.listing, ?_, hwatcher ▸ h.deletions, ?_⟩ ?_
  · rw [hwatcher, hserver]
    exact h.watching
  · rw [hforeseen, hserver]
    exact h.knows
  · intro written
    simp only [traffic, hserver, hwatcher, hpasses.state, hpasses.queued, hpasses.outcomes,
      hforeseen]

/-- The coordinator carries out an operation. -/
lemma Serving.work (h : s.Serving) (hbackend : e.backend = Local.backend tokens)
    (hnew : s.DrawsNew tokens) (hwork : s.work? e.backend = some s') :
    s.Advances tokens lost s' lost := by
  obtain ⟨op, requests, hpending, hrequests, rfl⟩ := work?_eq_some h.alive hwork
  intro written hsound
  refine ⟨⟨h.alive, h.publishes, h.listening, h.server, h.begun, h.listing, h.watching, h.deletions,
    h.knows⟩, written, ?_⟩
  have hvalid := (hsound.leads.intact hsound.valid hsound.labelled).1
  have hop : Local.DrawsNew tokens s.pipeline.state op := hnew op (by rw [hrequests]; rfl)
  have hqueued : (s.traffic written lost).queued = op :: (requests ++ s.pipeline.unsent) := by
    simp [traffic, hrequests]
  have hmove : (s.traffic written lost).Moves tokens _ :=
    .works hqueued (Local.process_effect tokens hvalid op) hop
  rw [hbackend]
  convert hmove using 1
  simp [traffic, hpending, foreseen, inbox]

/-! ## The server announces a resource -/

lemma inbox_concat {event : Event} (hbegun : s.watcher.phase ≠ .unlisted)
    (hwatcher : s'.watcher = s.watcher) (hevents : s'.server.events = s.server.events ++ [event]) :
    s'.inbox = s.inbox ++ [event] := by
  rw [inbox, inbox, hwatcher, hevents]
  cases hphase : s.watcher.phase with
  | unlisted => exact absurd hphase hbegun
  | listing rest => simp
  | listed | watching | ended => rfl

/-- After an event that the server adds, the watcher will find what the event brings. -/
lemma foreseen_concat (s' : Controller Store) {event : Event} (hbegun : s.watcher.phase ≠ .unlisted)
    (hwatcher : s'.watcher = s.watcher) (hevents : s'.server.events = s.server.events ++ [event]) :
    s'.foreseen = (s.foreseen.1 ++ (hear s.foreseen.2 event).1, (hear s.foreseen.2 event).2) := by
  rw [foreseen, inbox_concat hbegun hwatcher hevents, hwatcher, foresee_concat]
  rfl

/-- The server announces another state of a resource. -/
lemma Serving.announce (h : s.Serving) (s' : Controller Store) {name : String} {r : Resource}
    (href : r.ref = ⟨name, home⟩) (hwatcher : s'.watcher = s.watcher) (halive : s'.alive = s.alive)
    (hpublishes : s'.pipeline.publishes = s.pipeline.publishes)
    (hlistening : s'.pipeline.listening = s.pipeline.listening)
    (hserver : s'.server.Populated) (hwatched : s'.server.watched = s.server.watched)
    (hresource : ∀ other, s'.server.resource? other
      = if name = other then some r else s.server.resource? other)
    (hevents : s'.server.events = s.server.events ++ [.applied (some r)]) :
    s'.Serving ∧ s'.foreseen.1 = s.foreseen.1 ++ (s.foreseen.2.see r).1.toList := by
  have hforeseen := foreseen_concat s' h.begun hwatcher hevents
  refine ⟨⟨halive.trans h.alive, hpublishes.trans h.publishes, hlistening.trans h.listening,
    hserver, hwatcher ▸ h.begun, hwatcher ▸ h.listing, ?_, hwatcher ▸ h.deletions, ?_⟩,
    by rw [hforeseen]; rfl⟩
  · rw [hwatcher, hwatched]
    exact h.watching
  · intro other
    have hseen : s'.foreseen.2.find? ⟨other, home⟩ = if r.ref = ⟨other, home⟩ then some r
        else s.foreseen.2.find? ⟨other, home⟩ := by
      rw [hforeseen]
      exact Cache.find?_keep _ r _
    rw [hseen, hresource, href]
    by_cases hname : name = other
    · rw [if_pos (by rw [hname]), if_pos hname]
    · rw [if_neg (by simpa using hname), if_neg hname]
      exact h.knows other

/-- The watcher will find a resource to be new. -/
lemma Serving.see_of_none (h : s.Serving) {r : Resource} {name : String}
    (href : r.ref = ⟨name, home⟩) (hnone : s.server.resource? name = none) :
    (s.foreseen.2.see r).1 = some (.created r) := by
  have hknows := h.knows name
  rw [hnone, Option.map_none, Option.map_eq_none_iff] at hknows
  rw [Cache.fst_see, href, hknows]

/-- The watcher will find that the requests of a resource have changed, if they have. -/
lemma Serving.see_of_some (h : s.Serving) {r before : Resource} {name : String}
    (href : r.ref = ⟨name, home⟩) (hsome : s.server.resource? name = some before) :
    ∃ old, (s.foreseen.2.see r).1
      = if before.requests = r.requests then none else some (.updated old r) := by
  have hknows := h.knows name
  rw [hsome, Option.map_some, Option.map_eq_some_iff] at hknows
  obtain ⟨old, hold, hrequests⟩ := hknows
  refine ⟨old, ?_⟩
  rw [Cache.fst_see, href, hold, ← hrequests]

/-- A state of a resource with the same requests brings no change. -/
lemma Serving.restate (h : s.Serving) {name : String} {before r : Resource}
    (hbefore : s.server.resource? name = some before) (href : r.ref = before.ref)
    (hrequests : r.requests = before.requests) (hwatcher : s'.watcher = s.watcher)
    (halive : s'.alive = s.alive) (hpublishes : s'.pipeline.publishes = s.pipeline.publishes)
    (hlistening : s'.pipeline.listening = s.pipeline.listening) {d : Document}
    (hread : d.resource = some r) {patches : List Patch}
    (hserver : s'.server = { s.server with
      objects := s.server.objects.insert name d
      events := s.server.events ++ [.applied (some r)]
      patches }) : s'.Serving ∧ s'.foreseen.1 = s.foreseen.1 := by
  obtain ⟨-, -, -, ha, hname⟩ := h.server.exists_document hbefore
  have hobjects : s'.server.objects = s.server.objects.insert name d := by rw [hserver]
  have hresource := Server.resource?_of_insert hobjects
  have hpopulated : s'.server.Populated :=
    h.server.replace hread (href.trans hname) ha (by rw [hserver]) (by rw [hserver])
      (by rw [hserver])
  rw [hread] at hresource
  obtain ⟨hserving, hforeseen⟩ := h.announce s' (href.trans hname) hwatcher halive hpublishes
    hlistening hpopulated (by rw [hserver]) hresource (by rw [hserver])
  obtain ⟨old, hsee⟩ := h.see_of_some (href.trans hname) hbefore
  rw [hsee, if_pos hrequests.symm] at hforeseen
  exact ⟨hserving, by simpa using hforeseen⟩

/-- The status writer writes an outcome. -/
lemma Serving.write (h : s.Serving) (hwrite : s.write? e.now = some s') :
    s.Advances tokens lost s' (s.losses lost .write) := by
  obtain ⟨outcome, metrics, hwriting, hs'⟩ := write?_eq_some hwrite
  have hserver : s'.server = (writeStatus e.now s.server outcome).2 := by rw [hs']
  have hwatcher : s'.watcher = s.watcher := by rw [hs']
  have hpipeline : s'.pipeline = s.pipeline := by rw [hs']
  have halive : s'.alive = s.alive := by rw [hs']
  have hdone : s'.writing = none := by rw [hs']
  intro written hsound
  have houtcomes : (s.traffic written lost).outcomes
      = outcome :: (s.pipeline.results ++ s.pipeline.pending.toList) := by
    simp [traffic, hwriting]
  have hplain := hsound.outcomes outcome (houtcomes ▸ List.mem_cons_self)
  obtain ⟨hstatus, hannounces⟩ := h.server.writeStatus e.now hplain.addressable hserver
  have hserving : s'.Serving ∧ s'.foreseen.1 = s.foreseen.1 := by
    rcases hannounces with
      hsame | ⟨before, r, d, patches, hbefore, hread, href, hrequests, hpatched⟩
    · have hforeseen : s'.foreseen = s.foreseen := by simp only [foreseen, inbox, hsame, hwatcher]
      refine ⟨⟨halive ▸ h.alive, hpipeline ▸ h.publishes, hpipeline ▸ h.listening,
        hsame ▸ h.server, hwatcher ▸ h.begun, hwatcher ▸ h.listing, ?_, hwatcher ▸ h.deletions, ?_⟩,
        by rw [hforeseen]⟩
      · rw [hwatcher, hsame]
        exact h.watching
      · rw [hforeseen, hsame]
        exact h.knows
    · exact h.restate hbefore href hrequests hwatcher halive (by rw [hpipeline]) (by rw [hpipeline])
        hread hpatched
  refine ⟨hserving.1, ?_⟩
  have hleads := hsound.leads
  rw [houtcomes] at hleads
  cases hleads with
  | @cons _ written' _ _ _ effect new later =>
      have hmove : (s.traffic written lost).Moves tokens _ :=
        .writes houtcomes effect new later
      refine ⟨written', ?_⟩
      convert hmove using 1
      simp only [traffic, losses, hwriting, hstatus, hwatcher, hpipeline, hdone, hserving.2,
        Option.toList_none, List.nil_append]

/-! ## All steps of the controller -/

/-- **Every step of the controller advances it.** -/
theorem Serving.act (h : s.Serving) (hbackend : e.backend = Local.backend tokens)
    (hnew : s.DrawsNew tokens) {activity : Activity} (hact : s.act? e activity = some s') :
    s.Advances tokens lost s' (s.losses lost activity) := by
  cases activity with
  | watch => exact h.watch hact
  | send => exact h.pass (passes_of_send h.alive hact)
  | publish => exact h.pass (passes_of_publish h.alive h.publishes h.listening hact)
  | work => exact h.work hbackend hnew hact
  | receive => exact h.pass (passes_of_receive h.listening hact)
  | write => exact h.write hact

/-! ## Users -/

/-- **A document that users put advances the controller.** -/
theorem Serving.put (h : s.Serving) {j : Json} {r : Resource}
    (ha : s.server.Accepts j r) :
    s.Advances tokens lost { s with server := s.server.put j } lost := by
  have hevents : (s.server.put j).events = s.server.events ++ [.applied (some r)] := by
    rw [Server.put, ha.read]
  have hresource : ∀ other, (s.server.put j).resource? other
      = if Document.nameOf j = other then some r else s.server.resource? other := fun other =>
    (Server.resource?_of_insert rfl other).trans (by rw [ha.read])
  have hstatus : (s.server.put j).status
      = Function.update s.server.status r.ref.name (some r.records) := by
    rw [ha.ref]
    exact Server.status_of_insert rfl ha.read
  obtain ⟨hserving, hforeseen⟩ := h.announce { s with server := s.server.put j } ha.ref rfl rfl rfl
    rfl (h.server.put ha) rfl hresource hevents
  intro written hsound
  refine ⟨hserving, written, ?_⟩
  have htraffic : traffic { s with server := s.server.put j } written lost
      = { s.traffic written lost with
        status := Function.update s.server.status r.ref.name (some r.records)
        changes := (s.traffic written lost).changes ++ (s.foreseen.2.see r).1.toList } := by
    simp [traffic, hforeseen, hstatus]
  have haddressable : Addressable r.ref.name := by
    rw [ha.ref]
    exact ha.addressable
  have hrecords := ha.records
  rw [htraffic]
  cases hbefore : s.server.resource? (Document.nameOf j) with
  | none =>
      have hblank : r.records = [] := by
        rw [hrecords, Server.recordsOf, hbefore]
        rfl
      rw [h.see_of_none ha.ref hbefore, hblank]
      refine .creates (by simp [traffic, Server.status, ha.ref, hbefore]) ⟨haddressable, ?_⟩
      rintro _ ⟨⟩
      exact hblank
  | some before =>
      have hsame : Function.update s.server.status r.ref.name (some r.records)
          = s.server.status := by
        rw [hrecords, Server.recordsOf, hbefore, Function.update_eq_self_iff, Server.status, ha.ref,
          hbefore]
        rfl
      obtain ⟨old, hsee⟩ := h.see_of_some ha.ref hbefore
      rw [hsame, hsee]
      split_ifs with hrequests
      · simpa [traffic] using (Traffic.Moves.rests (t := s.traffic written lost))
      · exact .updates ⟨haddressable, fun _ hcreated => by cases hcreated⟩

/-- **A resource that users remove advances the controller.** -/
theorem Serving.remove (h : s.Serving) (name : String) :
    s.Advances tokens lost { s with server := s.server.remove name } lost := by
  cases hresource : s.server.resource? name with
  | none =>
      rw [h.server.remove_of_none hresource]
      exact advances_of_traffic_eq h fun _ => rfl
  | some r =>
      have hremove := h.server.remove_eq hresource
      have href := h.server.ref_eq hresource
      have hevents : (s.server.remove name).events = s.server.events ++ [.deleted (some r)] := by
        rw [hremove]
      have hstatus : (s.server.remove name).status
          = Function.update s.server.status r.ref.name none := by
        rw [href]
        exact Server.status_of_erase (by rw [hremove])
      have hforeseen : foreseen { s with server := s.server.remove name }
          = (s.foreseen.1 ++ [.deleted r], s.foreseen.2.drop r.ref) :=
        foreseen_concat { s with server := s.server.remove name } h.begun rfl hevents
      intro written hsound
      refine ⟨⟨h.alive, h.publishes, h.listening, h.server.remove hresource, h.begun, h.listing, ?_,
        h.deletions, ?_⟩, written, ?_⟩
      · rw [hremove]
        exact h.watching
      · intro other
        rw [hforeseen, Cache.find?_drop, href, Server.resource?_of_erase (by rw [hremove])]
        by_cases hname : other = name
        · simp [hname]
        · rw [if_neg (by simpa using hname), if_neg hname]
          exact h.knows other
      · have htraffic : traffic { s with server := s.server.remove name } written lost
            = { s.traffic written lost with
              status := Function.update s.server.status r.ref.name none
              changes := (s.traffic written lost).changes ++ [.deleted r] } := by
          simp [traffic, hforeseen, hstatus]
        obtain ⟨-, -, -, haddressable, -⟩ := h.server.exists_document hresource
        rw [htraffic]
        refine .removes ?_ ⟨?_, fun _ hcreated => by cases hcreated⟩
        · simp [traffic, Server.status, href, hresource]
        · rwa [Change.subject, href]

end Ipam.Cluster.Controller
