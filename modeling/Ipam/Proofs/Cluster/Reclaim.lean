import Ipam.Proofs.Cluster.Service

/-!
# Addresses come back

Users create, edit and remove resources at will while the controller works for all of them.  Once
all resources are gone and nothing is on its way any more, the addresses are free again, save those
that are lost.

A removed resource is cleaned up from its recorded status.  An outcome that comes when its resource
is gone is dropped, so that what it has bound is recorded nowhere.  And what is recorded is left
alone at the removal if another resource records the same address, which is compared by text.

* `Controller.Run` — what users and the controller do, with what is lost.
* **`Controller.free_of_gone`** — the theorem, for every run from free pools and no resources.
* **`Controller.bound_of_lost`** — in either way an address may be lost for good.

Nothing is asked of what users want: they may remove a resource at any time, put it again, let
several resources share a binding, and use pools that overlap.
-/

namespace Ipam.Cluster.Controller

open Pool (TokenSource)
open Watch (Cache Change)

/-! ## Runs -/

/-- The states of a run, with what is lost.  Deletes draw new tokens. -/
inductive Run (e : Setting Store) (tokens : TokenSource) (start : Controller Store) :
    Losses → Controller Store → Prop where
  | start : Run e tokens start {} start
  | act {lost : Losses} {s s' : Controller Store} (activity : Activity)
      (before : Run e tokens start lost s) (new : s.DrawsNew tokens)
      (next : s.act? e activity = some s') : Run e tokens start (s.losses lost activity) s'
  | put {lost : Losses} {s : Controller Store} {j : Json} {r : Resource}
      (before : Run e tokens start lost s) (accepts : s.server.Accepts j r) :
      Run e tokens start lost { s with server := s.server.put j }
  | remove {lost : Losses} {s : Controller Store} (name : String)
      (before : Run e tokens start lost s) :
      Run e tokens start lost { s with server := s.server.remove name }

variable {e : Setting Store} {tokens : TokenSource} {lost : Losses} {store : Store}
  {s s' : Controller Store}

/-! ## Before the first listing -/

/-- The controller has not made a step, and no status records anything. -/
structure Untouched (store : Store) (s : Controller Store) : Prop where
  initial : s = .initial s.server store
  server : s.server.Populated
  watched : s.server.watched = false
  blank : ∀ name r, s.server.resource? name = some r → r.records = []

lemma Untouched.put (h : s.Untouched store) {j : Json} {r : Resource} (ha : s.server.Accepts j r) :
    Untouched store { s with server := s.server.put j } where
  initial := by rw [h.initial]; rfl
  server := h.server.put ha
  watched := h.watched
  blank name found hfound := by
    rw [Server.resource?_of_insert (d := s.server.stored j) rfl, ha.read] at hfound
    split_ifs at hfound with hname
    · cases hfound
      rw [ha.records, Server.recordsOf]
      cases hbefore : s.server.resource? (Document.nameOf j) with
      | none => rfl
      | some before => exact h.blank _ _ hbefore
    · exact h.blank name found hfound

lemma Untouched.remove (h : s.Untouched store) (name : String) :
    Untouched store { s with server := s.server.remove name } := by
  cases hresource : s.server.resource? name with
  | none =>
      rw [h.server.remove_of_none hresource]
      exact h
  | some r =>
      have hremove := h.server.remove_eq hresource
      refine ⟨by rw [h.initial]; rfl, h.server.remove hresource, ?_, ?_⟩
      · rw [hremove]
        exact h.watched
      · intro other found hfound
        rw [Server.resource?_of_erase (by rw [hremove])] at hfound
        split_ifs at hfound
        exact h.blank other found hfound

/-! ## The first listing -/

/-- A listing of a server where no status records anything. -/
structure Listed (server : Server) (rs : List Resource) : Prop where
  populated : server.Populated
  nodup : (rs.map (·.ref)).Nodup
  mem : ∀ r, r ∈ rs ↔ ∃ name, server.resource? name = some r
  blank : ∀ name r, server.resource? name = some r → r.records = []

/-- The controller after the first listing. -/
def afterListing (server : Server) (store : Store) (rs : List Resource) : Controller Store :=
  { Controller.initial { server with events := [] } store with
    watcher := { phase := .listing rs, cache := { listing := some [] } } }

section FirstListing

variable {server : Server} {rs : List Resource}

/-- Only the watcher can make the first step: it lists the resources. -/
lemma Untouched.lists (h : s.Untouched store) {activity : Activity}
    (hnext : s.act? e activity = some s') :
    ∃ rs, Listed s.server rs ∧ s' = afterListing s.server store rs := by
  obtain ⟨rs, hlist, hnodup, hmem⟩ := h.server.list
  refine ⟨rs, ⟨h.server, hnodup, hmem, h.blank⟩, ?_⟩
  rw [if_neg (by simp [h.watched])] at hlist
  rw [h.initial] at hnext
  cases activity with
  | watch =>
      have hlook : look? (.initial s.server store) = some s' := hnext
      simp only [look?, Controller.initial, hlist] at hlook
      cases hlook
      rfl
  | send | publish | work | receive | write => cases hnext

/-- A resource is found in the listing under its name. -/
lemma Listed.find?_eq (h : Listed server rs) (name : String) :
    Cache.find? { seen := rs } ⟨name, home⟩ = server.resource? name := by
  cases hfind : Cache.find? { seen := rs } ⟨name, home⟩ with
  | some r =>
      have href : r.ref = ⟨name, home⟩ := by simpa using List.find?_some hfind
      obtain ⟨other, hother⟩ := (h.mem r).1 (List.mem_of_find?_eq_some hfind)
      cases href.symm.trans (h.populated.ref_eq hother)
      exact hother.symm
  | none =>
      cases hresource : server.resource? name with
      | none => rfl
      | some r =>
          have hr := List.find?_eq_none.1 hfind r ((h.mem r).2 ⟨name, hresource⟩)
          simp [h.populated.ref_eq hresource] at hr

lemma Listed.exists_resource (h : Listed server rs) {change : Change}
    (hchange : change ∈ rs.map .created) :
    ∃ r name, change = .created r ∧ server.resource? name = some r ∧ r.ref = ⟨name, home⟩ := by
  obtain ⟨r, hr, rfl⟩ := List.mem_map.1 hchange
  obtain ⟨name, hname⟩ := (h.mem r).1 hr
  exact ⟨r, name, rfl, hname, h.populated.ref_eq hname⟩

lemma Listed.status (h : Listed server rs) {name : String} {records : List Record}
    (hrecords : server.status name = some records) : records = [] := by
  obtain ⟨r, hr, rfl⟩ := Option.map_eq_some_iff.1 hrecords
  exact h.blank name r hr

/-- All resources of the listing will be found to be new. -/
lemma Listed.foreseen (h : Listed server rs) :
    (afterListing server store rs).foreseen = (rs.map .created, { seen := rs }) := by
  have hinbox : (afterListing server store rs).inbox = rs.map fun r => .applied (some r) := by
    simp [inbox, afterListing, Controller.initial]
  rw [Controller.foreseen, hinbox]
  exact foresee_listing h.nodup fun r _ => rfl

lemma Listed.serving (h : Listed server rs) :
    (afterListing server store rs).Serving where
  alive := rfl
  publishes := rfl
  listening := rfl
  server := ⟨h.populated.working, h.populated.documents, by simp [afterListing, Controller.initial]⟩
  begun := by simp [afterListing]
  listing _ _ := ⟨[], rfl, by simp [afterListing]⟩
  watching := by simp [afterListing]
  deletions := by simp [afterListing]
  knows name := by
    rw [h.foreseen, h.find?_eq]
    rfl

lemma Listed.traffic (h : Listed server rs) (lost : Losses) :
    (afterListing server store rs).traffic store lost
      = ⟨server.status, rs.map .created, [], store, [], store, lost⟩ := by
  rw [Controller.traffic, h.foreseen]
  rfl

lemma Listed.sound (h : Listed server rs) (hvalid : store.Valid) (hlabelled : store.Labelled)
    (lost : Losses) : ((afterListing server store rs).traffic store lost).Sound tokens := by
  rw [h.traffic]
  refine ⟨hvalid, hlabelled, .nil _, fun change hchange => ?_, by simp, by simp,
    fun name records hrecords => ?_⟩
  · obtain ⟨r, name, rfl, hr, href⟩ := h.exists_resource hchange
    obtain ⟨-, -, -, haddressable, -⟩ := h.populated.exists_document hr
    refine ⟨by rwa [Change.subject, href], ?_⟩
    rintro _ ⟨⟩
    exact h.blank name r hr
  · rw [h.status hrecords]
    exact List.nodup_nil

end FirstListing

/-! ## All runs -/

/-- The controller serves its users, and all that the store keeps is accounted for. -/
structure Underway (tokens : TokenSource) (lost : Losses) (s : Controller Store) : Prop where
  serving : s.Serving
  traffic : ∃ written, (s.traffic written lost).Sound tokens ∧ (s.traffic written lost).Accounted

/-- The first listing brings the controller under way.  Nothing is bound yet. -/
lemma Untouched.act (h : s.Untouched store) (hvalid : store.Valid) (hlabelled : store.Labelled)
    (hunbound : ∀ label reference, store.lookup label reference = none) {activity : Activity}
    (hnext : s.act? e activity = some s') (lost : Losses) : s'.Underway tokens lost := by
  obtain ⟨rs, hlisted, rfl⟩ := h.lists hnext
  refine ⟨hlisted.serving, store, hlisted.sound hvalid hlabelled lost, ?_⟩
  intro label reference a hlookup
  cases (hunbound label reference).symm.trans hlookup

/-- The controller goes on as it did. -/
lemma Underway.advance (h : s.Underway tokens lost) {lost' : Losses}
    (hadvances : s.Advances tokens lost s' lost') : s'.Underway tokens lost' := by
  obtain ⟨written, hsound, haccounted⟩ := h.traffic
  obtain ⟨hserving, written', hmove⟩ := hadvances written hsound
  exact ⟨hserving, written', hsound.move hmove, haccounted.move hsound hmove⟩

/-- At every moment of a run the controller is untouched or well under way. -/
lemma Run.invariant {start : Controller Store} (h : Run e tokens start lost s)
    (hstart : start.Untouched store) (hbackend : e.backend = Local.backend tokens)
    (hvalid : store.Valid) (hlabelled : store.Labelled)
    (hunbound : ∀ label reference, store.lookup label reference = none) :
    s.Untouched store ∨ s.Underway tokens lost := by
  induction h with
  | start => exact .inl hstart
  | act activity before new next ih =>
      rcases ih with huntouched | hunderway
      · exact .inr (huntouched.act hvalid hlabelled hunbound next _)
      · exact .inr (hunderway.advance (hunderway.serving.act hbackend new next))
  | put before accepts ih =>
      rcases ih with huntouched | hunderway
      · exact .inl (huntouched.put accepts)
      · exact .inr (hunderway.advance (hunderway.serving.put accepts))
  | remove name before ih =>
      rcases ih with huntouched | hunderway
      · exact .inl (huntouched.remove name)
      · exact .inr (hunderway.advance (hunderway.serving.remove name))

/-- All resources are gone, and nothing is on its way. -/
structure Over (s : Controller Store) : Prop where
  gone : ∀ name, s.server.objects.get? name = none
  idle : s.Idle
  inbox : s.inbox = []

/-- **Once all resources are gone and nothing is on its way, every address is free, unless it is
lost**: the last outcome for its binding was the answer to a create, dropped since its resource was
gone, or a removal has skipped it since. -/
theorem free_of_gone (hbackend : e.backend = Local.backend tokens) (hvalid : store.Valid)
    (hlabelled : store.Labelled)
    (hfree : ∀ label, ∀ row ∈ store.rows label, row.holder.isFree = true)
    (hrun : Run e tokens (.initial {} store) lost s) (hover : s.Over) {label : String}
    {row : Pool.Row} (hrow : row ∈ s.pipeline.state.rows label) :
    row.holder.isFree = true ∨
      ∃ reference, row.holder = .bound reference ∧
        ((label, reference) ∈ lost.dropped ∨ (label, reference) ∈ lost.skipped) := by
  have hunbound : ∀ label reference, store.lookup label reference = none := by
    intro label reference
    rw [Option.eq_none_iff_forall_ne_some]
    intro a hlookup
    cases hfree label _ ((Store.lookup_eq_some_iff hvalid).1 hlookup)
  have hstart : (Controller.initial {} store).Untouched store :=
    ⟨rfl, Server.populated_empty, rfl, fun name r hr => by cases hr⟩
  rcases hrun.invariant hstart hbackend hvalid hlabelled hunbound with huntouched | hunderway
  · -- Nothing has happened to the store.
    have hstate : s.pipeline.state = store := by rw [huntouched.initial]; rfl
    exact .inl (hfree label row (hstate ▸ hrow))
  · obtain ⟨written, hsound, haccounted⟩ := hunderway.traffic
    refine Traffic.free_or_lost hsound haccounted (fun name => ?_) ?_ ?_ ?_ hrow
    · simp [traffic, Server.status, Server.resource?, hover.gone name]
    · simp [traffic, foreseen, hover.inbox, hover.idle.changes, foresee]
    · simp [traffic, hover.idle.requests, hover.idle.unsent]
    · simp [traffic, hover.idle.writing, hover.idle.results, hover.idle.pending]

/-! ## Runs of two resources -/

/-- A document that asks for an address for a host. -/
def page (name host label : String) : Json :=
  .obj [("metadata", .obj [("name", .str name)]),
    ("spec", .obj [("hostSpecs", .array [.obj [("host", .str host), ("ipamLabel", .str label)]])])]

/-- The resource that the document is read as. -/
def site (name host label : String) : Resource where
  metadata := { name := some name, ns := some "kube-system" }
  requests := [{ host := some host, label := some label }]
  status := none

lemma accepts_page {server : Server} {name : String} (ha : Addressable name) (host label : String)
    (hnone : server.objects.get? name = none) :
    server.Accepts (page name host label) (site name host label) := by
  have hresource : server.resource? name = none := by simp [Server.resource?, hnone]
  refine ⟨?_, rfl, ha, ?_⟩
  · have hstored : server.stored (page name host label) = .read .null (page name host label) := by
      rw [Server.stored, Server.statusOf,
        show Document.nameOf (page name host label) = name from rfl, hnone]
      rfl
    rw [hstored]
    rfl
  · rw [Server.recordsOf, show Document.nameOf (page name host label) = name from rfl, hresource]
    rfl

instance (tokens : TokenSource) (s : Controller Store) : Decidable (s.DrawsNew tokens) :=
  inferInstanceAs (Decidable (∀ op ∈ s.pipeline.requests.head?, op.kind = .delete →
    ∀ row ∈ s.pipeline.state.rows op.pool, row.holder.reference ≠ tokens s.pipeline.state.drawn))

/-- What is lost and the state after some steps of the controller, none if one is impossible or
draws an old token. -/
def after? (e : Setting Store) (tokens : TokenSource) :
    List Activity → Losses → Controller Store → Option (Losses × Controller Store)
  | [], lost, s => some (lost, s)
  | activity :: rest, lost, s =>
    if s.DrawsNew tokens then
      (s.act? e activity).bind (after? e tokens rest (s.losses lost activity))
    else none

lemma Run.acts {start : Controller Store} (h : Run e tokens start lost s)
    (activities : List Activity) {lost' : Losses}
    (hafter : after? e tokens activities lost s = some (lost', s')) :
    Run e tokens start lost' s' := by
  induction activities generalizing lost s with
  | nil =>
      cases hafter
      exact h
  | cons activity rest ih =>
      rw [after?] at hafter
      split_ifs at hafter with hnew
      obtain ⟨next, hnext, hrest⟩ := Option.bind_eq_some_iff.1 hafter
      exact ih (h.act activity hnew hnext) hrest

lemma lan_free : ∀ label, ∀ row ∈ lan.rows label, row.holder.isFree = true := by
  intro label row hrow
  rw [Store.rows, lan, Table.get?_insert] at hrow
  split_ifs at hrow
  · rw [List.mem_singleton.1 hrow]
    rfl
  · cases hrow

lemma addressable_web : Addressable "web" :=
  ⟨⟨_, rfl, by decide⟩, by decide⟩

lemma addressable_mail : Addressable "mail" :=
  ⟨⟨_, rfl, by decide⟩, by decide⟩

/-- The controller when it waits for events. -/
def watching (store : Store) : Controller Store :=
  { Controller.initial { watched := true } store with
    watcher := { phase := .watching }
    metrics := { ready := true } }

lemma run_watching (store : Store) :
    Run setting Pool.Token.dashes (.initial {} store) {} (watching store) := by
  have hlisting : Run setting Pool.Token.dashes (.initial {} store) {}
      { Controller.initial {} store with
        watcher := { phase := .listing [], cache := { listing := some [] } } } :=
    Run.start.acts [.watch] rfl
  have hlisted : Run setting Pool.Token.dashes (.initial {} store) {}
      { Controller.initial {} store with
        watcher := { phase := .listed }
        metrics := { ready := true } } := by
    have hnew : DrawsNew Pool.Token.dashes
        { Controller.initial {} store with
          watcher := { phase := .listing [], cache := { listing := some [] } } } := by
      simp [DrawsNew, Controller.initial, Coordinator.Pipeline.initial]
    refine hlisting.act .watch hnew ?_
    simp [act?, watch?, look?, Controller.initial, Coordinator.Pipeline.initial, inPhase,
      withChanges, Cache.endListing]
  exact hlisted.acts [.watch] rfl

/-- A change is found, and what it calls for is carried through until its outcome is written. -/
def carrying : List Activity :=
  [.watch, .watch, .send, .work, .publish, .receive, .write]

/-- When users remove a resource before its request was sent, the request is still carried out, but
there is no status left that could record the address, and none is found there when the removal is
seen.  Then the resource is put again, served, and removed. -/
lemma run_early :
    ∃ s s' holder, Run setting Pool.Token.dashes (.initial {} lan) ⟨[("lan", "www")], []⟩ s ∧
      s.Over ∧ s.pipeline.state.rows "lan" = [⟨.ofNat 0x0A000001, .bound "www"⟩] ∧
      Run setting Pool.Token.dashes (.initial {} lan) {} s' ∧
      s'.Over ∧ s'.pipeline.state.rows "lan" = [⟨.ofNat 0x0A000001, holder⟩] := by
  have hput : Run setting Pool.Token.dashes (.initial {} lan) {} _ :=
    (run_watching lan).put (accepts_page addressable_web "www" "lan" rfl)
  have hfound : Run setting Pool.Token.dashes (.initial {} lan) {} _ :=
    hput.acts [.watch, .watch] rfl
  have hlost : Run setting Pool.Token.dashes (.initial {} lan) ⟨[("lan", "www")], []⟩ _ :=
    (hfound.remove "web").acts [.send, .work, .publish, .receive, .write, .watch, .watch] rfl
  have hserved : Run setting Pool.Token.dashes (.initial {} lan) {} _ :=
    (hlost.put (accepts_page addressable_web "www" "lan" rfl)).acts (carrying ++ [.watch]) rfl
  have hrun : Run setting Pool.Token.dashes (.initial {} lan) {} _ :=
    (hserved.remove "web").acts carrying rfl
  exact ⟨_, _, _, hlost, ⟨fun _ => rfl, ⟨rfl, rfl, rfl, rfl, rfl, rfl⟩, rfl⟩, rfl,
    hrun, ⟨fun _ => rfl, ⟨rfl, rfl, rfl, rfl, rfl, rfl⟩, rfl⟩, rfl⟩

/-- An address that was lost is free again once its resource was put again, served, and removed. -/
theorem free_of_served :
    ∃ s row, Run setting Pool.Token.dashes (.initial {} lan) {} s ∧ s.Over ∧
      row ∈ s.pipeline.state.rows "lan" ∧ row.address = .ofNat 0x0A000001 ∧
      row.holder.isFree = true := by
  obtain ⟨-, s, holder, -, -, -, hrun, hover, hrows⟩ := run_early
  have hrow : ⟨.ofNat 0x0A000001, holder⟩ ∈ s.pipeline.state.rows "lan" :=
    hrows ▸ List.mem_singleton_self _
  refine ⟨s, _, hrun, hover, hrow, rfl, ?_⟩
  rcases free_of_gone rfl lan_valid lan_labelled lan_free hrun hover hrow with
    hfree | ⟨reference, -, hdropped | hskipped⟩
  · exact hfree
  · cases hdropped
  · cases hskipped

/-! ## Addresses that are lost for good -/

/-- From pools that are free a run leads to a state in which everything is over and a row of a pool
is bound. -/
def Leaks (store : Store) (lost : Losses) (label : String) (row : Pool.Row) : Prop :=
  store.Valid ∧ store.Labelled ∧ (∀ label, ∀ row ∈ store.rows label, row.holder.isFree = true) ∧
    ∃ s, Run setting Pool.Token.dashes (.initial {} store) lost s ∧ s.Over ∧
      row ∈ s.pipeline.state.rows label ∧ row.holder.isFree = false

/-- A resource that is removed too early may lose its address. -/
lemma leaks_of_early :
    Leaks lan ⟨[("lan", "www")], []⟩ "lan" ⟨.ofNat 0x0A000001, .bound "www"⟩ := by
  obtain ⟨s, -, -, hrun, hover, hrows, -⟩ := run_early
  exact ⟨lan_valid, lan_labelled, lan_free, s, hrun, hover, hrows ▸ List.mem_cons_self, rfl⟩

/-- The store with a second pool of the same address. -/
def overlapping : Store :=
  { lan with
    pools := lan.pools.insert "wan"
      ⟨"10.0.0.1-10.0.0.1", [⟨.ofNat 0x0A000001, .free (Pool.Token.dashes 0)⟩]⟩ }

lemma overlapping_valid : overlapping.Valid := by
  intro label p hp
  rw [overlapping, Table.get?_insert] at hp
  split_ifs at hp
  · cases hp
    exact ⟨by cbv, List.nodup_singleton _⟩
  · exact lan_valid label p hp

lemma overlapping_labelled : overlapping.Labelled := by
  intro label p hp
  rw [overlapping, Table.get?_insert] at hp
  split_ifs at hp with heq
  · subst heq
    decide
  · exact lan_labelled label p hp

lemma overlapping_free : ∀ label, ∀ row ∈ overlapping.rows label, row.holder.isFree = true := by
  intro label row hrow
  rw [Store.rows, overlapping, Table.get?_insert] at hrow
  split_ifs at hrow
  · rw [List.mem_singleton.1 hrow]
    rfl
  · exact lan_free label row hrow

/-- When two resources have the same address in two pools, the removal of the first one takes it for
shared. -/
lemma leaks_of_overlap :
    Leaks overlapping ⟨[], [("lan", "www")]⟩ "lan" ⟨.ofNat 0x0A000001, .bound "www"⟩ := by
  have hfirst : Run setting Pool.Token.dashes (.initial {} overlapping) {} _ :=
    ((run_watching overlapping).put (accepts_page addressable_web "www" "lan" rfl)).acts
      (carrying ++ [.watch]) rfl
  have hboth : Run setting Pool.Token.dashes (.initial {} overlapping) {} _ :=
    (hfirst.put (accepts_page addressable_mail "mx" "wan" rfl)).acts (carrying ++ [.watch]) rfl
  have hskipped : Run setting Pool.Token.dashes (.initial {} overlapping)
      ⟨[], [("lan", "www")]⟩ _ :=
    (hboth.remove "web").acts [.watch, .watch] rfl
  have hrun : Run setting Pool.Token.dashes (.initial {} overlapping) ⟨[], [("lan", "www")]⟩ _ :=
    (hskipped.remove "mail").acts carrying rfl
  exact ⟨overlapping_valid, overlapping_labelled, overlapping_free, _, hrun,
    ⟨fun _ => rfl, ⟨rfl, rfl, rfl, rfl, rfl, rfl⟩, rfl⟩, List.mem_cons_self, rfl⟩

/-- **In either way an address may be lost for good.** -/
theorem bound_of_lost :
    Leaks lan ⟨[("lan", "www")], []⟩ "lan" ⟨.ofNat 0x0A000001, .bound "www"⟩ ∧
      Leaks overlapping ⟨[], [("lan", "www")]⟩ "lan" ⟨.ofNat 0x0A000001, .bound "www"⟩ :=
  ⟨leaks_of_early, leaks_of_overlap⟩

end Ipam.Cluster.Controller
