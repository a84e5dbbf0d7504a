import Ipam.Proofs.Allocation.Effects

/-!
# Labels over one grid

A label map may give several labels to one network, or networks that overlap, in one view or in
several.  This file says what an operation on one label leaves of the others.

* `Infoblox.Resolved` — label networks that are read from their own texts;
  `Infoblox.resolved_of_start` says that every start answers such.
* `Infoblox.Reachable` — the grids that administrators, other clients and coordinators lead to;
  `Infoblox.Reachable.orderly` is their invariant.
* `Infoblox.LeavesLabels` — the bindings and the host records that an operation leaves as they are.
* **`Infoblox.labels_stay_apart`** — after every start, in every reachable grid, every operation
  leaves them.
* **`Infoblox.labels_meet`** — the rest may change: labels for overlapping networks of one view share
  their bindings, and the host records of all views are shared.
-/

namespace Ipam.Infoblox

open Coordinator (process processAll)
open Grid (Memory FixedAddress HostRecord)
open Grid.Memory (Orderly)

variable {url : String} {sites : Table LabelNetwork} {g g' : Memory} {op q : Operation}
  {net : LabelNetwork} {reference : String} {outcome : Outcome}

/-! ## Label networks after a start -/

/-- Every label network has the addresses that its text says. -/
def Resolved (sites : Table LabelNetwork) : Prop :=
  ∀ label net, sites.get? label = some net → Network.parse? net.cidr = some net.network

lemma resolved_of_resolve {labels defaultView : String} (h : resolve labels defaultView = .ok sites) :
    Resolved sites := by
  unfold resolve at h
  split at h
  · cases h
  · rename_i configs _
    generalize hentries : (configs.entries.mapM fun entry => do
      return (entry.1, ← resolveLabel defaultView entry.1 entry.2) :
        Except SetupError (List (String × LabelNetwork))) = answer at h
    obtain _ | entries := answer
    · cases h
    · obtain rfl : Table.ofList entries = sites := Except.ok.inj h
      intro label net hsite
      obtain ⟨⟨label', config⟩, -, hentry⟩ :=
        Table.exists_of_mapM hentries _ (Table.mem_of_get?_ofList hsite)
      rw [resolveLabel] at hentry
      cases hparse : Network.parse? config.cidr with
      | none =>
          rw [hparse] at hentry
          cases hentry
      | some network =>
          rw [hparse] at hentry
          cases hentry
          exact hparse

/-- **The label networks that a start answers are read from their texts.** -/
theorem resolved_of_start {labels defaultView : String} {g₀ g₁ : Memory}
    (h : start (Memory.client url) labels defaultView g₀ = (.ok sites, g₁)) : Resolved sites := by
  obtain ⟨networks, _, hnetworks, h⟩ := Call.bind_eq_ok h
  obtain ⟨-, _, -, h⟩ := Call.bind_eq_ok h
  obtain ⟨-, _, -, h⟩ := Call.bind_eq_ok h
  rw [Call.pure_apply] at h
  cases h
  change (resolve labels defaultView, g₀) = _ at hnetworks
  exact resolved_of_resolve (Prod.mk.inj hnetworks).1

/-- A host of the network of a label has one of the addresses of the network. -/
lemma Resolved.contains (h : Resolved sites) {label : String} (hsite : sites.get? label = some net)
    {a : Address} (ha : net.Reaches a) : net.network.contains a = true := by
  rcases ha with hcontains | hhost
  · exact hcontains
  · rw [Memory.isHostText, Address.toList_toString, Address.parseQuad?_quad] at hhost
    cases hnetwork : Memory.hostNetwork? net.cidr with
    | none =>
        rw [hnetwork] at hhost
        cases hhost
    | some n =>
        rw [hnetwork] at hhost
        obtain ⟨hexact, -⟩ := Option.filter_eq_some_iff.1 hnetwork
        have hread := Network.parse?_of_parseExact? hexact
        rw [h label net hsite, Option.some_inj] at hread
        rw [hread]
        exact Network.contains_of_isHost hhost

/-! ## Reachable grids -/

/-- The grids that administrators, other clients and coordinators lead to, each in its turn. -/
inductive Reachable : Memory → Prop where
  /-- A new grid. -/
  | new : Reachable {}
  /-- An administrator adds a view. -/
  | view {g : Memory} (name : String) (hg : Reachable g) : Reachable (g.addView name)
  /-- An administrator adds a network. -/
  | network {g : Memory} (view cidr : String) (hg : Reachable g) :
      Reachable (g.addNetwork view cidr)
  /-- The grid goes out of order, or comes back. -/
  | outage {g : Memory} (failure : Option String) (hg : Reachable g) :
      Reachable { g with failure := failure }
  /-- A client reserves the next free address of a network. -/
  | next {g g' : Memory} {view cidr name : String} {o : FixedAddress} (hg : Reachable g)
      (call : g.allocateNext view cidr name = .ok (o, g')) : Reachable g'
  /-- A client reserves one address. -/
  | fixed {g g' : Memory} {view name : String} {a : Address} {o : FixedAddress} (hg : Reachable g)
      (call : g.createFixed view (toString a) name = .ok (o, g')) : Reachable g'
  /-- A client publishes an address. -/
  | record {g : Memory} (host : String) (a : Address) (hg : Reachable g) :
      Reachable (g.insertRecord host (toString a)).2
  /-- A client deletes an object. -/
  | delete {g g' : Memory} {key : String} (hg : Reachable g) (call : g.delete key = .ok ((), g')) :
      Reachable g'
  /-- A controller starts, with success or without. -/
  | start {g : Memory} (url labels defaultView : String) (hg : Reachable g) :
      Reachable (start (Memory.client url) labels defaultView g).2
  /-- A coordinator processes an operation. -/
  | process {g : Memory} (url : String) (sites : Table LabelNetwork) (op : Operation)
      (hg : Reachable g) : Reachable (process (backend (Memory.client url) sites) op g).2

lemma reads_ask {α : Type} (f : Memory → α) : Call.Reads (ask (Memory.view f)) := by
  intro g
  simp only [ask, Memory.view, Memory.call, ExceptT.run]
  rcases g.failure with _ | _ <;> rfl

lemma reads_validateLabel (label : String) (net : LabelNetwork) :
    Call.Reads (validateLabel (Memory.client url) label net) := by
  have hnetwork : Call.Reads (do
      if (← ask ((Memory.client url).network? net.view net.cidr)).isNone then
        throw (.missingNetwork label net.cidr net.view) : SetupM Memory Unit) := by
    refine (reads_ask _).bind fun network => ?_
    split_ifs
    · exact Call.reads_throw _
    · exact Call.reads_pure ()
  refine (reads_ask _).bind fun view => ?_
  split_ifs
  · exact (Call.reads_throw _).bind fun _ => hnetwork
  · exact hnetwork

lemma snd_ensureAttribute (url : String) (g : Memory) :
    (ensureAttribute (Memory.client url) g).2 = g ∨
      (ensureAttribute (Memory.client url) g).2 = marked g := by
  by_cases hfailure : g.failure = none
  · exact .inr (congrArg Prod.snd (ensureAttribute_apply url hfailure))
  · obtain ⟨message, hmessage⟩ := Option.ne_none_iff_exists'.1 hfailure
    exact .inl (congrArg Prod.snd (ensureAttribute_of_outage url hmessage))

/-- A start leaves the grid as it is, or marks it. -/
lemma snd_start (url labels defaultView : String) (g : Memory) :
    (start (Memory.client url) labels defaultView g).2 = g ∨
      (start (Memory.client url) labels defaultView g).2 = marked g := by
  rw [start, Call.bind_apply]
  cases resolve labels defaultView with
  | error cause => exact .inl rfl
  | ok networks =>
      have hsnd : ((do
          ensureAttribute (Memory.client url)
          networks.entries.forM fun entry => validateLabel (Memory.client url) entry.1 entry.2
          return networks : SetupM Memory (Table LabelNetwork)) g).2
            = (ensureAttribute (Memory.client url) g).2 := by
        refine Call.snd_bind_of_reads (fun _ => ?_) g
        refine Call.Reads.bind (Call.reads_forM (fun entry => ?_) _) fun _ => ?_
        · exact reads_validateLabel _ _
        · exact Call.reads_pure _
      exact (snd_ensureAttribute url g).imp hsnd.trans hsnd.trans

lemma orderly_marked (hg : g.Orderly) : (marked g).Orderly := by
  rw [Infoblox.marked]
  split_ifs
  · exact hg.insertAttribute _
  · exact hg

/-- **Every reachable grid is orderly.** -/
theorem Reachable.orderly (h : Reachable g) : g.Orderly := by
  induction h with
  | new => exact Memory.orderly_new
  | view name _ ih => exact ih.addView name
  | network view cidr _ ih => exact ih.of_same rfl rfl (Nat.le_succ _)
  | outage failure _ ih => exact ih.of_same rfl rfl (Nat.le_refl _)
  | next _ call ih =>
      obtain ⟨a, -, hfree, -, rfl⟩ := Memory.allocateNext_eq_ok call
      exact ih.insertFixed hfree _
  | fixed _ call ih =>
      obtain ⟨hfree, rfl⟩ := Memory.createFixed_eq_ok call
      exact ih.insertFixed hfree _
  | record host a _ ih => exact ih.insertRecord host a
  | @delete g _ key _ call ih =>
      have hdelete := ih.tidy.delete_eq (Memory.keeps_of_delete call)
      obtain rfl : g.without [key] = _ :=
        congrArg Prod.snd (Except.ok.inj (hdelete.symm.trans call))
      exact ih.without _
  | start url labels defaultView _ ih =>
      rcases snd_start url labels defaultView _ with hsame | hmarked
      · exact hsame ▸ ih
      · exact hmarked ▸ orderly_marked ih
  | process url sites op _ ih => exact (process_effect url sites ih.tidy op).orderly ih

lemma Reachable.processAll (hg : Reachable g) (url : String) (sites : Table LabelNetwork)
    (ops : List Operation) :
    Reachable (processAll (backend (Memory.client url) sites) ops g).2 := by
  induction ops generalizing g with
  | nil => exact hg
  | cons op ops ih =>
      rw [Coordinator.processAll_cons]
      exact ih (hg.process url sites op)

/-! ## Look-ups before and after -/

lemma boundAddress_congr (hfailure : g'.failure = g.failure)
    (hselect : g'.selectFixed
        [("name", reference), ("network_view", net.view), ("network", net.cidr)]
      = g.selectFixed [("name", reference), ("network_view", net.view), ("network", net.cidr)]) :
    (boundAddress (Memory.client url) reference net g').1
      = (boundAddress (Memory.client url) reference net g).1 := by
  cases hmessage : g.failure with
  | none =>
      simp only [boundAddress, Call.bind_apply, onGrid_fixedAddresses hmessage,
        onGrid_fixedAddresses (hfailure.trans hmessage), hselect]
      cases g.selectFixed [("name", reference), ("network_view", net.view),
        ("network", net.cidr)] with
      | nil => rfl
      | cons first rest =>
          simp only [Call.bind_apply, addressOf]
          cases Address.parse? first.address <;> rfl
  | some message =>
      simp [boundAddress, Call.bind_apply, onGrid, Memory.client, Memory.view, Memory.call,
        ExceptT.run, hmessage, hfailure]

lemma lookup_congr (h : ∀ net reference, Names sites q net reference →
      (boundAddress (Memory.client url) reference net g').1
        = (boundAddress (Memory.client url) reference net g).1) :
    ((backend (Memory.client url) sites).lookup q g').1
      = ((backend (Memory.client url) sites).lookup q g).1 := by
  change ((do
      let reference ← Backend.requireReference q
      let net ← networkOf sites q
      boundAddress (Memory.client url) reference net : AllocationM Memory _) g').1 = ((do
      let reference ← Backend.requireReference q
      let net ← networkOf sites q
      boundAddress (Memory.client url) reference net : AllocationM Memory _) g).1
  simp only [Call.bind_apply, requireReference_apply]
  cases hreference : q.reference? with
  | none => rfl
  | some reference =>
      simp only [networkOf_apply]
      split_ifs with hblank
      · rfl
      · cases hsite : sites.get? q.pool with
        | none => rfl
        | some net => exact h net reference ⟨hreference, Bool.eq_false_iff.2 hblank, hsite⟩

/-- **A look-up that an operation changes** is for the same reference, in a network of the same view
that has the address that the operation is about. -/
theorem Effect.names_of_lookup_ne (h : Effect url sites g op outcome g') (hg : g.Orderly)
    (hne : ((backend (Memory.client url) sites).lookup q g').1
      ≠ ((backend (Memory.client url) sites).lookup q g).1) :
    ∃ net net' reference a, Names sites op net reference ∧ Names sites q net' reference ∧
      net'.view = net.view ∧ net.Reaches a ∧ net'.Reaches a ∧
      handled? url sites g op outcome = some a := by
  by_contra hnot
  refine hne (lookup_congr fun net' reference' names' =>
    boundAddress_congr h.failure_eq (Memory.selectFixed_congr fun o ho => ?_))
  obtain ⟨net, reference, a, names, reaches, hhandled, hview, haddress, hname⟩ := h.differs hg ho
  -- A difference that the look-up sees is what the operation is about.
  by_contra hpasses
  simp only [List.mem_cons, List.not_mem_nil, or_false, exists_eq_or_imp, exists_eq_left,
    Memory.passesFixed, not_or, Bool.not_eq_false, decide_eq_true_eq] at hpasses
  obtain ⟨hname', hview', hhost⟩ := hpasses
  obtain rfl : reference = reference' := hname.symm.trans hname'
  exact hnot ⟨net, net', reference, a, names, names', hview'.symm.trans hview, reaches,
    .inr (haddress ▸ hhost), hhandled⟩

/-! ## Labels that stay apart -/

/-- What an operation leaves of the bindings and of the host records of a grid. -/
structure LeavesLabels (url : String) (sites : Table LabelNetwork) (op : Operation) (g : Memory)
    (outcome : Outcome) (g' : Memory) : Prop where
  /-- A look-up changes for the reference of the operation only, and only if the network of its
  label has, in the same view, the address that the operation is about. -/
  lookup : ∀ q, ((backend (Memory.client url) sites).lookup q g').1
      ≠ ((backend (Memory.client url) sites).lookup q g).1 →
    q.reference? = op.reference? ∧ ∃ net net' a, sites.get? op.pool = some net ∧
      sites.get? q.pool = some net' ∧ net'.view = net.view ∧ net.network.contains a = true ∧
      net'.network.contains a = true ∧ handled? url sites g op outcome = some a
  /-- A host record is deleted by a delete of its host name only, for the address that the delete
  finds. -/
  record : ∀ key r, g.records.get? key = some r → g'.records.get? key = some r ∨
    (op.kind = .delete ∧ op.host = some r.name ∧
      ∃ a, handled? url sites g op outcome = some a ∧ r.address = toString a)
  /-- The host record of a binding stays if its network has no address of the network of the
  operation, in whatever views they are. -/
  binding : ∀ q net net' a key r, sites.get? op.pool = some net → sites.get? q.pool = some net' →
    (∀ b, net.network.contains b = true → net'.network.contains b = false) →
    ((backend (Memory.client url) sites).lookup q g).1 = .ok (some a) →
    g.records.get? key = some r → q.host = some r.name → r.address = toString a →
    g'.records.get? key = some r

/-- The address that is found for a reference is one of the network of its label. -/
lemma Resolved.contains_of_lookup (h : Resolved sites) (hg : g.Orderly)
    (hsite : sites.get? q.pool = some net) {a : Address}
    (hlookup : ((backend (Memory.client url) sites).lookup q g).1 = .ok (some a)) :
    net.network.contains a = true := by
  by_cases hnames : ∃ net reference, Names sites q net reference
  · obtain ⟨net', reference, names⟩ := hnames
    cases hsite.symm.trans names.site
    rw [names.lookup_eq] at hlookup
    obtain ⟨-, -, -, -, -, -, hhost⟩ := exists_fixed_of_boundAddress hg.tidy hlookup
    exact h.contains hsite (.inr hhost)
  · obtain ⟨e, he⟩ := checks_of_not_names (fun net reference names => hnames ⟨net, reference, names⟩)
      (fun reference net => boundAddress (Memory.client url) reference net) g
    change (backend (Memory.client url) sites).lookup q g = _ at he
    rw [he] at hlookup
    cases hlookup

lemma Effect.leavesLabels (h : Effect url sites g op outcome g') (hresolved : Resolved sites)
    (hg : g.Orderly) : LeavesLabels url sites op g outcome g' where
  lookup := by
    intro q hne
    obtain ⟨net, net', reference, a, names, names', hview, reaches, reaches', hhandled⟩ :=
      h.names_of_lookup_ne hg hne
    exact ⟨names'.reference.trans names.reference.symm, net, net', a, names.site, names'.site, hview,
      hresolved.contains names.site reaches, hresolved.contains names'.site reaches', hhandled⟩
  record := fun key r hr => h.get?_records hg hr
  binding := by
    intro q net net' a key r hsite hsite' hdisjoint hlookup hr hhost haddress
    rcases h.get?_records hg hr with hstays | ⟨hkind, -, b, hhandled, haddress'⟩
    · exact hstays
    · -- A delete that found the same address would share it with the binding.
      obtain rfl : a = b := Address.toString_injective (haddress.symm.trans haddress')
      have hfound : ((backend (Memory.client url) sites).lookup op g).1 = .ok (some a) := by
        simp only [handled?, hkind] at hhandled
        split at hhandled <;> simp_all
      have hcontains := hresolved.contains_of_lookup hg hsite hfound
      have hcontains' := hresolved.contains_of_lookup hg hsite' hlookup
      rw [hdisjoint a hcontains] at hcontains'
      cases hcontains'

/-- **Labels stay apart.**  Whatever label map a start accepts, in every reachable grid, an operation
on one label changes a look-up of another label for its own reference only, and only for networks of
one view that share the address that it is about.  It deletes no host record but that of its own
host name and address, so none that belongs to a binding of a network without common addresses. -/
theorem labels_stay_apart {labels defaultView : String} {g₀ g₁ : Memory}
    (hstart : start (Memory.client url) labels defaultView g₀ = (.ok sites, g₁))
    (hg : Reachable g) (op : Operation) :
    LeavesLabels url sites op g (process (backend (Memory.client url) sites) op g).1
      (process (backend (Memory.client url) sites) op g).2 :=
  (process_effect url sites hg.orderly.tidy op).leavesLabels (resolved_of_start hstart) hg.orderly

/-! ## Three labels -/

/-- A label map with one network in two views, and a larger network around it in one of them. -/
def branchLabels : String :=
  "\x7b\"far\": \x7b\"netView\": \"branch\", \"cidr\": \"10.0.0.0/30\"\x7d, " ++
  "\"lan\": \x7b\"cidr\": \"10.0.0.0/30\"\x7d, " ++
  "\"wan\": \x7b\"cidr\": \"10.0.0.0/29\"\x7d\x7d"

/-- The networks of these labels. -/
def branchSites : Table LabelNetwork :=
  ((Table.empty.insert "far" ⟨"branch", "10.0.0.0/30", ⟨.ofNat 0x0A000000, ⟨30, by decide⟩⟩⟩).insert
    "lan" ⟨"default", "10.0.0.0/30", ⟨.ofNat 0x0A000000, ⟨30, by decide⟩⟩⟩).insert
    "wan" ⟨"default", "10.0.0.0/29", ⟨.ofNat 0x0A000000, ⟨29, by decide⟩⟩⟩

/-- The grid with these networks. -/
def branchGrid : Memory :=
  ((((({} : Memory).addView "default").addView "branch").addNetwork
    "branch" "10.0.0.0/30").addNetwork
    "default" "10.0.0.0/30").addNetwork "default" "10.0.0.0/29"

lemma resolve_branchLabels : resolve branchLabels "default" = .ok branchSites := by
  have hentries : (resolve branchLabels "default").toOption.map (·.entries)
      = some branchSites.entries := by
    decide +kernel
  cases hresolve : resolve branchLabels "default" with
  | error cause =>
      rw [hresolve] at hentries
      cases hentries
  | ok sites =>
      rw [hresolve] at hentries
      exact congrArg Except.ok (Table.ext (Option.some.inj hentries))

lemma start_branchGrid :
    start (Memory.client "https://grid") branchLabels "default" branchGrid
      = (.ok branchSites, marked branchGrid) := by
  have hfound : ∀ entry ∈ branchSites.entries, entry.2.view ∈ branchGrid.views ∧
      ∃ o ∈ branchGrid.networks, o.view = entry.2.view ∧ o.network = entry.2.cidr := by
    decide +kernel
  exact start_of_resolve _ resolve_branchLabels rfl fun label net hsite =>
    hfound (label, net) (Table.mem_entries_iff.2 hsite)

lemma reachable_branchGrid : Reachable (marked branchGrid) := by
  have hgrid : Reachable branchGrid :=
    .network _ _ (.network _ _ (.network _ _ (.view _ (.view _ .new))))
  have hstart := hgrid.start "https://grid" branchLabels "default"
  rwa [start_branchGrid] at hstart

/-- The binding of one host to a label. -/
abbrev onLabel (label : String) : Operation :=
  .create ⟨"web", "prod"⟩ (some "www") none label

/-- The backend over these networks. -/
abbrev branchBackend : Backend Memory :=
  backend (Memory.client "https://grid") branchSites

/-- The grid after some operations. -/
abbrev branchRun (ops : List Operation) : Memory :=
  (processAll branchBackend ops (marked branchGrid)).2

/-- A host that was bound to a label in one view is not bound to the label of the same network in
the other view. -/
theorem labels_stay_apart_of_views :
    start (Memory.client "https://grid") branchLabels "default" branchGrid
        = (.ok branchSites, marked branchGrid) ∧
      Reachable (marked branchGrid) ∧
      (branchBackend.lookup (onLabel "far")
          (process branchBackend (onLabel "lan") (marked branchGrid)).2).1
        = (branchBackend.lookup (onLabel "far") (marked branchGrid)).1 := by
  refine ⟨start_branchGrid, reachable_branchGrid, ?_⟩
  have hleaves := labels_stay_apart start_branchGrid reachable_branchGrid (onLabel "lan")
  by_contra hne
  obtain ⟨-, net, net', -, hlan, hfar, hview, -⟩ := hleaves.lookup _ hne
  cases hlan
  cases hfar
  exact absurd hview (by decide)

/-- **Labels do meet.**  A host that is bound to a label has its address under the label of the
network around it, too, where it had none; and a delete under one label deletes the host record of
a binding in another view, which stays. -/
theorem labels_meet :
    start (Memory.client "https://grid") branchLabels "default" branchGrid
        = (.ok branchSites, marked branchGrid) ∧
      Reachable (branchRun []) ∧ Reachable (branchRun [onLabel "lan", onLabel "far"]) ∧
      (branchBackend.lookup (onLabel "wan") (branchRun [])).1 = .ok none ∧
      (branchBackend.lookup (onLabel "wan") (branchRun [onLabel "lan"])).1
        = .ok (some (.ofNat 0x0A000001)) ∧
      (branchBackend.lookup (onLabel "far") (branchRun [onLabel "lan", onLabel "far"])).1
        = .ok (some (.ofNat 0x0A000001)) ∧
      (branchRun [onLabel "lan", onLabel "far"]).records.entries.map
          (fun entry => (entry.2.name, entry.2.address)) = [("www", "10.0.0.1")] ∧
      (branchBackend.lookup (onLabel "far") (branchRun [onLabel "lan", onLabel "far",
          .delete ⟨"web", "prod"⟩ (some "www") none "lan"])).1
        = .ok (some (.ofNat 0x0A000001)) ∧
      (branchRun [onLabel "lan", onLabel "far",
          .delete ⟨"web", "prod"⟩ (some "www") none "lan"]).records.entries.isEmpty = true := by
  refine ⟨start_branchGrid, reachable_branchGrid, reachable_branchGrid.processAll _ _ _, ?_, ?_, ?_,
    ?_, ?_, ?_⟩ <;> decide +kernel

end Ipam.Infoblox
