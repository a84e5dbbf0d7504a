import Ipam.Proofs.Allocation.Equivalence

/-!
# One deployment over either backend

A label map and a pool configuration describe the same deployment if every label stands for a
network of the grid and for a pool of its hosts.

* `Infoblox.Deployment` — the description, over a grid that has just these networks and is otherwise
  empty.
* `Infoblox.Deployment.start_store`, `Infoblox.Deployment.start_grid` — a controller starts over a
  new store as well as over the grid.
* `Infoblox.Deployment.mirrors` — and then both mirror each other.
* **`Infoblox.Deployment.runs_agree`** — from there on every list of operations has the same
  outcomes on both, and ends with the same bindings and the same DNS records.
-/

namespace Ipam

open Pool (TokenSource)
open Text (nonEmpty)

/-- A label map that is read has a label. -/
lemma Grid.isEmpty_of_parseLabels {labels : String} {configs : Table Grid.LabelConfig}
    (h : Grid.parseLabels labels = .ok configs) : configs.isEmpty = false := by
  unfold Grid.parseLabels at h
  split at h
  · cases h
  · split_ifs at h with hempty
    cases h
    exact Bool.eq_false_iff.2 hempty

namespace Infoblox

open Coordinator (processAll)
open Grid (Memory LabelConfig)

/-! ## The description -/

/-- The view that the network of a label is in. -/
def viewOf (defaultView : String) (config : LabelConfig) : String :=
  (nonEmpty config.view).getD defaultView

/-- The label networks of a label map, with the network that is meant by each text. -/
def sitesOf (defaultView : String) (configs : Table LabelConfig) (network : String → Network) :
    Table LabelNetwork :=
  configs.map fun label config => ⟨viewOf defaultView config, config.cidr, network label⟩

/-- A deployment: a label map with networks of a grid, a pool configuration with the range of hosts
of each, and the grid that has these networks and no fixed addresses or host records yet. -/
structure Deployment (labels defaultView config : String) (g : Memory)
    (configs : Table LabelConfig) (ranges : Table String) (network : String → Network) :
    Prop where
  parsedLabels : Grid.parseLabels labels = .ok configs
  parsedRanges : Pool.parseConfig config = .ok ranges
  sameLabels : ∀ label, label ∈ ranges.names ↔ label ∈ configs.names
  cidr : ∀ label c, configs.get? label = some c → c.cidr = toString (network label)
  hostRange : ∀ label range, ranges.get? label = some range → (network label).IsHostRange range
  canonical : ∀ label ∈ configs.names, (network label).Canonical
  lengths : ∀ label ∈ configs.names,
    16 ≤ (network label).length.val ∧ (network label).length.val ≤ 30
  disjoint : ∀ label ∈ configs.names, ∀ label' ∈ configs.names, ∀ a,
    (network label).contains a = true → (network label').contains a = true → label = label'
  views : ∀ label c, configs.get? label = some c → viewOf defaultView c ∈ g.views
  networks : ∀ view cidr, (∃ o ∈ g.networks, o.view = view ∧ o.network = cidr) ↔
    ∃ label c, configs.get? label = some c ∧ viewOf defaultView c = view ∧ c.cidr = cidr
  fixed : g.fixed = .empty
  records : g.records = .empty
  failure : g.failure = none

variable {labels defaultView config : String} {tokens : TokenSource} {g : Memory}
  {configs : Table LabelConfig} {ranges : Table String} {network : String → Network}

lemma get?_sitesOf (label : String) :
    (sitesOf defaultView configs network).get? label = (configs.get? label).map
      fun c => ⟨viewOf defaultView c, c.cidr, network label⟩ :=
  Table.get?_map _ _ _

/-- What a label stands for is in the label map. -/
lemma exists_config {label : String} {net : LabelNetwork}
    (h : (sitesOf defaultView configs network).get? label = some net) :
    ∃ c, configs.get? label = some c ∧ label ∈ configs.names ∧
      net = ⟨viewOf defaultView c, c.cidr, network label⟩ := by
  rw [get?_sitesOf, Option.map_eq_some_iff] at h
  obtain ⟨c, hc, rfl⟩ := h
  exact ⟨c, hc, Table.mem_names_iff.2 ⟨c, hc⟩, rfl⟩

namespace Deployment

lemma proper (h : Deployment labels defaultView config g configs ranges network) :
    Proper (sitesOf defaultView configs network) where
  network := by
    intro label net hsite
    obtain ⟨c, hc, hlabel, rfl⟩ := exists_config hsite
    exact ⟨h.cidr label c hc, h.canonical label hlabel, (h.lengths label hlabel).2⟩
  disjoint := by
    intro label net label' net' a hsite hsite' ha ha'
    obtain ⟨c, -, hlabel, rfl⟩ := exists_config hsite
    obtain ⟨c', -, hlabel', rfl⟩ := exists_config hsite'
    exact h.disjoint label hlabel label' hlabel' a ha ha'

/-! ## Starting over a new store -/

lemma expand (h : Deployment labels defaultView config g configs ranges network)
    {label range : String} (hrange : ranges.get? label = some range) :
    Range.expand range = .ok (network label).hosts := by
  have hlabel := (h.sameLabels label).1 (Table.mem_names_iff.2 ⟨range, hrange⟩)
  obtain ⟨hlo, hhi⟩ := h.lengths label hlabel
  exact Network.expand_hosts (h.hostRange label range hrange) hlo hhi

/-- The pool configuration has a label, as the label map has. -/
lemma isEmpty_ranges (h : Deployment labels defaultView config g configs ranges network) :
    ranges.isEmpty = false := by
  have hconfigs : configs.isEmpty = false := Grid.isEmpty_of_parseLabels h.parsedLabels
  have hentries : configs.entries ≠ [] := by
    simpa [Table.isEmpty] using hconfigs
  obtain ⟨⟨label, c⟩, hentry⟩ := List.exists_mem_of_ne_nil _ hentries
  have hlabel := (h.sameLabels label).2 (Table.mem_names_iff.2 ⟨c, Table.mem_entries_iff.1 hentry⟩)
  rw [Table.names] at hlabel
  obtain ⟨entry, hmem, -⟩ := List.mem_map.1 hlabel
  simpa [Table.isEmpty] using List.ne_nil_of_mem hmem

lemma start_store (h : Deployment labels defaultView config g configs ranges network)
    (hinj : Function.Injective tokens) :
    ∃ report s, Local.start tokens config ∅ = .ok (report, s) := by
  have hsync : ∃ report s, Store.sync tokens ∅ ranges = .ok (report, s) :=
    Store.exists_sync hinj fun label range => h.expand
  obtain ⟨report, s, hsync⟩ := hsync
  exact ⟨report, s, Local.start_of_parseConfig h.parsedRanges h.isEmpty_ranges hsync⟩

end Deployment

/-! ## Starting over the grid -/

/-- The grid with the attribute of the controller. -/
def marked (g : Memory) : Memory :=
  if (g.attributes.get? attributeName).isNone then
    (g.insertAttribute
      ⟨none, attributeName, "STRING", some "Managed by the IPAM controller"⟩).2
  else g

/-- It differs in its attributes and in the number of the next object only. -/
lemma marked_eq (g : Memory) : ∃ attributes nextNumber,
    marked g = { g with attributes := attributes, nextNumber := nextNumber } := by
  rw [marked]
  split_ifs
  · exact ⟨_, _, rfl⟩
  · exact ⟨_, _, rfl⟩

lemma ask_apply {α : Type} (f : Memory → Except Grid.GridError (α × Memory))
    (hg : g.failure = none) :
    ask (Memory.call f) g = match f g with
      | .ok (value, g) => (.ok value, g)
      | .error e => (.error (.grid e), g) := by
  simp only [ask, Memory.call, ExceptT.run, hg]
  cases f g <;> rfl

lemma ensureAttribute_apply (url : String) (hg : g.failure = none) :
    ensureAttribute (Memory.client url) g = (.ok (), marked g) := by
  have hfound : ask ((Memory.client url).attribute? attributeName) g
      = (.ok (g.attributes.get? attributeName), g) :=
    ask_apply (fun g => .ok (g.attributes.get? attributeName, g)) hg
  have hcreate : ∀ definition, ask ((Memory.client url).createAttribute definition) g
      = (.ok (g.insertAttribute definition).1, (g.insertAttribute definition).2) :=
    fun definition => ask_apply (fun g => .ok (g.insertAttribute definition)) hg
  rw [ensureAttribute, Call.bind_apply, hfound, marked]
  simp only
  split_ifs
  · rw [Call.bind_apply, hcreate]
    rfl
  · rfl

lemma ask_networkView? (url name : String) (hg : g.failure = none) :
    ask ((Memory.client url).networkView? name) g = (.ok (if name ∈ g.views then
      some ⟨s!"networkview/{name}", name, name = "default"⟩ else none), g) :=
  ask_apply (fun g => .ok ((if name ∈ g.views then
    some ⟨s!"networkview/{name}", name, name = "default"⟩ else none : Option Grid.NetworkView),
    g)) hg

lemma ask_network? (url view cidr : String) (hg : g.failure = none) :
    ask ((Memory.client url).network? view cidr) g = (.ok (g.findNetwork? view cidr), g) :=
  ask_apply (fun g => .ok (g.findNetwork? view cidr, g)) hg

/-- What the check of a label answers. -/
lemma validateLabel_eq (url label : String) (net : LabelNetwork) (hg : g.failure = none) :
    validateLabel (Memory.client url) label net g =
      if net.view ∉ g.views then (.error (.missingView label net.view), g)
      else if (g.findNetwork? net.view net.cidr).isNone then
        (.error (.missingNetwork label net.cidr net.view), g)
      else (.ok (), g) := by
  rw [validateLabel, Call.bind_apply, ask_networkView? url net.view hg]
  by_cases hview : net.view ∈ g.views
  · rw [if_neg (not_not_intro hview)]
    simp only [if_pos hview, Option.isNone_some, Bool.false_eq_true, if_false]
    rw [Call.bind_apply, ask_network? url net.view net.cidr hg]
    simp only
    split_ifs <;> rfl
  · rw [if_pos hview]
    simp only [if_neg hview, Option.isNone_none, if_true]
    rw [Call.bind_apply]
    rfl

/-- A label whose network is in the grid passes. -/
lemma validateLabel_apply (url label : String) {net : LabelNetwork} (hg : g.failure = none)
    (hview : net.view ∈ g.views)
    (hnetwork : ∃ o ∈ g.networks, o.view = net.view ∧ o.network = net.cidr) :
    validateLabel (Memory.client url) label net g = (.ok (), g) := by
  obtain ⟨o, ho, hsame, hcidr⟩ := hnetwork
  have hfound : (g.findNetwork? net.view net.cidr).isSome = true := by
    rw [Memory.findNetwork?, List.find?_isSome]
    exact ⟨o, ho, by simp [hsame, hcidr]⟩
  rw [validateLabel_eq url label net hg, if_neg (not_not_intro hview), if_neg]
  simpa [Option.isNone_iff_eq_none] using Option.isSome_iff_ne_none.1 hfound

/-- A label map with a network under every label is read as the networks of its labels. -/
lemma resolve_of_parse (hparsed : Grid.parseLabels labels = .ok configs)
    (hnetwork : ∀ label c, configs.get? label = some c →
      Network.parse? c.cidr = some (network label)) :
    resolve labels defaultView = .ok (sitesOf defaultView configs network) := by
  have hentries : (configs.entries.mapM fun entry => do
      return (entry.1, ← resolveLabel defaultView entry.1 entry.2) :
        Except SetupError (List (String × LabelNetwork)))
      = .ok (sitesOf defaultView configs network).entries := by
    refine Table.mapM_entries configs fun label c hc => ?_
    rw [resolveLabel, hnetwork label c hc]
    rfl
  unfold resolve
  simp only [hparsed]
  change ((configs.entries.mapM fun entry => do
      return (entry.1, ← resolveLabel defaultView entry.1 entry.2) :
        Except SetupError (List (String × LabelNetwork))) >>= fun entries =>
      pure (Table.ofList entries)) = _
  rw [hentries]
  exact congrArg Except.ok (Table.ofList_entries _)

/-- A grid that is out of order tells so when it is asked for the attribute. -/
lemma ensureAttribute_of_outage {message : String} (url : String) (hg : g.failure = some message) :
    ensureAttribute (Memory.client url) g = (.error (.grid (.outage message)), g) := by
  have hask : ask ((Memory.client url).attribute? attributeName) g
      = (.error (.grid (.outage message)), g) := by
    simp [ask, Memory.client, Memory.view, Memory.call, ExceptT.run, hg]
  rw [ensureAttribute, Call.bind_apply, hask]

/-- A label map that is read makes sure of the attribute, and then checks the labels. -/
lemma start_of_resolve_eq_ok {σ : Type} {sites : Table LabelNetwork} (client : Grid.Client σ)
    (hresolve : resolve labels defaultView = .ok sites) (s : σ) :
    start client labels defaultView s = (do
      ensureAttribute client
      sites.entries.forM fun entry => validateLabel client entry.1 entry.2
      return sites : SetupM σ (Table LabelNetwork)) s := by
  have hread : (ExceptT.mk (pure (resolve labels defaultView)) :
      SetupM σ (Table LabelNetwork)) s = (.ok sites, s) := by
    rw [hresolve]
    rfl
  rw [start, Call.bind_apply, hread]

/-- Over a grid that works it marks the grid. -/
lemma start_apply {sites : Table LabelNetwork} (url : String)
    (hresolve : resolve labels defaultView = .ok sites) (hg : g.failure = none) :
    start (Memory.client url) labels defaultView g = (do
      sites.entries.forM fun entry => validateLabel (Memory.client url) entry.1 entry.2
      return sites : SetupM Memory (Table LabelNetwork)) (marked g) := by
  rw [start_of_resolve_eq_ok _ hresolve, Call.bind_apply, ensureAttribute_apply url hg]

/-- A grid with the networks of a label map is set up by its attribute alone. -/
lemma start_of_resolve {sites : Table LabelNetwork} (url : String)
    (hresolve : resolve labels defaultView = .ok sites) (hg : g.failure = none)
    (hsites : ∀ label net, sites.get? label = some net → net.view ∈ g.views ∧
      ∃ o ∈ g.networks, o.view = net.view ∧ o.network = net.cidr) :
    start (Memory.client url) labels defaultView g = (.ok sites, marked g) := by
  obtain ⟨attributes, nextNumber, hmarked⟩ := marked_eq g
  have hvalidate : (sites.entries.forM fun entry =>
      validateLabel (Memory.client url) entry.1 entry.2) (marked g) = (.ok (), marked g) := by
    refine Call.forM_apply fun entry hentry => ?_
    obtain ⟨hview, hnetwork⟩ := hsites _ _ (Table.mem_entries_iff.1 hentry)
    rw [hmarked]
    exact validateLabel_apply url entry.1 hg hview hnetwork
  rw [start_apply url hresolve hg, Call.bind_apply, hvalidate]
  rfl

namespace Deployment

lemma resolve_eq (h : Deployment labels defaultView config g configs ranges network) :
    resolve labels defaultView = .ok (sitesOf defaultView configs network) := by
  refine resolve_of_parse h.parsedLabels fun label c hc => ?_
  have hcanonical := h.canonical label (Table.mem_names_iff.2 ⟨c, hc⟩)
  rw [h.cidr label c hc, Network.parse?_toString hcanonical]

lemma start_grid (h : Deployment labels defaultView config g configs ranges network)
    (url : String) :
    start (Memory.client url) labels defaultView g
      = (.ok (sitesOf defaultView configs network), marked g) := by
  refine start_of_resolve url h.resolve_eq h.failure fun label net hsite => ?_
  obtain ⟨c, hc, -, rfl⟩ := exists_config hsite
  exact ⟨h.views _ _ hc, (h.networks _ _).2 ⟨_, c, hc, rfl, rfl⟩⟩

/-! ## The first store and the first grid -/

lemma marked_fixed (h : Deployment labels defaultView config g configs ranges network) :
    (marked g).fixed = .empty := by
  obtain ⟨attributes, nextNumber, hmarked⟩ := marked_eq g
  rw [hmarked]
  exact h.fixed

lemma marked_records (h : Deployment labels defaultView config g configs ranges network) :
    (marked g).records = .empty := by
  obtain ⟨attributes, nextNumber, hmarked⟩ := marked_eq g
  rw [hmarked]
  exact h.records

lemma serves (h : Deployment labels defaultView config g configs ranges network) :
    Serves (sitesOf defaultView configs network) (marked g) where
  tidy := by
    constructor
    · intro key o ho
      simp [h.marked_fixed] at ho
    · intro key o ho
      simp [h.marked_records] at ho
  failure := by
    obtain ⟨attributes, nextNumber, hmarked⟩ := marked_eq g
    rw [hmarked]
    exact h.failure
  found := by
    intro label net hsite
    obtain ⟨c, hc, -, rfl⟩ := exists_config hsite
    obtain ⟨attributes, nextNumber, hmarked⟩ := marked_eq g
    rw [hmarked]
    exact (h.networks _ _).2 ⟨label, c, hc, rfl, rfl⟩
  known := by
    intro o ho
    obtain ⟨attributes, nextNumber, hmarked⟩ := marked_eq g
    rw [hmarked] at ho
    obtain ⟨label, c, hc, hview, hcidr⟩ := (h.networks o.view o.network).1 ⟨o, ho, rfl, rfl⟩
    refine ⟨label, ⟨viewOf defaultView c, c.cidr, network label⟩, ?_, hview.symm, hcidr.symm⟩
    rw [get?_sitesOf, hc]
    rfl
  reserved := by
    rintro view a name ⟨key, o, ho, -⟩
    simp [h.marked_fixed] at ho

variable {report : SyncReport} {s : Store}

/-- The pools of a store that was just started are new. -/
lemma synced (h : Deployment labels defaultView config g configs ranges network)
    (hstart : Local.start tokens config ∅ = .ok (report, s)) :
    Store.Synced tokens ∅ ranges s := by
  obtain ⟨desired, hdesired, hsync⟩ := Local.start_eq_ok hstart
  rw [h.parsedRanges] at hdesired
  cases hdesired
  exact Store.synced_of_sync hsync

/-- **A store and a grid that were just started mirror each other.** -/
theorem mirrors (h : Deployment labels defaultView config g configs ranges network)
    (hstart : Local.start tokens config ∅ = .ok (report, s)) :
    Mirrors tokens (sitesOf defaultView configs network) s (marked g) where
  sound := Local.sound_of_start hstart
  serves := h.serves
  pools := by
    intro label
    have hpools := (h.synced hstart).get?_eq_none_iff label
    have hlabels := h.sameLabels label
    rw [Table.mem_names_iff, Table.mem_names_iff] at hlabels
    rw [get?_sitesOf]
    simp only [← Option.isSome_iff_exists, Option.isSome_map] at hlabels ⊢
    rw [← hlabels, ← not_iff_not, Option.not_isSome_iff_eq_none, hpools,
      Option.not_isSome_iff_eq_none]
  hosts := by
    intro label net hsite
    obtain ⟨c, -, hlabel, rfl⟩ := exists_config hsite
    obtain ⟨range, hrange⟩ := Table.mem_names_iff.1 ((h.sameLabels label).2 hlabel)
    have hnone : (∅ : Store).ranges.get? label ≠ some range := by
      rw [Store.get?_ranges, Store.pools_empty]
      simp
    obtain ⟨p, hp, hnew⟩ := (h.synced hstart).renewed label range hrange hnone
    have hcovers := hnew.valid.covers
    rw [hnew.range, h.expand hrange] at hcovers
    rw [Store.rows_eq hp]
    exact (Except.ok.inj hcovers).symm
  bindings := by
    intro label net reference hsite a
    constructor
    · intro hold
      exact absurd ⟨a, hold⟩ (Local.not_binds_of_start hstart label reference)
    · rintro ⟨-, key, o, ho, -⟩
      simp [h.marked_fixed] at ho
  records := by
    have hdns : s.dns = [] := (h.synced hstart).dns
    constructor
    · intro host a
      constructor
      · rintro ⟨key, o, ho, -⟩
        simp [h.marked_records] at ho
      · rintro ⟨label, hrecord⟩
        rw [hdns] at hrecord
        cases hrecord
    · intro record hrecord
      rw [hdns] at hrecord
      cases hrecord

end Deployment

/-! ## Runs -/

/-- A store and a grid with the same bindings and the same DNS records. -/
structure Agree (sites : Table LabelNetwork) (s : Store) (g : Memory) : Prop where
  /-- A row is bound exactly if the grid has a fixed address with its text and its owner in the
  network of the label. -/
  bindings : ∀ label reference a, ⟨a, .bound reference⟩ ∈ s.rows label ↔
    ∃ net key o, sites.get? label = some net ∧ net.network.isHost a = true ∧
      g.fixed.get? key = some o ∧ o.view = net.view ∧ o.address = toString a ∧ o.name = reference
  /-- The grid has no other fixed addresses. -/
  reservations : ∀ key o, g.fixed.get? key = some o → ∃ label net a,
    sites.get? label = some net ∧ net.network.isHost a = true ∧
      o.view = net.view ∧ o.address = toString a
  records : ∀ host text,
    (∃ record ∈ s.dns, record.host = host ∧ toString record.address = text) ↔
      ∃ key r, g.records.get? key = some r ∧ r.name = host ∧ r.address = text

lemma Mirrors.agree {sites : Table LabelNetwork} {s : Store} (h : Mirrors tokens sites s g) :
    Agree sites s g where
  bindings := by
    intro label reference a
    constructor
    · intro hrow
      have hlookup := (Store.lookup_eq_some_iff h.sound.valid).2 hrow
      obtain ⟨net, hsite⟩ : ∃ net, sites.get? label = some net := by
        rw [← h.pools label, ← Option.isSome_iff_exists, Option.isSome_iff_ne_none]
        intro hnone
        rw [Store.lookup_of_no_pool hnone] at hlookup
        cases hlookup
      obtain ⟨hhost, key, o, ho, hview, haddress, hname⟩ :=
        (h.bindings label net reference hsite a).1 hlookup
      exact ⟨net, key, o, hsite, hhost, ho, hview, haddress, hname⟩
    · rintro ⟨net, key, o, hsite, hhost, ho, hview, haddress, hname⟩
      rw [← Store.lookup_eq_some_iff h.sound.valid, h.bindings label net reference hsite a]
      exact ⟨hhost, key, o, ho, hview, haddress, hname⟩
  reservations := by
    intro key o ho
    obtain ⟨-, -, a, haddress⟩ := h.serves.tidy.fixed key o ho
    obtain ⟨label, net, hsite, hview, hhost⟩ :=
      h.serves.reserved o.view a o.name ⟨key, o, ho, rfl, haddress, rfl⟩
    exact ⟨label, net, a, hsite, hhost, hview.symm, haddress⟩
  records := by
    intro host text
    constructor
    · rintro ⟨record, hrecord, rfl, rfl⟩
      exact (h.records.published _ _).2 ⟨record.pool, hrecord⟩
    · rintro ⟨key, r, hr, rfl, rfl⟩
      obtain ⟨-, -, a, haddress⟩ := h.serves.tidy.records key r hr
      obtain ⟨label, hrecord⟩ := (h.records.published r.name a).1 ⟨key, r, hr, rfl, haddress⟩
      exact ⟨_, hrecord, rfl, haddress.symm⟩

/-- **Either backend serves a deployment in the same way.**  A controller starts over a new store
as well as over the grid; every list of operations then has the same outcomes, and leaves the same
bindings and the same DNS records. -/
theorem Deployment.runs_agree (url : String)
    (h : Deployment labels defaultView config g configs ranges network)
    (hinj : Function.Injective tokens) :
    ∃ report s sites g', sites = sitesOf defaultView configs network ∧
      Local.start tokens config ∅ = .ok (report, s) ∧
      start (Memory.client url) labels defaultView g = (.ok sites, g') ∧
      ∀ ops : List Operation, (∀ op ∈ ops, op.Avoids tokens) →
        (processAll (backend (Memory.client url) sites) ops g').1
            = (processAll (Local.backend tokens) ops s).1 ∧
          Agree sites (processAll (Local.backend tokens) ops s).2
            (processAll (backend (Memory.client url) sites) ops g').2 := by
  obtain ⟨report, s, hstart⟩ := h.start_store hinj
  refine ⟨report, s, _, marked g, rfl, hstart, h.start_grid url, ?_⟩
  intro ops hops
  have hrun := (h.mirrors hstart).processAll_eq url h.proper hinj hops
  exact ⟨hrun.1, hrun.2.agree⟩

/-! ## A deployment -/

/-- A label map with one network of two hosts. -/
def pairLabels : String :=
  "\x7b\"lan\": \x7b\"cidr\": \"10.0.0.0/30\"\x7d\x7d"

/-- The grid with this network. -/
def pairGrid : Memory :=
  (({} : Memory).addView "default").addNetwork "default" "10.0.0.0/30"

lemma parseLabels_pairLabels :
    Grid.parseLabels pairLabels = .ok (Table.empty.insert "lan" ⟨none, "10.0.0.0/30"⟩) := by
  have hparse : (Json.parse? (String.ofList (Text.unquote (Text.trim pairLabels.toList)))
      >>= Json.asTable? LabelConfig.ofJson?).map (·.entries)
      = some [("lan", ⟨none, "10.0.0.0/30"⟩)] := by
    decide +kernel
  obtain ⟨configs, hconfigs, hentries⟩ := Option.map_eq_some_iff.1 hparse
  have heq : configs = Table.empty.insert "lan" ⟨none, "10.0.0.0/30"⟩ := Table.ext hentries
  unfold Grid.parseLabels
  rw [hconfigs, heq]
  rfl

lemma deployment_pairGrid :
    Deployment pairLabels "default" Pool.pairConfig pairGrid
      (Table.empty.insert "lan" ⟨none, "10.0.0.0/30"⟩)
      (Table.empty.insert "lan" "10.0.0.1-10.0.0.2")
      fun _ => ⟨.ofNat 0x0A000000, 30⟩ where
  parsedLabels := parseLabels_pairLabels
  parsedRanges := Pool.parseConfig_pairConfig
  sameLabels _ := Iff.rfl
  cidr := by
    intro label c hc
    obtain ⟨-, rfl⟩ := Table.get?_single_iff.1 hc
    decide +kernel
  hostRange := by
    intro label range hrange
    obtain ⟨-, rfl⟩ := Table.get?_single_iff.1 hrange
    exact ⟨none, by decide +kernel⟩
  canonical _ _ := by
    rw [Network.Canonical]
    decide
  lengths _ _ := by decide
  disjoint := by
    intro label hlabel label' hlabel' _ _ _
    simp only [Table.mem_names_iff, Table.get?_single_iff] at hlabel hlabel'
    obtain ⟨-, rfl, -⟩ := hlabel
    obtain ⟨-, rfl, -⟩ := hlabel'
    rfl
  views := by
    intro label c hc
    obtain ⟨-, rfl⟩ := Table.get?_single_iff.1 hc
    decide
  networks := by
    intro view cidr
    constructor
    · rintro ⟨o, ho, rfl, rfl⟩
      cases List.mem_singleton.1 ho
      exact ⟨"lan", _, rfl, rfl, rfl⟩
    · rintro ⟨label, c, hc, rfl, rfl⟩
      obtain ⟨-, rfl⟩ := Table.get?_single_iff.1 hc
      exact ⟨_, List.mem_singleton_self _, rfl, rfl⟩
  fixed := rfl
  records := rfl
  failure := rfl

/-- Two hosts, of which the second one asks for the address of the first. -/
def pairRun : List Operation :=
  [.create ⟨"web", "prod"⟩ (some "www") none "lan",
    .replay ⟨"web", "prod"⟩ (some "ftp") none "lan" "10.0.0.1"]

/-- The first host gets an address, and the second one is refused it. -/
def pairOutcomes : List Outcome :=
  [.success (.create ⟨"web", "prod"⟩ (some "www") none "lan") (some (.ofNat 0x0A000001)),
    .failure (.replay ⟨"web", "prod"⟩ (some "ftp") none "lan" "10.0.0.1")]

/-- Over either backend the outcomes are these, and at the end there is the one binding. -/
theorem processAll_pairRun :
    Deployment pairLabels "default" Pool.pairConfig pairGrid
        (Table.empty.insert "lan" ⟨none, "10.0.0.0/30"⟩)
        (Table.empty.insert "lan" "10.0.0.1-10.0.0.2") (fun _ => ⟨.ofNat 0x0A000000, 30⟩) ∧
      Function.Injective Pool.Token.dashes ∧
      (∀ op ∈ pairRun, op.Avoids Pool.Token.dashes) ∧
      ∃ report s sites g', Local.start Pool.Token.dashes Pool.pairConfig ∅ = .ok (report, s) ∧
        start (Memory.client "https://grid") pairLabels "default" pairGrid = (.ok sites, g') ∧
        (processAll (Local.backend Pool.Token.dashes) pairRun s).1 = pairOutcomes ∧
        (processAll (backend (Memory.client "https://grid") sites) pairRun g').1 = pairOutcomes ∧
        (processAll (Local.backend Pool.Token.dashes) pairRun s).2.lookup "lan" "www"
          = some (.ofNat 0x0A000001) ∧
        Agree sites (processAll (Local.backend Pool.Token.dashes) pairRun s).2
          (processAll (backend (Memory.client "https://grid") sites) pairRun g').2 := by
  have havoids : ∀ op ∈ pairRun, op.Avoids Pool.Token.dashes := by
    intro op hop reference hreference i
    simp only [pairRun, List.mem_cons, List.not_mem_nil, or_false] at hop
    rcases hop with rfl | rfl <;> cases hreference <;> exact Pool.Token.dashes_ne (by decide) i
  obtain ⟨report, s, sites, g', -, hstart, hstart', hruns⟩ :=
    Deployment.runs_agree "https://grid" deployment_pairGrid Pool.Token.dashes_injective
  obtain ⟨hsame, hagree⟩ := hruns pairRun havoids
  obtain ⟨-, rfl⟩ : _ ∧ Local.pairStore = s := by
    simpa using Local.start_pairConfig.symm.trans hstart
  have houtcomes : (processAll (Local.backend Pool.Token.dashes) pairRun Local.pairStore).1
      = pairOutcomes := by
    decide +kernel
  exact ⟨deployment_pairGrid, Pool.Token.dashes_injective, havoids, report, _, sites, g', hstart,
    hstart', houtcomes, hsame.trans houtcomes, rfl, hagree⟩

end Infoblox

end Ipam
