import Ipam.Proofs.Allocation.Batch
import Ipam.Proofs.Allocation.Infoblox

/-!
# Pools against a grid

A store whose pools are the hosts of some networks, and a grid with these networks, answer every
operation alike.

* `Infoblox.Mirrors` — the store and the grid have the same bindings and the same DNS records.
* `Infoblox.Mirrors.lowestFree?_eq` — both have the same next free address.
* **`Infoblox.Mirrors.process_eq`** — an operation is answered alike and leaves the two mirroring
  each other; `Infoblox.Mirrors.processAll_eq` is the same for a list of operations.
-/

namespace Ipam

open Pool (TokenSource)

namespace Infoblox

open Coordinator (process processAll published released)
open Grid (Memory)
open Local (Effect Sound)

/-- A store and a grid that have the same bindings in every network. -/
def SameBindings (sites : Table LabelNetwork) (s : Store) (g : Memory) : Prop :=
  ∀ label net reference, sites.get? label = some net →
    Owned g net reference (s.lookup label reference)

/-- A store and a grid that publish the same host names for the same addresses, and only for hosts
of the networks. -/
structure SameRecords (sites : Table LabelNetwork) (s : Store) (g : Memory) : Prop where
  published : ∀ host a, g.Published host a ↔ ∃ label, ⟨label, host, a⟩ ∈ s.dns
  hosts : ∀ record ∈ s.dns, ∃ net,
    sites.get? record.pool = some net ∧ net.network.isHost record.address = true

/-- A store and a grid that have the same bindings and the same DNS records. -/
structure Mirrors (tokens : TokenSource) (sites : Table LabelNetwork) (s : Store) (g : Memory) :
    Prop where
  sound : Sound tokens s
  serves : Serves sites g
  pools : ∀ label, (∃ p, s.pools.get? label = some p) ↔ ∃ net, sites.get? label = some net
  hosts : ∀ label net, sites.get? label = some net →
    (s.rows label).map (·.address) = net.network.hosts
  bindings : SameBindings sites s g
  records : SameRecords sites s g

variable {url : String} {tokens : TokenSource} {sites : Table LabelNetwork} {s s' : Store}
  {g g' : Memory} {op : Operation} {outcome : Outcome} {p : Pool} {net : LabelNetwork}
  {reference : String}

/-! ## The same operations, the same addresses -/

lemma Mirrors.exists_names (h : Mirrors tokens sites s g) (names : Local.Names s op p reference) :
    ∃ net, Names sites op net reference := by
  obtain ⟨net, hsite⟩ := (h.pools op.pool).1 ⟨p, names.pool⟩
  exact ⟨net, names.reference, names.labelled, hsite⟩

lemma Mirrors.exists_local_names (h : Mirrors tokens sites s g)
    (names : Names sites op net reference) : ∃ p, Local.Names s op p reference := by
  obtain ⟨p, hp⟩ := (h.pools op.pool).2 ⟨net, names.site⟩
  exact ⟨p, names.reference, names.labelled, hp⟩

/-- A row is bound exactly if the grid has its address reserved. -/
lemma Mirrors.bound_iff (h : Mirrors tokens sites s g) (hsite : sites.get? op.pool = some net)
    {a : Address} (hhost : net.network.isHost a = true) :
    ⟨a, .bound reference⟩ ∈ s.rows op.pool ↔ g.Reserved net.view a reference := by
  rw [← Store.lookup_eq_some_iff h.sound.valid, h.bindings op.pool net reference hsite a, hhost]
  simp

/-- A free address of the store is a host that the grid reserves for nobody. -/
lemma Mirrors.host_of_free (h : Mirrors tokens sites s g) (hsite : sites.get? op.pool = some net)
    {a : Address} {token : String} (hfree : ⟨a, .free token⟩ ∈ s.rows op.pool) :
    net.network.isHost a = true ∧ ∀ owner, ¬ g.Reserved net.view a owner := by
  have hhost : net.network.isHost a = true := by
    rw [← Network.mem_hosts_iff, ← h.hosts _ _ hsite]
    exact List.mem_map.2 ⟨_, hfree, rfl⟩
  refine ⟨hhost, ?_⟩
  intro owner hreserved
  have hbound := (h.bound_iff hsite hhost).2 hreserved
  cases h.sound.valid.eq_of_mem_rows hfree hbound (.inl rfl)

/-- A host of a network is free in the store or reserved in the grid. -/
lemma Mirrors.free_or_reserved (h : Mirrors tokens sites s g)
    (hsite : sites.get? op.pool = some net) {a : Address} (hhost : net.network.isHost a = true) :
    (∃ token, ⟨a, .free token⟩ ∈ s.rows op.pool) ∨ ∃ owner, g.Reserved net.view a owner := by
  have hmem := hhost
  rw [← Network.mem_hosts_iff, ← h.hosts _ _ hsite] at hmem
  obtain ⟨⟨b, token | owner⟩, hrow, rfl⟩ := List.mem_map.1 hmem
  · exact .inl ⟨token, hrow⟩
  · exact .inr ⟨owner, (h.bound_iff hsite hhost).1 hrow⟩

/-- **The next free address is the same.** -/
theorem Mirrors.lowestFree?_eq (h : Mirrors tokens sites s g) (hp : s.pools.get? op.pool = some p)
    (hsite : sites.get? op.pool = some net) :
    p.lowestFree? = net.network.hosts.find? fun a => !g.isTaken net.view (toString a) := by
  have hfree : ∀ row ∈ p.rows,
      (!g.isTaken net.view (toString row.address)) = row.holder.isFree := by
    rintro ⟨a, holder⟩ hrow
    rw [← Store.rows_eq hp] at hrow
    have hhost : net.network.isHost a = true := by
      rw [← Network.mem_hosts_iff, ← h.hosts op.pool net hsite]
      exact List.mem_map.2 ⟨_, hrow, rfl⟩
    cases holder with
    | bound owner =>
        have htaken := Memory.isTaken_iff.2 ⟨owner, (h.bound_iff hsite hhost).1 hrow⟩
        simp [htaken, Pool.Holder.isFree]
    | free token =>
        have htaken : g.isTaken net.view (toString a) = false := by
          rw [← Bool.not_eq_true, Memory.isTaken_iff]
          rintro ⟨owner, hreserved⟩
          exact (h.host_of_free hsite hrow).2 owner hreserved
        simp [htaken, Pool.Holder.isFree]
  rw [Pool.lowestFree?, ← h.hosts op.pool net hsite, Store.rows_eq hp, List.find?_map]
  exact congrArg (Option.map _) (List.find?_congr fun row hrow => (hfree row hrow).symm)

/-! ## Changes on both sides -/

/-- A host of the network of a label is a host of no other one. -/
lemma Proper.label_eq (hp : Proper sites) {label label' : String} {net' : LabelNetwork}
    {a : Address} (hsite : sites.get? label = some net) (hsite' : sites.get? label' = some net')
    (ha : net.network.isHost a = true) (ha' : net'.network.isHost a = true) :
    label' = label ∧ net' = net := by
  have hcontains := Network.contains_of_isHost ha
  have hcontains' := Network.contains_of_isHost ha'
  exact ⟨hp.disjoint _ _ _ _ a hsite' hsite hcontains' hcontains,
    hp.eq_of_contains hsite hsite' hcontains hcontains'⟩

/-- Both bind a host of a label to a reference. -/
lemma SameBindings.bind (h : SameBindings sites s g) (hp : Proper sites) {label : String}
    (reference : String) {a : Address} (hsite : sites.get? label = some net)
    (hhost : net.network.isHost a = true)
    (hs' : ∀ l r b, s'.lookup l r = some b ↔
      (l = label ∧ r = reference ∧ b = a) ∨ s.lookup l r = some b)
    (hg' : ∀ v b n, g'.Reserved v b n ↔
      g.Reserved v b n ∨ (v = net.view ∧ b = a ∧ n = reference)) :
    SameBindings sites s' g' := by
  intro l net' r hsite' b
  rw [hs', hg', h l net' r hsite' b]
  constructor
  · rintro (⟨rfl, rfl, rfl⟩ | ⟨hhost', hreserved⟩)
    · obtain rfl := Option.some.inj (hsite'.symm.trans hsite)
      exact ⟨hhost, .inr ⟨rfl, rfl, rfl⟩⟩
    · exact ⟨hhost', .inl hreserved⟩
  · rintro ⟨hhost', hreserved | ⟨-, rfl, rfl⟩⟩
    · exact .inr ⟨hhost', hreserved⟩
    · exact .inl ⟨(hp.label_eq hsite hsite' hhost hhost').1, rfl, rfl⟩

/-- Both free the host that a reference owns. -/
lemma SameBindings.free (h : SameBindings sites s g) (hp : Proper sites) (hs : s.Valid)
    {label : String} (reference : String) {a : Address} (hsite : sites.get? label = some net)
    (howned : s.lookup label reference = some a)
    (hs' : ∀ l r b, s'.lookup l r = some b ↔
      s.lookup l r = some b ∧ ¬ (l = label ∧ r = reference))
    (hg' : ∀ v b n, g'.Reserved v b n ↔ g.Reserved v b n ∧ ¬ (v = net.view ∧ b = a)) :
    SameBindings sites s' g' := by
  have hhost := ((h label net reference hsite a).1 howned).1
  intro l net' r hsite' b
  rw [hs', hg', h l net' r hsite' b, and_assoc]
  refine and_congr_right fun hhost' => and_congr_right fun hreserved => not_congr ?_
  constructor
  · rintro ⟨rfl, rfl⟩
    obtain rfl := Option.some.inj (hsite'.symm.trans hsite)
    have hb := (h l net' r hsite' b).2 ⟨hhost', hreserved⟩
    exact ⟨rfl, Option.some.inj (hb.symm.trans howned)⟩
  · rintro ⟨-, rfl⟩
    obtain ⟨rfl, rfl⟩ := hp.label_eq hsite hsite' hhost hhost'
    have hb := (h l net' r hsite' b).2 ⟨hhost', hreserved⟩
    have hrows := hs.eq_of_mem_rows ((Store.lookup_eq_some_iff hs).1 hb)
      ((Store.lookup_eq_some_iff hs).1 howned) (.inl rfl)
    cases hrows
    exact ⟨rfl, rfl⟩

/-- Both publish a host of the pool of an operation. -/
lemma SameRecords.publish (h : SameRecords sites s g) {a : Address}
    (hsite : sites.get? op.pool = some net) (hhost : net.network.isHost a = true)
    (hs' : ∀ record, record ∈ s'.dns ↔ record ∈ s.dns ∨
      (record.pool = op.pool ∧ op.host = some record.host ∧ record.address = a))
    (hg' : ∀ host b, g'.Published host b ↔ g.Published host b ∨ (op.host = some host ∧ b = a)) :
    SameRecords sites s' g' where
  published := by
    intro host b
    rw [hg', h.published]
    simp only [hs', exists_or]
    refine or_congr_right ?_
    constructor
    · rintro ⟨hown, rfl⟩
      exact ⟨op.pool, rfl, hown, rfl⟩
    · rintro ⟨label, -, hown, heq⟩
      exact ⟨hown, heq⟩
  hosts := by
    intro record hrecord
    rcases (hs' record).1 hrecord with hold | ⟨hpool, -, haddress⟩
    · exact h.hosts record hold
    · exact ⟨net, by rw [hpool, hsite], by rw [haddress, hhost]⟩

/-- Both withdraw a host of the pool of an operation. -/
lemma SameRecords.withdraw (h : SameRecords sites s g) (hp : Proper sites) {a : Address}
    (hsite : sites.get? op.pool = some net) (hhost : net.network.isHost a = true)
    (hs' : ∀ record, record ∈ s'.dns ↔ record ∈ s.dns ∧
      ¬ (record.pool = op.pool ∧ op.host = some record.host ∧ record.address = a))
    (hg' : ∀ host b, g'.Published host b ↔ g.Published host b ∧ ¬ (op.host = some host ∧ b = a)) :
    SameRecords sites s' g' where
  published := by
    intro host b
    rw [hg', h.published]
    simp only [hs']
    constructor
    · rintro ⟨⟨label, hold⟩, hnot⟩
      exact ⟨label, hold, fun hthis => hnot hthis.2⟩
    · rintro ⟨label, hold, hnot⟩
      refine ⟨⟨label, hold⟩, ?_⟩
      rintro ⟨hown, rfl⟩
      -- The record is one of the pool of the operation, as no other pool has the address.
      obtain ⟨net', hsite', hhost'⟩ := h.hosts _ hold
      exact hnot ⟨(hp.label_eq hsite hsite' hhost hhost').1, hown, rfl⟩
  hosts record hrecord := h.hosts record ((hs' record).1 hrecord).1

/-- What an operation leaves on both sides mirrors each other again, if the bindings and the records
do. -/
lemma Mirrors.next (h : Mirrors tokens sites s g) (heffect : Effect tokens s op outcome s')
    (hop : op.Avoids tokens) (hserves : Serves sites g') (hbindings : SameBindings sites s' g')
    (hrecords : SameRecords sites s' g') : Mirrors tokens sites s' g' where
  sound := heffect.sound h.sound hop
  serves := hserves
  pools := by
    intro label
    have hranges := heffect.ranges label
    rw [Store.get?_ranges, Store.get?_ranges] at hranges
    rw [← h.pools label, ← Option.isSome_iff_exists, ← Option.isSome_iff_exists,
      ← Option.isSome_map (f := Pool.range), hranges, Option.isSome_map]
  hosts label net hsite := (heffect.addresses label).trans (h.hosts label net hsite)
  bindings := hbindings
  records := hrecords

/-! ## One operation -/

/-- What the grid reserves for the reference of an operation is what the store binds to it. -/
lemma Mirrors.owned (h : Mirrors tokens sites s g) (names : Local.Names s op p reference)
    (hsite : sites.get? op.pool = some net) : Owned g net reference (p.owned? reference) :=
  names.lookup ▸ h.bindings op.pool net reference hsite

/-- A reference that owns nothing can be bound to every free address that is asked for. -/
lemma Mirrors.canBind (h : Mirrors tokens sites s g) (hop : op.Avoids tokens)
    (names : Local.Names s op p reference) (hnone : p.owned? reference = none) {a : Address}
    (hfree : ∃ token, ⟨a, .free token⟩ ∈ p.rows) (hasks : Local.Asks op p a) :
    Local.CanBind op p reference a where
  unowned := hnone
  free := hfree
  unique := h.sound.supplied.unique names.pool (hop reference names.reference) hnone a
  asked := hasks

/-- An operation that names no network or no reference fails, or deletes nothing. -/
lemma process_of_not_names (h : ∀ net reference, ¬ Names sites op net reference) (g : Memory) :
    process (backend (Memory.client url) sites) op g =
      match op.kind with
      | .create => (.failure op, g)
      | .delete => (.success op none, g) := by
  obtain ⟨e, hlookup⟩ := checks_of_not_names h
    (fun reference net => boundAddress (Memory.client url) reference net) g
  change (backend (Memory.client url) sites).lookup op g = _ at hlookup
  cases hkind : op.kind with
  | delete => rw [Coordinator.process_delete _ _ _ hkind, hlookup]
  | create =>
      cases hrecorded : op.recorded with
      | none => rw [Coordinator.process_plain _ _ _ hkind hrecorded, hlookup]
      | some text =>
          rw [Coordinator.process_recorded _ _ _ hkind hrecorded]
          cases Address.parse? text with
          | none => rfl
          | some a =>
              obtain ⟨e, hallocate⟩ : ∃ e, (backend (Memory.client url) sites).allocate op a g
                  = (.error e, g) := by
                show ∃ e, allocate (Memory.client url) sites op a g = _
                rw [allocate]
                exact checks_of_not_names h _ g
              simp only [hallocate]

/-- A plain create that the store refuses is refused by the grid. -/
lemma Mirrors.process_refused_plain (h : Mirrors tokens sites s g) (hp : Proper sites)
    (hop : op.Avoids tokens) (hkind : op.kind = .create) (hplain : op.recorded = none)
    (names : Names sites op net reference) (hlocal : Local.Names s op p reference)
    (hrefusal : ∀ a, ¬ Local.Confirms op p reference a ∧ ¬ Local.CanBind op p reference a) :
    process (backend (Memory.client url) sites) op g = (.failure op, g) := by
  have hnet := hp.network _ _ names.site
  rw [Coordinator.process_plain _ _ _ hkind hplain,
    names.lookup_apply h.serves hnet (h.owned hlocal names.site)]
  cases hold : p.owned? reference with
  | some a => exact absurd ⟨hold, by simp [hplain]⟩ (hrefusal a).1
  | none =>
      simp only [names.allocateNext_apply h.serves hnet, ← h.lowestFree?_eq hlocal.pool names.site]
      cases hlowest : p.lowestFree? with
      | none => rfl
      | some a =>
          have hvalid := h.sound.valid _ _ hlocal.pool
          have hfree := ((Pool.lowestFree?_eq_some_iff hvalid).1 hlowest).1
          have hasks : Local.Asks op p a := by
            simp [Local.Asks, hplain, hlowest]
          exact absurd (h.canBind hop hlocal hold hfree hasks) (hrefusal a).2

/-- A create with a recorded address that the store refuses is refused by the grid. -/
lemma Mirrors.process_refused_recorded (h : Mirrors tokens sites s g) (hp : Proper sites)
    (hop : op.Avoids tokens) (hkind : op.kind = .create) {text : String}
    (hrecorded : op.recorded = some text) (names : Names sites op net reference)
    (hlocal : Local.Names s op p reference)
    (hrefusal : ∀ a, ¬ Local.Confirms op p reference a ∧ ¬ Local.CanBind op p reference a) :
    process (backend (Memory.client url) sites) op g = (.failure op, g) := by
  rw [Coordinator.process_recorded _ _ _ hkind hrecorded]
  cases hparse : Address.parse? text with
  | none => rfl
  | some a =>
      have hother : p.owned? reference ≠ some a := by
        intro hold
        refine (hrefusal a).1 ⟨hold, ?_⟩
        intro text' htext'
        cases hrecorded.symm.trans htext'
        exact hparse
      have htaken : p.owned? reference = none → net.network.isHost a = true →
          ∃ owner, g.Reserved net.view a owner := by
        intro hnone hhost
        refine (h.free_or_reserved names.site hhost).resolve_left ?_
        rintro ⟨token, hrow⟩
        rw [Store.rows_eq hlocal.pool] at hrow
        have hasks : Local.Asks op p a := by
          simp [Local.Asks, hrecorded, hparse]
        exact (hrefusal a).2 (h.canBind hop hlocal hnone ⟨token, hrow⟩ hasks)
      obtain ⟨e, hallocate⟩ : ∃ e, (backend (Memory.client url) sites).allocate op a g
          = (.error e, g) :=
        names.allocate_of_refused hp h.serves (hp.network _ _ names.site)
          (h.owned hlocal names.site) hother htaken
      simp only [hallocate]

/-- A create that the store refuses is refused by the grid. -/
lemma Mirrors.process_refused (h : Mirrors tokens sites s g) (hp : Proper sites)
    (hop : op.Avoids tokens) (hkind : op.kind = .create)
    (hrefusal : ∀ p reference a, Local.Names s op p reference →
      ¬ Local.Confirms op p reference a ∧ ¬ Local.CanBind op p reference a) :
    process (backend (Memory.client url) sites) op g = (.failure op, g) := by
  by_cases hnames : ∃ net reference, Names sites op net reference
  · obtain ⟨net, reference, names⟩ := hnames
    obtain ⟨p, hlocal⟩ := h.exists_local_names names
    have hrefused := fun a => hrefusal p reference a hlocal
    cases hrecorded : op.recorded with
    | none => exact h.process_refused_plain hp hop hkind hrecorded names hlocal hrefused
    | some text => exact h.process_refused_recorded hp hop hkind hrecorded names hlocal hrefused
  · rw [process_of_not_names (fun net reference names => hnames ⟨net, reference, names⟩), hkind]

/-- A binding that the store confirms is confirmed by the grid. -/
lemma Mirrors.process_confirmed (h : Mirrors tokens sites s g) (hp : Proper sites)
    (hop : op.Avoids tokens) {a : Address} (hkind : op.kind = .create)
    (hlocal : Local.Names s op p reference) (hconfirms : Local.Confirms op p reference a) :
    ∃ g', process (backend (Memory.client url) sites) op g = (.success op (some a), g') ∧
      Mirrors tokens sites (if op.recorded.isSome then s.published op a else s) g' := by
  obtain ⟨net, names⟩ := h.exists_names hlocal
  have hnet := hp.network _ _ names.site
  have howned : Owned g net reference (some a) := hconfirms.owned ▸ h.owned hlocal names.site
  cases hrecorded : op.recorded with
  | none =>
      refine ⟨g, ?_, by simpa using h⟩
      rw [Coordinator.process_plain _ _ _ hkind hrecorded, names.lookup_apply h.serves hnet howned]
  | some text =>
      have hanswer : Effect tokens s op (.success op (some a))
          (if op.recorded.isSome then s.published op a else s) :=
        .confirmed hkind hlocal hconfirms
      have heffect : Effect tokens s op (.success op (some a)) (s.published op a) := by
        simpa [hrecorded] using hanswer
      have hbecomes : Grid.Memory.Becomes g (published (backend (Memory.client url) sites) op g a)
          _ _ := names.published_becomes h.serves a
      rw [Option.isSome_some, if_pos rfl]
      refine ⟨published (backend (Memory.client url) sites) op g a, ?_, h.next heffect hop ?_ ?_ ?_⟩
      · rw [Coordinator.process_recorded _ _ _ hkind hrecorded, hconfirms.recorded text hrecorded]
        simp only [names.allocate_of_owned h.serves hnet howned]
      · exact h.serves.becomes hbecomes fun view b name => .inl
      · intro label net' r hsite' b
        rw [Store.lookup_congr (Store.pools_published ..), hbecomes.reserved]
        exact h.bindings label net' r hsite' b
      · exact h.records.publish names.site ((howned a).1 rfl).1 (fun _ => Store.mem_dns_published)
          hbecomes.published

/-- The call that binds what the store binds. -/
lemma Mirrors.process_bound_apply (h : Mirrors tokens sites s g) (hp : Proper sites) {a : Address}
    (hkind : op.kind = .create) (names : Names sites op net reference)
    (hlocal : Local.Names s op p reference) (hbinds : Local.CanBind op p reference a) :
    process (backend (Memory.client url) sites) op g = (.success op (some a),
      published (backend (Memory.client url) sites) op
        (g.insertFixed net.view a reference).2 a) := by
  have hnet := hp.network _ _ names.site
  have howned : Owned g net reference none := hbinds.unowned ▸ h.owned hlocal names.site
  cases hrecorded : op.recorded with
  | none =>
      have hlowest : p.lowestFree? = some a := by
        simpa [Local.Asks, hrecorded] using hbinds.asked
      rw [Coordinator.process_plain _ _ _ hkind hrecorded, names.lookup_apply h.serves hnet howned]
      simp only [names.allocateNext_apply h.serves hnet, ← h.lowestFree?_eq hlocal.pool names.site,
        hlowest]
  | some text =>
      have hparse : Address.parse? text = some a := by
        simpa [Local.Asks, hrecorded] using hbinds.asked
      obtain ⟨token, hfree⟩ := hbinds.free
      rw [← Store.rows_eq hlocal.pool] at hfree
      obtain ⟨hhost, hnobody⟩ := h.host_of_free names.site hfree
      rw [Coordinator.process_recorded _ _ _ hkind hrecorded, hparse]
      simp only [names.allocate_of_free hp h.serves hnet howned hhost hnobody]

/-- What the store binds is bound by the grid. -/
lemma Mirrors.process_bound (h : Mirrors tokens sites s g) (hp : Proper sites)
    (hop : op.Avoids tokens) {a : Address} (hkind : op.kind = .create)
    (hlocal : Local.Names s op p reference) (hbinds : Local.CanBind op p reference a) :
    ∃ g', process (backend (Memory.client url) sites) op g = (.success op (some a), g') ∧
      Mirrors tokens sites ((s.setPool op.pool (p.setHolder a (.bound reference))).published op a)
        g' := by
  obtain ⟨net, names⟩ := h.exists_names hlocal
  obtain ⟨token, hfree⟩ := hbinds.free
  rw [← Store.rows_eq hlocal.pool] at hfree
  have hhost := (h.host_of_free names.site hfree).1
  have heffect : Effect tokens s op (.success op (some a))
      ((s.setPool op.pool (p.setHolder a (.bound reference))).published op a) :=
    .bound hkind hlocal hbinds
  have hinsert := h.serves.tidy.insertFixed net.view a reference
  have hserves : Serves sites (g.insertFixed net.view a reference).2 := by
    refine h.serves.becomes hinsert fun view b name hreserved => hreserved.imp_right ?_
    rintro ⟨rfl, rfl, -⟩
    exact ⟨op.pool, net, names.site, rfl, hhost⟩
  have hpublish : Grid.Memory.Becomes (g.insertFixed net.view a reference).2
      (published (backend (Memory.client url) sites) op (g.insertFixed net.view a reference).2 a)
      _ _ := names.published_becomes hserves a
  refine ⟨_, h.process_bound_apply hp hkind names hlocal hbinds,
    h.next heffect hop (hserves.becomes hpublish fun view b name => .inl) ?_ ?_⟩
  · refine h.bindings.bind hp reference names.site hhost (fun l r b => ?_) fun v b n => ?_
    · rw [Store.lookup_congr (Store.pools_published ..), hlocal.lookup_bind h.sound.valid hbinds]
      by_cases hthis : op.pool = l ∧ r = reference
      · obtain ⟨rfl, rfl⟩ := hthis
        rw [if_pos ⟨rfl, rfl⟩, hlocal.lookup, hbinds.unowned]
        simp [eq_comm]
      · rw [if_neg hthis]
        constructor
        · exact .inr
        · rintro (⟨rfl, rfl, -⟩ | hold)
          · exact absurd ⟨rfl, rfl⟩ hthis
          · exact hold
    · rw [hpublish.reserved, hinsert.reserved]
  · refine h.records.publish names.site hhost (fun record => ?_) fun host b => ?_
    · exact Store.mem_dns_published
    · rw [hpublish.published, hinsert.published]

/-- What the store frees is freed by the grid. -/
lemma Mirrors.process_freed (h : Mirrors tokens sites s g) (hp : Proper sites)
    (hop : op.Avoids tokens) {a : Address} (hkind : op.kind = .delete)
    (hlocal : Local.Names s op p reference) (howned : p.owned? reference = some a)
    (hnew : p.carriesElsewhere a (tokens s.drawn) = false) :
    ∃ g', process (backend (Memory.client url) sites) op g = (.success op none, g') ∧
      Mirrors tokens sites
        ({ s.setPool op.pool (p.setHolder a (.free (tokens s.drawn))) with
          drawn := s.drawn + 1 }.withdrawn op a) g' := by
  obtain ⟨net, names⟩ := h.exists_names hlocal
  have hnet := hp.network _ _ names.site
  have hheld : Owned g net reference (some a) := howned ▸ h.owned hlocal names.site
  have hlookup : s.lookup op.pool reference = some a := hlocal.lookup.trans howned
  have heffect := Effect.freed hkind hlocal howned hnew
  have hrelease : Grid.Memory.Becomes g (released (backend (Memory.client url) sites) op g a) _ _ :=
    names.released_becomes h.serves a
  refine ⟨released (backend (Memory.client url) sites) op g a, ?_,
    h.next heffect hop (h.serves.becomes hrelease fun view b name hold => .inl hold.1) ?_ ?_⟩
  · rw [Coordinator.process_delete _ _ _ hkind, names.lookup_apply h.serves hnet hheld]
  · refine h.bindings.free hp h.sound.valid reference names.site hlookup (fun l r b => ?_)
      hrelease.reserved
    rw [Store.lookup_congr (Store.pools_withdrawn ..)]
    change (s.setPool op.pool (p.setHolder a (.free (tokens s.drawn)))).lookup l r = some b ↔ _
    rw [hlocal.lookup_free h.sound.valid howned hnew]
    by_cases hthis : op.pool = l ∧ r = reference
    · simp [hthis]
    · rw [if_neg hthis, eq_comm (a := l)]
      simp [hthis]
  · exact h.records.withdraw hp names.site ((hheld a).1 rfl).1
      (fun _ => Store.mem_dns_withdrawn) hrelease.published

/-- Whatever the store does with an operation, the grid does the same. -/
lemma Mirrors.process_of_effect (h : Mirrors tokens sites s g) (hp : Proper sites)
    (hinj : Function.Injective tokens) (hop : op.Avoids tokens)
    (heffect : Effect tokens s op outcome s') :
    ∃ g', process (backend (Memory.client url) sites) op g = (outcome, g') ∧
      Mirrors tokens sites s' g' := by
  cases heffect with
  | refused kind refusal => exact ⟨g, h.process_refused hp hop kind refusal, h⟩
  | confirmed kind names confirms => exact h.process_confirmed hp hop kind names confirms
  | bound kind names binds => exact h.process_bound hp hop kind names binds
  | absent kind unowned =>
      refine ⟨g, ?_, h⟩
      by_cases hnames : ∃ net reference, Names sites op net reference
      · obtain ⟨net, reference, names⟩ := hnames
        obtain ⟨p, hlocal⟩ := h.exists_local_names names
        have hnone : Owned g net reference none :=
          unowned p reference hlocal ▸ h.owned hlocal names.site
        rw [Coordinator.process_delete _ _ _ kind,
          names.lookup_apply h.serves (hp.network _ _ names.site) hnone]
      · rw [process_of_not_names fun net reference names => hnames ⟨net, reference, names⟩, kind]
  | freed kind names owned new => exact h.process_freed hp hop kind names owned new
  | stuck kind names owned clash =>
      have hnew := (h.sound.supplied.drawsNew hinj op).carriesElsewhere kind names.pool
      rw [hnew] at clash
      cases clash

/-- **An operation is answered alike, and leaves the store and the grid mirroring each other.** -/
theorem Mirrors.process_eq (url : String) (h : Mirrors tokens sites s g) (hp : Proper sites)
    (hinj : Function.Injective tokens) (hop : op.Avoids tokens) :
    (process (backend (Memory.client url) sites) op g).1
        = (process (Local.backend tokens) op s).1 ∧
      Mirrors tokens sites (process (Local.backend tokens) op s).2
        (process (backend (Memory.client url) sites) op g).2 := by
  have heffect := Local.process_effect tokens h.sound.valid op
  obtain ⟨g', hrun, hmirrors⟩ : ∃ g', process (backend (Memory.client url) sites) op g
      = ((process (Local.backend tokens) op s).1, g') ∧ Mirrors tokens sites _ g' :=
    h.process_of_effect hp hinj hop heffect
  rw [hrun]
  exact ⟨rfl, hmirrors⟩

/-! ## Lists of operations -/

/-- **A list of operations is answered alike**, by induction over the list. -/
theorem Mirrors.processAll_eq (url : String) (h : Mirrors tokens sites s g) (hp : Proper sites)
    (hinj : Function.Injective tokens) {ops : List Operation}
    (hops : ∀ op ∈ ops, op.Avoids tokens) :
    (processAll (backend (Memory.client url) sites) ops g).1
        = (processAll (Local.backend tokens) ops s).1 ∧
      Mirrors tokens sites (processAll (Local.backend tokens) ops s).2
        (processAll (backend (Memory.client url) sites) ops g).2 := by
  induction ops generalizing s g with
  | nil => exact ⟨rfl, h⟩
  | cons op ops ih =>
      obtain ⟨hop, hops⟩ := List.forall_mem_cons.1 hops
      rw [Coordinator.processAll_cons, Coordinator.processAll_cons]
      have hfirst := h.process_eq url hp hinj hop
      have hrest := ih hfirst.2 hops
      exact ⟨congrArg₂ List.cons hfirst.1 hrest.1, hrest.2⟩

end Infoblox

end Ipam
