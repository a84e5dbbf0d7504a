import Ipam.Allocation.Infoblox
import Ipam.Proofs.Coordinator.Calls
import Ipam.Proofs.Grid.Memory

/-!
# The calls of the Infoblox backend on a grid in memory

* `Infoblox.Proper` — label networks as they are configured: written canonically, with room for
  hosts, and disjoint.
* `Infoblox.Serves` — a grid in order that has the label networks and no others, and reserves their
  hosts only.
* `Infoblox.Names` — the network and the reference that an operation is about.
* `Infoblox.Owned` — what the grid reserves for a reference in a network.
* `Infoblox.Names.lookup_apply`, `Infoblox.Names.allocateNext_apply`,
  `Infoblox.Names.allocate_eq` — what the calls answer, by what the reference owns.
* `Infoblox.Names.createDns_apply`, `Infoblox.Names.release_apply`, `Infoblox.Names.deleteDns_apply` —
  which objects the other calls make and delete.
* **`Infoblox.Names.published_becomes`**, **`Infoblox.Names.released_becomes`** — what publishing and
  releasing leave in the grid.
-/

namespace Ipam.Infoblox

open Coordinator (published released)
open Grid (Memory FixedAddress HostRecord)
open Grid.Memory (Reserved Published Becomes)

/-! ## Networks of labels -/

/-- A label network as it is configured. -/
structure LabelNetwork.Proper (net : LabelNetwork) : Prop where
  cidr : net.cidr = toString net.network
  canonical : net.network.Canonical
  length : net.network.length.val ≤ 30

/-- The label networks are written canonically, and no address is in two of them. -/
structure Proper (sites : Table LabelNetwork) : Prop where
  network : ∀ label net, sites.get? label = some net → net.Proper
  disjoint : ∀ label net label' net' a, sites.get? label = some net →
    sites.get? label' = some net' → net.network.contains a = true →
    net'.network.contains a = true → label = label'

/-- A grid in order, with the label networks and no others, that reserves nothing but their hosts.
-/
structure Serves (sites : Table LabelNetwork) (g : Memory) : Prop where
  tidy : g.Tidy
  failure : g.failure = none
  found : ∀ label net, sites.get? label = some net →
    ∃ o ∈ g.networks, o.view = net.view ∧ o.network = net.cidr
  known : ∀ o ∈ g.networks, ∃ label net,
    sites.get? label = some net ∧ o.view = net.view ∧ o.network = net.cidr
  reserved : ∀ view a name, g.Reserved view a name → ∃ label net,
    sites.get? label = some net ∧ net.view = view ∧ net.network.isHost a = true

/-- The network and the reference that an operation is about. -/
structure Names (sites : Table LabelNetwork) (op : Operation) (net : LabelNetwork)
    (reference : String) : Prop where
  reference : op.reference? = some reference
  labelled : Pool.isBlankText op.pool = false
  site : sites.get? op.pool = some net

/-- What the grid reserves for a reference in a network. -/
def Owned (g : Memory) (net : LabelNetwork) (reference : String) (owned : Option Address) : Prop :=
  ∀ a, owned = some a ↔ net.network.isHost a = true ∧ g.Reserved net.view a reference

variable {url : String} {sites : Table LabelNetwork} {g g' : Memory} {op : Operation}
  {net : LabelNetwork} {reference : String}

lemma LabelNetwork.Proper.isHostText_eq (h : net.Proper) (a : Address) :
    Memory.isHostText net.cidr (toString a) = net.network.isHost a := by
  rw [h.cidr, Memory.isHostText_toString h.canonical h.length]

lemma Serves.becomes (hg : Serves sites g) {reserved : String → Address → String → Prop}
    {published : String → Address → Prop} (h : Becomes g g' reserved published)
    (hreserved : ∀ view a name, reserved view a name → g.Reserved view a name ∨
      ∃ label net, sites.get? label = some net ∧ net.view = view ∧ net.network.isHost a = true) :
    Serves sites g' where
  tidy := h.tidy
  failure := h.failure.trans hg.failure
  found := h.networks ▸ hg.found
  known := h.networks ▸ hg.known
  reserved := by
    intro view a name hname
    rcases hreserved view a name ((h.reserved view a name).1 hname) with hold | hnew
    · exact hg.reserved view a name hold
    · exact hnew

/-! ## Calls to the grid -/

lemma onGrid_apply {α : Type} (f : Memory → Except Grid.GridError (α × Memory))
    (hg : g.failure = none) :
    onGrid (Memory.call f) g = match f g with
      | .ok (value, g) => (.ok value, g)
      | .error e => (.error (.grid e), g) := by
  simp only [onGrid, Memory.call, ExceptT.run, hg]
  cases f g <;> rfl

lemma onGrid_fixedAddresses (hg : g.failure = none) (filters : List Grid.Filter) :
    onGrid ((Memory.client url).fixedAddresses filters) g = (.ok (g.selectFixed filters), g) :=
  onGrid_apply (fun g => .ok (g.selectFixed filters, g)) hg

lemma onGrid_hostRecords (hg : g.failure = none) (filters : List Grid.Filter) :
    onGrid ((Memory.client url).hostRecords filters) g = (.ok (g.selectRecords filters), g) :=
  onGrid_apply (fun g => .ok (g.selectRecords filters, g)) hg

lemma addressOf_toString (a : Address) : addressOf (toString a) g = (.ok a, g) := by
  rw [addressOf, Address.parse?_toString]
  rfl

/-- Objects with different references that are kept are deleted one after the other. -/
lemma forM_delete_apply {α : Type} (referenceOf : α → String) {objects : List α}
    (htidy : g.Tidy) (hfailure : g.failure = none)
    (hkeeps : ∀ o ∈ objects, g.Keeps (referenceOf o)) (hnodup : (objects.map referenceOf).Nodup) :
    (objects.forM fun o => onGrid ((Memory.client url).delete (referenceOf o))) g
      = (.ok (), g.without (objects.map referenceOf)) := by
  induction objects generalizing g with
  | nil =>
      rw [List.map_nil, Memory.without_nil]
      rfl
  | cons o rest ih =>
      obtain ⟨hkeep, hkeeps⟩ := List.forall_mem_cons.1 hkeeps
      obtain ⟨hnew, hnodup⟩ := List.nodup_cons.1 hnodup
      have hdelete : onGrid ((Memory.client url).delete (referenceOf o)) g
          = (.ok (), g.without [referenceOf o]) := by
        refine (onGrid_apply (fun g => g.delete (referenceOf o)) hfailure).trans ?_
        rw [htidy.delete_eq hkeep]
      -- The other objects are still there, as their references are others.
      have hrest : ∀ other ∈ rest, (g.without [referenceOf o]).Keeps (referenceOf other) := by
        intro other hother
        have hne : referenceOf other ∉ [referenceOf o] := by
          intro hmem
          exact hnew (List.mem_map.2 ⟨other, hother, List.mem_singleton.1 hmem⟩)
        refine (hkeeps other hother).imp ?_ ?_ <;> intro hcontains
        · rwa [Table.contains, Memory.get?_fixed_without, if_neg hne]
        · rwa [Table.contains, Memory.get?_records_without, if_neg hne]
      have hfold := ih (g := g.without [referenceOf o]) (htidy.without _) hfailure hrest hnodup
      show (onGrid ((Memory.client url).delete (referenceOf o)) >>= fun _ =>
        rest.forM fun o => onGrid ((Memory.client url).delete (referenceOf o))) g = _
      rw [Call.bind_apply, hdelete, List.map_cons,
        Memory.without_cons g (referenceOf o) (rest.map referenceOf)]
      exact hfold

/-! ## What an operation is about

These checks are made before the grid is asked, so they are the same over every grid. -/

lemma networkOf_apply {σ : Type} (s : σ) :
    networkOf sites op s =
      if Pool.isBlankText op.pool then (.error (.noPool op), s)
      else match sites.get? op.pool with
        | some net => (.ok net, s)
        | none => (.error (.unknownPool op.pool), s) := by
  rw [networkOf, Call.bind_apply, Backend.requirePool]
  split_ifs with hblank
  · rfl
  · cases hsite : sites.get? op.pool <;> simp [hsite]

lemma requireReference_apply {σ : Type} (s : σ) :
    Backend.requireReference op s = match op.reference? with
      | some reference => (.ok reference, s)
      | none => (.error (.noReference op), s) := by
  rw [Backend.requireReference]
  cases op.reference? <;> rfl

lemma Names.networkOf_apply {σ : Type} (h : Names sites op net reference) (s : σ) :
    networkOf sites op s = (.ok net, s) := by
  rw [Infoblox.networkOf_apply, if_neg (by simp [h.labelled]), h.site]

lemma Names.checks_apply (h : Names sites op net reference) {σ α : Type}
    (f : String → LabelNetwork → AllocationM σ α) (s : σ) :
    (do
      let reference ← Backend.requireReference op
      let net ← networkOf sites op
      f reference net : AllocationM σ α) s = f reference net s := by
  simp only [Call.bind_apply, Infoblox.requireReference_apply, h.reference,
    h.networkOf_apply]

/-- An operation that does not name both a network and a reference is stopped at the first check. -/
lemma checks_of_not_names (h : ∀ net reference, ¬ Names sites op net reference) {σ α : Type}
    (f : String → LabelNetwork → AllocationM σ α) (s : σ) :
    ∃ e, (do
      let reference ← Backend.requireReference op
      let net ← networkOf sites op
      f reference net : AllocationM σ α) s = (.error e, s) := by
  simp only [Call.bind_apply, Infoblox.requireReference_apply]
  cases hreference : op.reference? with
  | none => exact ⟨_, rfl⟩
  | some reference =>
      simp only [Infoblox.networkOf_apply]
      split_ifs with hblank
      · exact ⟨_, rfl⟩
      · cases hsite : sites.get? op.pool with
        | none => exact ⟨_, rfl⟩
        | some net => exact absurd ⟨hreference, Bool.eq_false_iff.2 hblank, hsite⟩ (h net reference)

/-! ## Look-ups -/

lemma mem_boundAt_iff {o : FixedAddress} :
    o ∈ g.selectFixed
        [("name", reference), ("network_view", net.view), ("network", net.cidr)] ↔
      (∃ key, g.fixed.get? key = some o) ∧ o.name = reference ∧ o.view = net.view ∧
        Memory.isHostText net.cidr o.address = true := by
  simp [Memory.mem_selectFixed_iff, Memory.passesFixed]

/-- **The first fixed address for a reference in a network is what the reference owns.** -/
theorem boundAddress_apply (hg : Serves sites g) (hnet : net.Proper) {owned : Option Address}
    (howned : Owned g net reference owned) :
    boundAddress (Memory.client url) reference net g = (.ok owned, g) := by
  simp only [boundAddress, Call.bind_apply, onGrid_fixedAddresses hg.failure]
  cases hfound : g.selectFixed
      [("name", reference), ("network_view", net.view), ("network", net.cidr)] with
  | nil =>
      have hnone : owned = none := by
        rw [Option.eq_none_iff_forall_ne_some]
        intro a ha
        obtain ⟨hhost, key, o, ho, hview, haddress, hname⟩ := (howned a).1 ha
        have hmem := mem_boundAt_iff.2 ⟨⟨key, ho⟩, hname, hview, by
          rw [haddress, hnet.isHostText_eq, hhost]⟩
        rw [hfound] at hmem
        cases hmem
      rw [hnone]
      rfl
  | cons first rest =>
      obtain ⟨⟨key, ho⟩, hname, hview, hhost⟩ := mem_boundAt_iff.1 (hfound ▸ List.mem_cons_self)
      obtain ⟨-, -, a, haddress⟩ := hg.tidy.fixed key first ho
      rw [haddress, hnet.isHostText_eq] at hhost
      have hsome := (howned a).2 ⟨hhost, key, first, ho, hview, haddress, hname⟩
      simp [Call.bind_apply, haddress, addressOf_toString, hsome]

lemma Names.lookup_eq (h : Names sites op net reference) (url : String) (g : Memory) :
    (backend (Memory.client url) sites).lookup op g
      = boundAddress (Memory.client url) reference net g :=
  h.checks_apply (fun reference net => boundAddress (Memory.client url) reference net) g

lemma Names.lookup_apply (h : Names sites op net reference) (hg : Serves sites g)
    (hnet : net.Proper) {owned : Option Address} (howned : Owned g net reference owned) :
    (backend (Memory.client url) sites).lookup op g = (.ok owned, g) :=
  (h.lookup_eq url g).trans (boundAddress_apply hg hnet howned)

/-! ## Reservations -/

/-- Two networks that share an address are the network of one label. -/
lemma Proper.eq_of_contains (hp : Proper sites) {label label' : String} {net' : LabelNetwork}
    {a : Address} (hsite : sites.get? label = some net) (hsite' : sites.get? label' = some net')
    (ha : net.network.contains a = true) (ha' : net'.network.contains a = true) : net' = net := by
  obtain rfl := hp.disjoint label net label' net' a hsite hsite' ha ha'
  exact Option.some.inj (hsite'.symm.trans hsite)

/-- What is reserved inside a network is one of its hosts. -/
lemma Names.isHost_of_reserved (h : Names sites op net reference) (hp : Proper sites)
    (hg : Serves sites g) {a : Address} {name : String} (ha : net.network.contains a = true)
    (hreserved : g.Reserved net.view a name) : net.network.isHost a = true := by
  obtain ⟨label, net', hsite, -, hhost⟩ := hg.reserved _ _ _ hreserved
  have heq := hp.eq_of_contains h.site hsite ha (Network.contains_of_isHost hhost)
  exact heq ▸ hhost

/-- Only the hosts of label networks can be reserved. -/
lemma isCovered_iff (hp : Proper sites) (hg : Serves sites g) {view : String} {a : Address} :
    g.isCovered view (toString a) = true ↔
      ∃ label net, sites.get? label = some net ∧ net.view = view ∧ net.network.isHost a = true := by
  simp only [Memory.isCovered, List.any_eq_true, Bool.and_eq_true, decide_eq_true_eq]
  constructor
  · rintro ⟨o, ho, rfl, hhost⟩
    obtain ⟨label, net, hsite, hview, hcidr⟩ := hg.known o ho
    rw [hcidr, (hp.network label net hsite).isHostText_eq] at hhost
    exact ⟨label, net, hsite, hview.symm, hhost⟩
  · rintro ⟨label, net, hsite, rfl, hhost⟩
    obtain ⟨o, ho, hview, hcidr⟩ := hg.found label net hsite
    exact ⟨o, ho, hview, by rw [hcidr, (hp.network label net hsite).isHostText_eq, hhost]⟩

lemma mem_fixedAt_iff {a : Address} {o : FixedAddress} :
    o ∈ g.selectFixed [("ipv4addr", toString a), ("network_view", net.view)] ↔
      (∃ key, g.fixed.get? key = some o) ∧ o.address = toString a ∧ o.view = net.view := by
  simp [Memory.mem_selectFixed_iff, Memory.passesFixed]

lemma mem_recordsAt_iff {host : String} {a : Address} {r : HostRecord} :
    r ∈ g.selectRecords [("name", host), ("ipv4addr", toString a)] ↔
      (∃ key, g.records.get? key = some r) ∧ r.name = host ∧ r.address = toString a := by
  simp [Memory.mem_selectRecords_iff, Memory.passesRecord]

/-- The body of `allocateNext`, after its checks. -/
lemma Names.allocateNext_eq (h : Names sites op net reference) (hfailure : g.failure = none) :
    (backend (Memory.client url) sites).allocateNext op g =
      match g.allocateNext net.view net.cidr reference with
      | .ok (fixed, g) => addressOf fixed.address g
      | .error e => (.error (.grid e), g) := by
  refine (h.checks_apply (fun reference net => do
    let fixed ← onGrid ((Memory.client url).allocateNext net.view net.cidr reference attributes)
    addressOf fixed.address) g).trans ?_
  have hcall : onGrid ((Memory.client url).allocateNext net.view net.cidr reference attributes) g
      = match g.allocateNext net.view net.cidr reference with
        | .ok (value, g) => (.ok value, g)
        | .error e => (.error (.grid e), g) := by
    refine (onGrid_apply (fun g => g.allocateNext net.view net.cidr reference) hfailure).trans ?_
    cases g.allocateNext net.view net.cidr reference <;> rfl
  rw [Call.bind_apply, hcall]
  cases g.allocateNext net.view net.cidr reference <;> rfl

/-- The next free address is the lowest host that is not reserved. -/
lemma Names.allocateNext_apply (h : Names sites op net reference) (hg : Serves sites g)
    (hnet : net.Proper) :
    (backend (Memory.client url) sites).allocateNext op g =
      match net.network.hosts.find? fun a => !g.isTaken net.view (toString a) with
      | none => (.error (.grid (.exhausted net.cidr)), g)
      | some a => (.ok a, (g.insertFixed net.view a reference).2) := by
  have hfound : ∃ o, g.findNetwork? net.view net.cidr = some o := by
    obtain ⟨o, ho, hview, hcidr⟩ := hg.found _ _ h.site
    rw [← Option.isSome_iff_exists, Memory.findNetwork?, List.find?_isSome]
    exact ⟨o, ho, by simp [hview, hcidr]⟩
  obtain ⟨o, hfound⟩ := hfound
  have hnetwork : Memory.hostNetwork? net.cidr = some net.network := by
    rw [hnet.cidr, Memory.hostNetwork?_toString hnet.canonical hnet.length]
  rw [h.allocateNext_eq hg.failure, Memory.allocateNext, hfound]
  simp only [hnetwork, Memory.lowestFree?_eq]
  cases net.network.hosts.find? fun a => !g.isTaken net.view (toString a) with
  | none => rfl
  | some a => exact addressOf_toString a

/-- The body of `allocate`, after its checks. -/
lemma Names.allocate_eq (h : Names sites op net reference) (hg : Serves sites g)
    (hnet : net.Proper) {owned : Option Address} (howned : Owned g net reference owned)
    (a : Address) :
    (backend (Memory.client url) sites).allocate op a g =
      if net.network.contains a then
        match owned with
        | some b => if b = a then (.ok (), g) else (.error (.conflict op.pool a), g)
        | none =>
          match g.selectFixed [("ipv4addr", toString a), ("network_view", net.view)] with
          | current :: _ =>
            if current.name = reference then (.ok (), g) else (.error (.conflict op.pool a), g)
          | [] => match g.createFixed net.view (toString a) reference with
            | .ok (_, g) => (.ok (), g)
            | .error e => (.error (.grid e), g)
      else (.error (.notInNetwork a net.cidr), g) := by
  have hcreate : onGrid ((Memory.client url).createFixed net.view (toString a) reference
      attributes) g = match g.createFixed net.view (toString a) reference with
        | .ok (value, g) => (.ok value, g)
        | .error e => (.error (.grid e), g) := by
    refine (onGrid_apply (fun g => g.createFixed net.view (toString a) reference)
      hg.failure).trans ?_
    cases g.createFixed net.view (toString a) reference <;> rfl
  show allocate (Memory.client url) sites op a g = _
  simp only [allocate, Call.bind_apply, Infoblox.requireReference_apply, h.reference,
    h.networkOf_apply]
  by_cases hcontains : net.network.contains a = true
  · simp only [hcontains, Bool.not_true, Bool.false_eq_true, if_false, if_true,
      Call.bind_apply, boundAddress_apply hg hnet howned]
    cases owned with
    | some b =>
        simp only
        split_ifs <;> rfl
    | none =>
        simp only [Call.bind_apply, fixedAt, onGrid_fixedAddresses hg.failure]
        cases g.selectFixed [("ipv4addr", toString a), ("network_view", net.view)] with
        | cons current rest =>
            simp only
            split_ifs <;> rfl
        | nil =>
            simp only [Call.bind_apply, hcreate]
            cases g.createFixed net.view (toString a) reference <;> rfl
  · rw [if_neg hcontains]
    simp only [Bool.not_eq_true] at hcontains
    simp [hcontains, Call.bind_apply]

/-- An address that the reference owns is confirmed. -/
lemma Names.allocate_of_owned (h : Names sites op net reference) (hg : Serves sites g)
    (hnet : net.Proper) {a : Address} (howned : Owned g net reference (some a)) :
    (backend (Memory.client url) sites).allocate op a g = (.ok (), g) := by
  have hcontains := Network.contains_of_isHost ((howned a).1 rfl).1
  rw [h.allocate_eq hg hnet howned, if_pos hcontains]
  simp

/-- A host that is reserved for nobody is reserved for a reference that owns nothing. -/
lemma Names.allocate_of_free (h : Names sites op net reference) (hp : Proper sites)
    (hg : Serves sites g) (hnet : net.Proper) {a : Address}
    (howned : Owned g net reference none) (hhost : net.network.isHost a = true)
    (hfree : ∀ name, ¬ g.Reserved net.view a name) :
    (backend (Memory.client url) sites).allocate op a g
      = (.ok (), (g.insertFixed net.view a reference).2) := by
  have hnobody : g.selectFixed [("ipv4addr", toString a), ("network_view", net.view)] = [] := by
    rw [List.eq_nil_iff_forall_not_mem]
    intro o ho
    obtain ⟨⟨key, hkey⟩, haddress, hview⟩ := mem_fixedAt_iff.1 ho
    exact hfree o.name ⟨key, o, hkey, hview, haddress, rfl⟩
  have hcovered := (isCovered_iff hp hg).2 ⟨_, _, h.site, rfl, hhost⟩
  have htaken : g.isTaken net.view (toString a) = false := by
    rw [← Bool.not_eq_true, Memory.isTaken_iff]
    rintro ⟨name, hreserved⟩
    exact hfree name hreserved
  rw [h.allocate_eq hg hnet howned, if_pos (Network.contains_of_isHost hhost), hnobody]
  simp [Memory.createFixed, Address.toList_toString, Address.parseQuad?_quad, hcovered, htaken]

/-- Every other address is refused, and nothing changes. -/
lemma Names.allocate_of_refused (h : Names sites op net reference) (hp : Proper sites)
    (hg : Serves sites g) (hnet : net.Proper) {owned : Option Address} {a : Address}
    (howned : Owned g net reference owned) (hother : owned ≠ some a)
    (hrefused : owned = none → net.network.isHost a = true → ∃ name, g.Reserved net.view a name) :
    ∃ e, (backend (Memory.client url) sites).allocate op a g = (.error e, g) := by
  rw [h.allocate_eq hg hnet howned]
  split_ifs with hcontains
  · cases owned with
    | some b =>
        have hne : b ≠ a := fun heq => hother (congrArg some heq)
        exact ⟨_, if_neg hne⟩
    | none =>
        simp only
        cases hfound : g.selectFixed [("ipv4addr", toString a), ("network_view", net.view)] with
        | cons current rest =>
            obtain ⟨⟨key, hkey⟩, haddress, hview⟩ := mem_fixedAt_iff.1 (hfound ▸ List.mem_cons_self)
            have hreserved : g.Reserved net.view a current.name :=
              ⟨key, current, hkey, hview, haddress, rfl⟩
            -- Were it reserved for the reference, the reference would own it.
            have hne : current.name ≠ reference := by
              intro heq
              have hhost := h.isHost_of_reserved hp hg hcontains hreserved
              exact hother ((howned a).2 ⟨hhost, heq ▸ hreserved⟩)
            exact ⟨_, if_neg hne⟩
        | nil =>
            have huncovered : g.isCovered net.view (toString a) = false := by
              rw [← Bool.not_eq_true, isCovered_iff hp hg]
              rintro ⟨label, net', hsite, -, hhost⟩
              obtain rfl := hp.eq_of_contains h.site hsite hcontains
                (Network.contains_of_isHost hhost)
              obtain ⟨name, key, o, ho, hview, haddress, -⟩ := hrefused rfl hhost
              have hmem : o ∈ g.selectFixed
                  [("ipv4addr", toString a), ("network_view", net'.view)] :=
                mem_fixedAt_iff.2 ⟨⟨key, ho⟩, haddress, hview⟩
              rw [hfound] at hmem
              cases hmem
            refine ⟨.grid (.uncovered (toString a) net.view), ?_⟩
            simp only [Memory.createFixed, Address.toList_toString, Address.parseQuad?_quad,
              huncovered, Bool.not_false, if_true]
  · exact ⟨_, rfl⟩

/-! ## Releases and publications -/

lemma Names.createDns_apply (h : Names sites op net reference) (hfailure : g.failure = none)
    {host : String} (hhost : op.host = some host) (a : Address) :
    ((backend (Memory.client url) sites).createDns op a g).2 =
      if (g.selectRecords [("name", host), ("ipv4addr", toString a)]).isEmpty then
        (g.insertRecord host (toString a)).2
      else g := by
  simp only [backend, hhost, Call.bind_apply, h.networkOf_apply, recordsAt,
    onGrid_hostRecords hfailure]
  have hcreate : onGrid ((Memory.client url).createHostRecord host (toString a) attributes) g
      = (.ok (g.insertRecord host (toString a)).1, (g.insertRecord host (toString a)).2) :=
    onGrid_apply (fun g => .ok (g.insertRecord host (toString a))) hfailure
  split_ifs with hempty
  · rw [Call.bind_apply, hcreate]
    rfl
  · rfl

/-- **Publishing an address adds the host name of the operation, if there is one.** -/
theorem Names.published_becomes (h : Names sites op net reference) (hg : Serves sites g)
    (a : Address) :
    Becomes g (published (backend (Memory.client url) sites) op g a) g.Reserved
      (fun host b => g.Published host b ∨ (op.host = some host ∧ b = a)) := by
  cases hhost : op.host with
  | none =>
      rw [published, hhost]
      exact ⟨hg.tidy, rfl, rfl, fun _ _ _ => Iff.rfl, fun _ _ => by simp⟩
  | some host =>
      rw [published, hhost, Option.isSome_some, if_pos rfl, h.createDns_apply hg.failure hhost]
      split_ifs with hempty
      · obtain ⟨htidy, hnetworks, hfailure, hreserved, hpublished⟩ := hg.tidy.insertRecord host a
        refine ⟨htidy, hnetworks, hfailure, hreserved, fun other b => (hpublished other b).trans ?_⟩
        rw [Option.some_inj, eq_comm (a := other)]
      · -- The record is there already.
        refine ⟨hg.tidy, rfl, rfl, fun _ _ _ => Iff.rfl, fun other b => ?_⟩
        have hthere : g.Published host a := by
          obtain ⟨r, hr⟩ := List.exists_mem_of_ne_nil _ (by simpa using hempty)
          obtain ⟨⟨key, hkey⟩, hname, haddress⟩ := mem_recordsAt_iff.1 hr
          exact ⟨key, r, hkey, hname, haddress⟩
        constructor
        · exact .inl
        · rintro (hold | ⟨heq, rfl⟩)
          · exact hold
          · cases heq
            exact hthere

/-- The fixed addresses of an address are deleted, and nothing else is. -/
lemma Names.release_apply (h : Names sites op net reference) (url : String) (htidy : g.Tidy)
    (hfailure : g.failure = none) (a : Address) :
    ∃ keys, (backend (Memory.client url) sites).release op a g = (.ok (), g.without keys) ∧
      ∀ key, key ∈ keys ↔
        ∃ o, g.fixed.get? key = some o ∧ o.view = net.view ∧ o.address = toString a := by
  set found := g.selectFixed [("ipv4addr", toString a), ("network_view", net.view)] with hfound
  have hreference : ∀ o ∈ found, g.fixed.get? o.reference = some o := by
    intro o ho
    obtain ⟨⟨key, hkey⟩, -, -⟩ := mem_fixedAt_iff.1 ho
    rwa [(htidy.fixed key o hkey).1]
  refine ⟨found.map (·.reference), ?_, fun key => ?_⟩
  · have hdelete : (found.forM fun o => onGrid ((Memory.client url).delete o.reference)) g
        = (.ok (), g.without (found.map (·.reference))) :=
      forM_delete_apply (·.reference) htidy hfailure
        (fun o ho => .inl (Table.contains_iff.2 ⟨o, hreference o ho⟩)) (htidy.nodup_selectFixed _)
    simp only [backend, Call.bind_apply, h.networkOf_apply, fixedAt,
      onGrid_fixedAddresses hfailure, ← hfound]
    exact hdelete
  · rw [List.mem_map]
    constructor
    · rintro ⟨o, ho, rfl⟩
      obtain ⟨-, haddress, hview⟩ := mem_fixedAt_iff.1 ho
      exact ⟨o, hreference o ho, hview, haddress⟩
    · rintro ⟨o, ho, hview, haddress⟩
      exact ⟨o, mem_fixedAt_iff.2 ⟨⟨key, ho⟩, haddress, hview⟩, (htidy.fixed key o ho).1⟩

/-- The records of a host name and an address are deleted, and nothing else is. -/
lemma Names.deleteDns_apply (h : Names sites op net reference) (url : String) (htidy : g.Tidy)
    (hfailure : g.failure = none) {host : String} (hhost : op.host = some host) (a : Address) :
    ∃ keys, (backend (Memory.client url) sites).deleteDns op a g = (.ok (), g.without keys) ∧
      ∀ key, key ∈ keys ↔
        ∃ r, g.records.get? key = some r ∧ r.name = host ∧ r.address = toString a := by
  set found := g.selectRecords [("name", host), ("ipv4addr", toString a)] with hfound
  have hreference : ∀ r ∈ found, g.records.get? r.reference = some r := by
    intro r hr
    obtain ⟨⟨key, hkey⟩, -, -⟩ := mem_recordsAt_iff.1 hr
    rwa [(htidy.records key r hkey).1]
  refine ⟨found.map (·.reference), ?_, fun key => ?_⟩
  · have hdelete : (found.forM fun r => onGrid ((Memory.client url).delete r.reference)) g
        = (.ok (), g.without (found.map (·.reference))) :=
      forM_delete_apply (·.reference) htidy hfailure
        (fun r hr => .inr (Table.contains_iff.2 ⟨r, hreference r hr⟩)) (htidy.nodup_selectRecords _)
    simp only [backend, hhost, Call.bind_apply, h.networkOf_apply, recordsAt,
      onGrid_hostRecords hfailure, ← hfound]
    exact hdelete
  · rw [List.mem_map]
    constructor
    · rintro ⟨r, hr, rfl⟩
      obtain ⟨-, hname, haddress⟩ := mem_recordsAt_iff.1 hr
      exact ⟨r, hreference r hr, hname, haddress⟩
    · rintro ⟨r, hr, hname, haddress⟩
      exact ⟨r, mem_recordsAt_iff.2 ⟨⟨key, hr⟩, hname, haddress⟩, (htidy.records key r hr).1⟩

/-- **Releasing an address frees it in the view and withdraws it from under the host name.** -/
theorem Names.released_becomes (h : Names sites op net reference) (hg : Serves sites g)
    (a : Address) :
    Becomes g (released (backend (Memory.client url) sites) op g a)
      (fun view b name => g.Reserved view b name ∧ ¬ (view = net.view ∧ b = a))
      (fun host b => g.Published host b ∧ ¬ (op.host = some host ∧ b = a)) := by
  obtain ⟨keys, hrelease, hkeys⟩ := h.release_apply url hg.tidy hg.failure a
  have hdrop := hg.tidy.dropFixed hkeys
  cases hhost : op.host with
  | none =>
      simp only [released, hhost, hrelease]
      exact hdrop.trans hdrop.tidy.refl hdrop.reserved fun host b => by simp [hdrop.published]
  | some host =>
      obtain ⟨keys', hdelete, hkeys'⟩ :=
        h.deleteDns_apply url hdrop.tidy (hdrop.failure.trans hg.failure) hhost a
      simp only [released, hhost, hrelease, Option.isSome_some, if_true, hdelete]
      refine hdrop.trans (hdrop.tidy.dropRecords hkeys') hdrop.reserved fun other b => ?_
      rw [hdrop.published, Option.some_inj, eq_comm (a := other)]

end Ipam.Infoblox
