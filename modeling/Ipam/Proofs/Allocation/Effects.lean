import Ipam.Proofs.Allocation.Failure
import Ipam.Proofs.Grid.Orderly

/-!
# What one operation does to a grid

The networks of the labels may be written and laid out in any way here, and the grid may hold
anything that other clients put there.

* `Infoblox.Publishes`, `Infoblox.Withdraws` — what is published for an operation, and what may be
  deleted for it.
* `Infoblox.Effect` — everything that the coordinator can do with one operation on a grid;
  **`Infoblox.process_effect`** says that the list is complete.
* `Infoblox.Effect.orderly` — grids stay orderly.
* **`Infoblox.Effect.differs`**, **`Infoblox.Effect.get?_records`** — the fixed addresses that come
  or go, and the host records that go, are about one address, host name and reference.
-/

namespace Ipam.Infoblox

open Coordinator (process published released)
open Grid (Memory FixedAddress HostRecord)
open Grid.Memory (Orderly Differs)

variable {url : String} {sites : Table LabelNetwork} {g g' : Memory} {op : Operation}
  {net : LabelNetwork} {reference : String} {outcome : Outcome}

/-! ## Calls on any grid -/

/-- After an address was published there may be one more record, of the host of the operation. -/
def Publishes (g : Memory) (op : Operation) (a : Address) (g' : Memory) : Prop :=
  g' = g ∨ ∃ host, op.host = some host ∧ g' = (g.insertRecord host (toString a)).2

lemma Names.publishes (h : Names sites op net reference) (hfailure : g.failure = none)
    (a : Address) : Publishes g op a (published (backend (Memory.client url) sites) op g a) := by
  rw [published]
  cases hhost : op.host with
  | none => exact .inl rfl
  | some host =>
      rw [Option.isSome_some, if_pos rfl, h.createDns_apply hfailure hhost]
      split_ifs
      · exact .inr ⟨host, hhost, rfl⟩
      · exact .inl rfl

/-- What a delete for an address may delete: the fixed addresses of the address in the view, and its
records of the host of the operation. -/
def Withdraws (g : Memory) (op : Operation) (net : LabelNetwork) (a : Address) (key : String) :
    Prop :=
  (∃ o, g.fixed.get? key = some o ∧ o.view = net.view ∧ o.address = toString a) ∨
    ∃ r, g.records.get? key = some r ∧ op.host = some r.name ∧ r.address = toString a

lemma Names.released_apply (h : Names sites op net reference) (url : String) (htidy : g.Tidy)
    (hfailure : g.failure = none) (a : Address) :
    ∃ keys, released (backend (Memory.client url) sites) op g a = g.without keys ∧
      ∀ key ∈ keys, Withdraws g op net a key := by
  obtain ⟨keys, hrelease, hkeys⟩ := h.release_apply url htidy hfailure a
  cases hhost : op.host with
  | none =>
      refine ⟨keys, ?_, fun key hkey => .inl ((hkeys key).1 hkey)⟩
      simp only [released, hhost, hrelease]
      rfl
  | some host =>
      obtain ⟨keys', hdelete, hkeys'⟩ :=
        h.deleteDns_apply url (htidy.without keys) hfailure hhost a
      refine ⟨keys ++ keys', ?_, fun key hkey => ?_⟩
      · simp only [released, hhost, hrelease, Option.isSome_some, if_true, hdelete,
          Memory.without_without]
      · rcases List.mem_append.1 hkey with hkey | hkey
        · exact .inl ((hkeys key).1 hkey)
        · obtain ⟨r, hr, rfl, haddress⟩ := (hkeys' key).1 hkey
          rw [Memory.get?_records_without] at hr
          split_ifs at hr
          exact .inr ⟨r, hr, hhost, haddress⟩

/-- A host of the network of a label, as the label gives it or as its text is read by the grid. -/
def LabelNetwork.Reaches (net : LabelNetwork) (a : Address) : Prop :=
  net.network.contains a = true ∨ Memory.isHostText net.cidr (toString a) = true

/-- Asking for one address changes nothing, or reserves the address. -/
lemma Names.allocate_cases (h : Names sites op net reference) (url : String)
    (hfailure : g.failure = none) (a : Address) :
    ((backend (Memory.client url) sites).allocate op a g).2 = g ∨
      (net.Reaches a ∧ g.isTaken net.view (toString a) = false ∧
        ((backend (Memory.client url) sites).allocate op a g).2
          = (g.insertFixed net.view a reference).2) := by
  change (allocate (Memory.client url) sites op a g).2 = g ∨ (_ ∧ _ ∧
    (allocate (Memory.client url) sites op a g).2 = _)
  simp only [allocate, Call.bind_apply, Infoblox.requireReference_apply, h.reference,
    h.networkOf_apply]
  by_cases hcontains : net.network.contains a = true
  · simp only [hcontains, Bool.not_true, Bool.false_eq_true, if_false, Call.bind_apply]
    have hsame := reads_boundAddress url reference net g
    generalize boundAddress (Memory.client url) reference net g = answer at hsame ⊢
    obtain ⟨_ | _ | b, s⟩ := answer <;> change s = g at hsame <;> subst s
    · exact .inl rfl
    · simp only [Call.bind_apply, fixedAt, onGrid_fixedAddresses hfailure]
      cases g.selectFixed [("ipv4addr", toString a), ("network_view", net.view)] with
      | cons current rest =>
          left
          simp only
          split_ifs <;> rfl
      | nil =>
          have hcreate := onGrid_apply
            (fun g => g.createFixed net.view (toString a) reference) hfailure
          change onGrid ((Memory.client url).createFixed net.view (toString a) reference
            attributes) g = _ at hcreate
          simp only [Call.bind_apply, hcreate, Memory.createFixed, Address.toList_toString,
            Address.parseQuad?_quad]
          cases g.isCovered net.view (toString a) with
          | false => exact .inl rfl
          | true =>
              cases htaken : g.isTaken net.view (toString a) with
              | true => exact .inl rfl
              | false => exact .inr ⟨.inl hcontains, rfl, rfl⟩
    · left
      simp only
      split_ifs <;> rfl
  · left
    simp [hcontains, Call.bind_apply]

/-! ## One operation on any grid -/

/-- **What the coordinator can do with one operation on a grid.** -/
inductive Effect (url : String) (sites : Table LabelNetwork) (g : Memory) (op : Operation) :
    Outcome → Memory → Prop where
  /-- Nothing changes. -/
  | idle (outcome : Outcome) : Effect url sites g op outcome g
  /-- A create confirms an address and publishes it again. -/
  | confirmed {a : Address} {g' : Memory} (kind : op.kind = .create)
      (publishes : Publishes g op a g') : Effect url sites g op (.success op (some a)) g'
  /-- A create reserves an address and publishes it. -/
  | granted {net : LabelNetwork} {reference : String} {a : Address} {g' : Memory}
      (kind : op.kind = .create) (names : Names sites op net reference) (reaches : net.Reaches a)
      (free : g.isTaken net.view (toString a) = false)
      (publishes : Publishes (g.insertFixed net.view a reference).2 op a g') :
      Effect url sites g op (.success op (some a)) g'
  /-- A delete releases an address and withdraws it. -/
  | released {net : LabelNetwork} {reference : String} {a : Address} {keys : List String}
      (kind : op.kind = .delete) (names : Names sites op net reference)
      (bound : (boundAddress (Memory.client url) reference net g).1 = .ok (some a))
      (withdraws : ∀ key ∈ keys, Withdraws g op net a key) :
      Effect url sites g op (.success op none) (g.without keys)

lemma effect_of_eq (h : Effect url sites g op outcome g')
    (heq : process (backend (Memory.client url) sites) op g = (outcome, g')) :
    Effect url sites g op (process (backend (Memory.client url) sites) op g).1
      (process (backend (Memory.client url) sites) op g).2 := by
  rw [heq]
  exact h

lemma effect_of_same (h : (process (backend (Memory.client url) sites) op g).2 = g) :
    Effect url sites g op (process (backend (Memory.client url) sites) op g).1
      (process (backend (Memory.client url) sites) op g).2 :=
  effect_of_eq (.idle _) (Prod.ext rfl h)

lemma Names.effect_plain (h : Names sites op net reference) (hfailure : g.failure = none)
    (hkind : op.kind = .create) (hplain : op.recorded = none) :
    Effect url sites g op (process (backend (Memory.client url) sites) op g).1
      (process (backend (Memory.client url) sites) op g).2 := by
  have hrun := Coordinator.process_plain (backend (Memory.client url) sites) op g hkind hplain
  have hsame := reads_lookup url sites op g
  generalize (backend (Memory.client url) sites).lookup op g = found at hrun hsame
  obtain ⟨_ | _ | b, s⟩ := found <;> change s = g at hsame <;> subst s
  · exact effect_of_eq (.idle _) hrun
  · simp only [h.allocateNext_eq hfailure] at hrun
    cases hcall : g.allocateNext net.view net.cidr reference with
    | error e =>
        rw [hcall] at hrun
        exact effect_of_eq (.idle _) hrun
    | ok answer =>
        obtain ⟨o, g'⟩ := answer
        obtain ⟨a, hhost, hfree, haddress, hinsert⟩ := Memory.allocateNext_eq_ok hcall
        simp only [hcall, haddress, addressOf_toString] at hrun
        have hfailure' : g'.failure = none := hinsert ▸ hfailure
        exact effect_of_eq
          (.granted hkind h (.inr hhost) hfree (hinsert ▸ h.publishes hfailure' a)) hrun
  · exact effect_of_eq (.idle _) hrun

lemma Names.effect_recorded (h : Names sites op net reference) (hfailure : g.failure = none)
    (hkind : op.kind = .create) {text : String} (hrecorded : op.recorded = some text) :
    Effect url sites g op (process (backend (Memory.client url) sites) op g).1
      (process (backend (Memory.client url) sites) op g).2 := by
  have hrun :=
    Coordinator.process_recorded (backend (Memory.client url) sites) op g hkind hrecorded
  cases hparse : Address.parse? text with
  | none =>
      rw [hparse] at hrun
      exact effect_of_eq (.idle _) hrun
  | some a =>
      simp only [hparse] at hrun
      have hatomic := atomic_allocate url sites op a g
      have hcases := h.allocate_cases url hfailure a
      generalize (backend (Memory.client url) sites).allocate op a g = answer
        at hrun hatomic hcases
      obtain ⟨e | _, g'⟩ := answer
      · obtain rfl : g' = g := hatomic e rfl
        exact effect_of_eq (.idle _) hrun
      · rcases hcases with hsame | ⟨hreaches, hfree, hinsert⟩
        · obtain rfl : g' = g := hsame
          exact effect_of_eq (.confirmed hkind (h.publishes hfailure a)) hrun
        · change g' = (g.insertFixed net.view a reference).2 at hinsert
          have hfailure' : g'.failure = none := hinsert ▸ hfailure
          exact effect_of_eq
            (.granted hkind h hreaches hfree (hinsert ▸ h.publishes hfailure' a)) hrun

lemma Names.effect_delete (h : Names sites op net reference) (htidy : g.Tidy)
    (hfailure : g.failure = none) (hkind : op.kind = .delete) :
    Effect url sites g op (process (backend (Memory.client url) sites) op g).1
      (process (backend (Memory.client url) sites) op g).2 := by
  have hrun := Coordinator.process_delete (backend (Memory.client url) sites) op g hkind
  have hsame := reads_boundAddress url reference net g
  rw [h.lookup_eq] at hrun
  cases hfound : boundAddress (Memory.client url) reference net g with
  | mk found s =>
      rw [hfound] at hrun hsame
      obtain rfl : s = g := hsame
      obtain _ | _ | a := found
      · exact effect_of_eq (.idle _) hrun
      · exact effect_of_eq (.idle _) hrun
      · obtain ⟨keys, hreleased, hkeys⟩ := h.released_apply url htidy hfailure a
        simp only [hreleased] at hrun
        exact effect_of_eq (.released hkind h (congrArg Prod.fst hfound) hkeys) hrun

/-- **The coordinator does nothing else with an operation on a grid.** -/
theorem process_effect (url : String) (sites : Table LabelNetwork) (htidy : g.Tidy)
    (op : Operation) :
    Effect url sites g op (process (backend (Memory.client url) sites) op g).1
      (process (backend (Memory.client url) sites) op g).2 := by
  by_cases hfailure : g.failure = none
  · by_cases hnames : ∃ net reference, Names sites op net reference
    · obtain ⟨net, reference, h⟩ := hnames
      cases hkind : op.kind with
      | create =>
          cases hrecorded : op.recorded with
          | none => exact h.effect_plain hfailure hkind hrecorded
          | some text => exact h.effect_recorded hfailure hkind hrecorded
      | delete => exact h.effect_delete htidy hfailure hkind
    · have hstop : ∀ net reference, ¬ Names sites op net reference :=
        fun net reference h => hnames ⟨net, reference, h⟩
      have hlookup : Call.Fails ((backend (Memory.client url) sites).lookup op) g :=
        checks_of_not_names hstop (fun reference net =>
          boundAddress (Memory.client url) reference net) g
      have hallocate : ∀ a, Call.Fails ((backend (Memory.client url) sites).allocate op a) g :=
        fun a => checks_of_not_names hstop _ g
      exact effect_of_same (Coordinator.process_of_fails hlookup hallocate).1
  · exact effect_of_same (process_of_outage hfailure op).1

/-! ## What an operation changes -/

/-- The address that an operation is about: the one that a create is answered, or the one that a
delete finds. -/
def handled? (url : String) (sites : Table LabelNetwork) (g : Memory) (op : Operation)
    (outcome : Outcome) : Option Address :=
  match op.kind with
  | .create => outcome.address?
  | .delete => match ((backend (Memory.client url) sites).lookup op g).1 with
    | .ok a => a
    | .error _ => none

lemma handled?_of_create (hkind : op.kind = .create) (a : Option Address) :
    handled? url sites g op (.success op a) = a := by
  rw [handled?, hkind]
  rfl

lemma Names.handled?_of_delete (h : Names sites op net reference) (hkind : op.kind = .delete)
    {a : Address} (hbound : (boundAddress (Memory.client url) reference net g).1 = .ok (some a)) :
    handled? url sites g op outcome = some a := by
  simp only [handled?, hkind, h.lookup_eq, hbound]

/-- The address that is found for a reference is that of a fixed address of its name in the network.
-/
lemma exists_fixed_of_boundAddress (htidy : g.Tidy) {a : Address}
    (hbound : (boundAddress (Memory.client url) reference net g).1 = .ok (some a)) :
    ∃ key o, g.fixed.get? key = some o ∧ o.name = reference ∧ o.view = net.view ∧
      o.address = toString a ∧ Memory.isHostText net.cidr (toString a) = true := by
  by_cases hfailure : g.failure = none
  · simp only [boundAddress, Call.bind_apply, onGrid_fixedAddresses hfailure] at hbound
    cases hfound : g.selectFixed
        [("name", reference), ("network_view", net.view), ("network", net.cidr)] with
    | nil =>
        rw [hfound] at hbound
        cases hbound
    | cons first rest =>
        obtain ⟨⟨key, hkey⟩, hname, hview, hhost⟩ :=
          mem_boundAt_iff.1 (hfound ▸ List.mem_cons_self (a := first) (l := rest))
        obtain ⟨-, -, b, hb⟩ := htidy.fixed key first hkey
        simp only [hfound, Call.bind_apply, hb, addressOf_toString] at hbound
        obtain rfl : b = a := by simpa using hbound
        exact ⟨key, first, hkey, hname, hview, hb, hb ▸ hhost⟩
  · obtain ⟨e, he⟩ := fails_boundAddress url hfailure reference net
    rw [he] at hbound
    cases hbound

lemma Publishes.fixed {a : Address} (h : Publishes g op a g') : g'.fixed = g.fixed := by
  rcases h with rfl | ⟨host, -, rfl⟩ <;> rfl

lemma Publishes.failure_eq {a : Address} (h : Publishes g op a g') : g'.failure = g.failure := by
  rcases h with rfl | ⟨host, -, rfl⟩ <;> rfl

lemma Publishes.orderly {a : Address} (h : Publishes g op a g') (hg : g.Orderly) : g'.Orderly := by
  rcases h with rfl | ⟨host, -, rfl⟩
  · exact hg
  · exact hg.insertRecord host a

/-- A record that is there stays. -/
lemma Publishes.get?_records {a : Address} (h : Publishes g op a g') (htidy : g.Tidy) {key : String}
    {r : HostRecord} (hr : g.records.get? key = some r) : g'.records.get? key = some r := by
  rcases h with rfl | ⟨host, -, rfl⟩
  · exact hr
  · unfold Memory.insertRecord
    rw [Memory.insertRecord_reference]
    have hnew := htidy.records_new s!"{host}/default"
    rw [Table.get?_insert, if_neg, hr]
    rintro rfl
    rw [hr] at hnew
    cases hnew

namespace Effect

/-- **An operation keeps a grid orderly.** -/
theorem orderly (h : Effect url sites g op outcome g') (hg : g.Orderly) : g'.Orderly := by
  cases h with
  | idle => exact hg
  | confirmed _ publishes => exact publishes.orderly hg
  | granted _ _ _ free publishes => exact publishes.orderly (hg.insertFixed free _)
  | released => exact hg.without _

lemma failure_eq (h : Effect url sites g op outcome g') : g'.failure = g.failure := by
  cases h with
  | idle | released => rfl
  | confirmed _ publishes | granted _ _ _ _ publishes => exact publishes.failure_eq

/-- **The fixed addresses that an operation makes or deletes** are in the network of its label, under
its reference, and all for the address that it is about. -/
theorem differs (h : Effect url sites g op outcome g') (hg : g.Orderly) {o : FixedAddress}
    (hdiffers : Differs g g' o) :
    ∃ net reference a, Names sites op net reference ∧ net.Reaches a ∧
      handled? url sites g op outcome = some a ∧
      o.view = net.view ∧ o.address = toString a ∧ o.name = reference := by
  cases h with
  | idle =>
      obtain ⟨key, hne, -⟩ := hdiffers
      exact absurd rfl hne
  | confirmed _ publishes =>
      obtain ⟨key, hne, -⟩ := hdiffers
      rw [publishes.fixed] at hne
      exact absurd rfl hne
  | @granted net reference a _ kind names reaches free publishes =>
      rw [Differs, publishes.fixed] at hdiffers
      obtain ⟨hview, haddress, hname⟩ := Memory.differs_insertFixed hg.tidy hdiffers
      exact ⟨net, reference, a, names, reaches, handled?_of_create kind _, hview, haddress, hname⟩
  | @released net reference a keys kind names bound withdraws =>
      obtain ⟨key, hkey, ho⟩ := Memory.differs_without hdiffers
      obtain ⟨key', o', ho', hname, hview, haddress, hhost⟩ :=
        exists_fixed_of_boundAddress hg.tidy bound
      rcases withdraws key hkey with ⟨other, hother, hview', haddress'⟩ | ⟨r, hr, -⟩
      · -- The address is reserved once only, so this is the fixed address that was found.
        cases ho.symm.trans hother
        cases hg.exclusive key key' o o' ho ho' (hview'.trans hview.symm)
          (haddress'.trans haddress.symm)
        cases ho.symm.trans ho'
        exact ⟨net, reference, a, names, .inr hhost, names.handled?_of_delete kind bound, hview,
          haddress, hname⟩
      · exact ((hg.tidy.fixed key o ho).2.1.kinds_ne (hg.tidy.records key r hr).2.1).elim

/-- **The host records that an operation deletes** are of its own host name, for the address that it
is about. -/
theorem get?_records (h : Effect url sites g op outcome g') (hg : g.Orderly) {key : String}
    {r : HostRecord} (hr : g.records.get? key = some r) :
    g'.records.get? key = some r ∨
      (op.kind = .delete ∧ op.host = some r.name ∧
        ∃ a, handled? url sites g op outcome = some a ∧ r.address = toString a) := by
  cases h with
  | idle => exact .inl hr
  | confirmed _ publishes => exact .inl (publishes.get?_records hg.tidy hr)
  | @granted net reference a _ kind names reaches free publishes =>
      exact .inl (publishes.get?_records (hg.tidy.insertFixed net.view a reference).tidy hr)
  | @released net reference a keys kind names bound withdraws =>
      rw [Memory.get?_records_without]
      split_ifs with hkey
      · right
        rcases withdraws key hkey with ⟨o, ho, -⟩ | ⟨r', hr', hhost, haddress⟩
        · exact ((hg.tidy.fixed key o ho).2.1.kinds_ne (hg.tidy.records key r hr).2.1).elim
        · cases hr.symm.trans hr'
          exact ⟨kind, hhost, a, names.handled?_of_delete kind bound, haddress⟩
      · exact .inl hr

end Effect

end Ipam.Infoblox
