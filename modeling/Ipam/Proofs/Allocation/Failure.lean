import Ipam.Proofs.Allocation.Deployment
import Ipam.Proofs.Coordinator.Desired
import Ipam.Proofs.Coordinator.Runs

/-!
# Operations that fail

An operation that fails may have made several calls before it failed.  This file says that none of
them leaves a trace, in a store or in a grid.

* `Call.Reads`, `Call.Atomic` — calls that change nothing, and calls that change nothing if they
  fail; how both are kept when calls follow one another.
* `Traceless` — everything that changes nothing: what fails, and deletes of what is not bound.
* `Coordinator.snd_process_of_failed` — over calls that are atomic, an operation that fails has
  changed nothing.
* `Local.Effect.refused_of_token` — a create that asks for the placeholder token of another free row
  fails.
* **`failures_leave_no_trace`** — both backends, every operation, every state.
-/

namespace Ipam

variable {σ α β ε : Type}

/-! ## Calls that leave the state alone -/

namespace Call

/-- A call that changes nothing. -/
def Reads (x : ExceptT ε (StateM σ) α) : Prop :=
  ∀ s, (x s).2 = s

/-- A call that changes nothing if it fails. -/
def Atomic (x : ExceptT ε (StateM σ) α) : Prop :=
  ∀ s e, (x s).1 = .error e → (x s).2 = s

/-- A call that fails in a state, and changes nothing there. -/
def Fails (x : ExceptT ε (StateM σ) α) (s : σ) : Prop :=
  ∃ e, x s = (.error e, s)

variable {x : ExceptT ε (StateM σ) α} {f : α → ExceptT ε (StateM σ) β}

lemma Reads.atomic (h : Reads x) : Atomic x := fun s _ _ => h s

lemma reads_pure (value : α) : Reads (pure value : ExceptT ε (StateM σ) α) := fun _ => rfl

lemma reads_throw (e : ε) : Reads (throw e : ExceptT ε (StateM σ) α) := fun _ => rfl

lemma Reads.bind (hx : Reads x) (hf : ∀ value, Reads (f value)) : Reads (x >>= f) := by
  intro s
  have hsame := hx s
  rw [bind_apply]
  generalize x s = answer at hsame ⊢
  obtain ⟨_ | value, s'⟩ := answer
  · exact hsame
  · cases hsame
    exact hf value s'

/-- Calls that only read leave the state of the call before. -/
lemma snd_bind_of_reads (hf : ∀ value, Reads (f value)) (s : σ) : ((x >>= f) s).2 = (x s).2 := by
  rw [bind_apply]
  generalize x s = answer
  obtain ⟨_ | value, s'⟩ := answer
  · rfl
  · exact hf value s'

lemma reads_forM {f : α → ExceptT ε (StateM σ) Unit} (hf : ∀ value, Reads (f value))
    (values : List α) : Reads (values.forM f) := by
  induction values with
  | nil => exact reads_pure ()
  | cons value rest ih => exact (hf value).bind fun _ => ih

/-- After calls that only read, one atomic call may follow. -/
lemma Reads.bind_atomic (hx : Reads x) (hf : ∀ value, Atomic (f value)) : Atomic (x >>= f) := by
  intro s e
  have hsame := hx s
  rw [bind_apply]
  generalize x s = answer at hsame ⊢
  obtain ⟨_ | value, s'⟩ := answer
  · exact fun _ => hsame
  · cases hsame
    exact hf value s' e

/-- Calls that only read do not get past a call that fails. -/
lemma Reads.bind_fails {s : σ} (hx : Reads x) (hf : ∀ value, Fails (f value) s) :
    Fails (x >>= f) s := by
  have hsame := hx s
  rw [Fails, bind_apply]
  generalize x s = answer at hsame ⊢
  obtain ⟨e | value, s'⟩ := answer
  · cases hsame
    exact ⟨e, rfl⟩
  · cases hsame
    exact hf value

lemma Fails.bind {s : σ} (hx : Fails x s) : Fails (x >>= f) s := by
  obtain ⟨e, he⟩ := hx
  exact ⟨e, by rw [bind_apply, he]⟩

/-- After an atomic call, whatever follows must not fail. -/
lemma Atomic.bind_of_ok (hx : Atomic x)
    (hf : ∀ s value, (x s).1 = .ok value → ∀ s' e, (f value s').1 ≠ .error e) :
    Atomic (x >>= f) := by
  intro s e
  have hatomic := hx s
  have hok := hf s
  rw [bind_apply]
  generalize x s = answer at hatomic hok ⊢
  obtain ⟨cause | value, s'⟩ := answer
  · exact fun _ => hatomic cause rfl
  · exact fun herror => absurd herror (hok value rfl s' e)

end Call

/-! ## Operations on any backend -/

namespace Coordinator

variable {backend : Backend σ} {op : Operation} {s : σ}

/-- A delete succeeds without an address. -/
lemma fst_process_of_delete (hkind : op.kind = .delete) :
    (process backend op s).1 = .success op none := by
  rw [process_delete _ _ _ hkind]
  rcases backend.lookup op s with ⟨_ | _ | _, _⟩ <;> rfl

/-- **If look-ups only read and allocations are atomic, an operation that fails changes nothing.**
-/
theorem snd_process_of_failed (hlookup : Call.Reads (backend.lookup op))
    (hnext : Call.Atomic (backend.allocateNext op))
    (hexact : ∀ a, Call.Atomic (backend.allocate op a))
    (hfailed : (process backend op s).1.verdict = .failed) : (process backend op s).2 = s := by
  cases hkind : op.kind with
  | delete =>
      rw [fst_process_of_delete hkind] at hfailed
      cases hfailed
  | create =>
      cases hrecorded : op.recorded with
      | none =>
          rw [process_plain _ _ _ hkind hrecorded] at hfailed ⊢
          have hsame := hlookup s
          generalize backend.lookup op s = found at hsame hfailed ⊢
          obtain ⟨_ | _ | _, s'⟩ := found
          · exact hsame
          · cases hsame
            have hatomic := hnext s'
            simp only at hfailed ⊢
            generalize backend.allocateNext op s' = answer at hatomic hfailed ⊢
            obtain ⟨e | _, _⟩ := answer
            · exact hatomic e rfl
            · cases hfailed
          · exact hsame
      | some text =>
          rw [process_recorded _ _ _ hkind hrecorded] at hfailed ⊢
          generalize Address.parse? text = parsed at hfailed ⊢
          obtain _ | a := parsed
          · rfl
          · have hatomic := hexact a s
            simp only at hfailed ⊢
            generalize backend.allocate op a s = answer at hatomic hfailed ⊢
            obtain ⟨e | _, _⟩ := answer
            · exact hatomic e rfl
            · cases hfailed

/-- **If look-ups and allocations fail, nothing changes,** and no create succeeds. -/
theorem process_of_fails (hlookup : Call.Fails (backend.lookup op) s)
    (hexact : ∀ a, Call.Fails (backend.allocate op a) s) :
    (process backend op s).2 = s ∧
      (op.kind = .create → (process backend op s).1 = .failure op) := by
  obtain ⟨e, hlookup⟩ := hlookup
  cases hkind : op.kind with
  | delete => simp [process_delete _ _ _ hkind, hlookup]
  | create =>
      cases hrecorded : op.recorded with
      | none => simp [process_plain _ _ _ hkind hrecorded, hlookup]
      | some text =>
          rw [process_recorded _ _ _ hkind hrecorded]
          cases Address.parse? text with
          | none => simp
          | some a =>
              obtain ⟨e, hallocate⟩ := hexact a
              simp [hallocate]

end Coordinator

open Coordinator (process)

/-- What an operation leaves as it is: everything if it fails, and everything if it deletes what is
not bound.  Deletes never fail. -/
structure Traceless (backend : Backend σ) (op : Operation) (s : σ) (bound : Prop) : Prop where
  failed : (process backend op s).1.verdict = .failed → (process backend op s).2 = s
  unbound : op.kind = .delete → ¬ bound → (process backend op s).2 = s
  delete : op.kind = .delete → (process backend op s).1 = .success op none

/-! ## The local backend -/

namespace Local

open Pool (TokenSource)

variable {tokens : TokenSource} {s s' : Store} {op : Operation} {outcome : Outcome} {p : Pool}
  {reference : String} {a b : Address}

/-- The reference of an operation owns an address of its pool. -/
def IsBound (s : Store) (op : Operation) : Prop :=
  ∃ p reference a, Names s op p reference ∧ ⟨a, .bound reference⟩ ∈ p.rows

/-- On a store, everything that fails and every delete of what is not bound leaves no trace. -/
lemma Effect.store_eq (h : Effect tokens s op outcome s') (hs : s.Valid)
    (hidle : outcome.verdict = .failed ∨ (op.kind = .delete ∧ ¬ IsBound s op)) : s' = s := by
  cases h with
  | refused | absent => rfl
  | confirmed kind | bound kind =>
      rcases hidle with hfailed | ⟨hdelete, -⟩
      · cases hfailed
      · cases kind.symm.trans hdelete
  | freed _ names owned | stuck _ names owned =>
      rcases hidle with hfailed | ⟨-, hunbound⟩
      · cases hfailed
      · exact absurd ⟨_, _, _, names, (Pool.owned?_eq_some_iff (hs _ _ names.pool)).1 owned⟩
          hunbound

/-- **A create that asks for the placeholder token of another free row fails.** -/
theorem Effect.refused_of_token (h : Effect tokens s op outcome s') (hs : s.Valid)
    (hkind : op.kind = .create) (names : Names s op p reference) (hasks : Asks op p a)
    (hne : b ≠ a) (htoken : ⟨b, .free reference⟩ ∈ p.rows) : outcome = .failure op := by
  have hp := hs _ _ names.pool
  cases h with
  | refused => rfl
  | @confirmed q other c _ names' confirms =>
      -- A row bound to the reference would be the free row.
      obtain ⟨rfl, rfl⟩ := names.unique names'
      have hrow := hp.eq_of_reference ((Pool.owned?_eq_some_iff hp).1 confirms.owned) htoken rfl
      cases hrow
  | @bound q other c _ names' binds =>
      obtain ⟨rfl, rfl⟩ := names.unique names'
      obtain rfl := hasks.unique binds.asked
      exact absurd rfl (Pool.carriesElsewhere_eq_false_iff.1 binds.unique _ htoken hne)
  | absent kind | freed kind | stuck kind => cases hkind.symm.trans kind

lemma traceless (tokens : TokenSource) (hs : s.Valid) (op : Operation) :
    Traceless (backend tokens) op s (IsBound s op) where
  failed hfailed := (process_effect tokens hs op).store_eq hs (.inl hfailed)
  unbound hkind hunbound := (process_effect tokens hs op).store_eq hs (.inr ⟨hkind, hunbound⟩)
  delete hkind := Coordinator.fst_process_of_delete hkind

end Local

/-! ## The Infoblox backend -/

namespace Infoblox

open Grid (Memory)

variable {url : String} {sites : Table LabelNetwork} {op : Operation} {g : Memory}

/-- The reference of an operation has a fixed address in the network of its pool. -/
def IsBound (sites : Table LabelNetwork) (g : Memory) (op : Operation) : Prop :=
  ∃ net reference, Names sites op net reference ∧ ∃ key o, g.fixed.get? key = some o ∧
    o.name = reference ∧ o.view = net.view ∧ Memory.isHostText net.cidr o.address = true

/-! ### Every call reads or is atomic -/

/-- A call to a grid in memory changes nothing if it fails. -/
lemma atomic_onGrid (f : Memory → Except Grid.GridError (α × Memory)) :
    Call.Atomic (onGrid (Memory.call f)) := by
  intro g e
  simp only [onGrid, Memory.call, ExceptT.run]
  rcases g.failure with _ | _
  · rcases f g with _ | _
    · exact fun _ => rfl
    · exact fun herror => by cases herror
  · exact fun _ => rfl

/-- A view of a grid in memory changes nothing. -/
lemma reads_onGrid (f : Memory → α) : Call.Reads (onGrid (Memory.view f)) := by
  intro g
  simp only [onGrid, Memory.view, Memory.call, ExceptT.run]
  rcases g.failure with _ | _ <;> rfl

lemma reads_addressOf (text : String) : Call.Reads (addressOf text : AllocationM σ Address) := by
  intro s
  rw [addressOf]
  cases Address.parse? text <;> rfl

lemma reads_requireReference (op : Operation) :
    Call.Reads (Backend.requireReference op : AllocationM Memory String) := by
  intro g
  rw [requireReference_apply]
  cases op.reference? <;> rfl

lemma reads_networkOf (sites : Table LabelNetwork) (op : Operation) :
    Call.Reads (networkOf sites op : AllocationM Memory LabelNetwork) := by
  intro g
  rw [networkOf_apply]
  split_ifs
  · rfl
  · cases sites.get? op.pool <;> rfl

lemma reads_boundAddress (url reference : String) (net : LabelNetwork) :
    Call.Reads (boundAddress (Memory.client url) reference net) := by
  refine (reads_onGrid _).bind fun found => ?_
  cases found with
  | nil => exact Call.reads_pure _
  | cons first => exact (reads_addressOf first.address).bind fun _ => Call.reads_pure _

lemma reads_lookup (url : String) (sites : Table LabelNetwork) (op : Operation) :
    Call.Reads ((backend (Memory.client url) sites).lookup op) :=
  (reads_requireReference op).bind fun reference =>
    (reads_networkOf sites op).bind fun net => reads_boundAddress url reference net

lemma atomic_allocateNext (op : Operation) :
    Call.Atomic ((backend (Memory.client url) sites).allocateNext op) := by
  refine (reads_requireReference op).bind_atomic fun reference => ?_
  refine (reads_networkOf sites op).bind_atomic fun net => ?_
  refine (atomic_onGrid fun g => g.allocateNext net.view net.cidr reference).bind_of_ok ?_
  -- The address that was reserved is read back, which cannot fail.
  intro g o ho g' e herror
  have hreserved : ∃ g'', g.allocateNext net.view net.cidr reference = .ok (o, g'') := by
    simp only [onGrid, Memory.call, ExceptT.run] at ho
    cases hfailure : g.failure with
    | some message =>
        rw [hfailure] at ho
        cases ho
    | none =>
        rw [hfailure] at ho
        cases hcall : g.allocateNext net.view net.cidr reference with
        | error cause =>
            rw [hcall] at ho
            cases ho
        | ok result =>
            rw [hcall] at ho
            cases ho
            exact ⟨_, rfl⟩
  obtain ⟨g'', hreserved⟩ := hreserved
  obtain ⟨a, -, -, ha, -⟩ := Memory.allocateNext_eq_ok hreserved
  rw [ha, addressOf_toString] at herror
  cases herror

lemma atomic_allocate (url : String) (sites : Table LabelNetwork) (op : Operation) (a : Address) :
    Call.Atomic ((backend (Memory.client url) sites).allocate op a) := by
  refine (reads_requireReference op).bind_atomic fun reference => ?_
  refine (reads_networkOf sites op).bind_atomic fun net => ?_
  by_cases hcontains : net.network.contains a = true
  · simp only [hcontains, Bool.not_true, Bool.false_eq_true, if_false]
    refine (reads_boundAddress url reference net).bind_atomic fun bound => ?_
    cases bound with
    | some b =>
        simp only
        split_ifs
        · exact (Call.reads_pure _).atomic
        · exact (Call.reads_throw _).atomic
    | none =>
        refine (reads_onGrid _).bind_atomic fun found => ?_
        cases found with
        | cons current rest =>
            simp only
            split_ifs
            · exact (Call.reads_pure _).atomic
            · exact (Call.reads_throw _).atomic
        | nil =>
            refine (atomic_onGrid fun g =>
              g.createFixed net.view (toString a) reference).bind_of_ok ?_
            intro _ _ _ _ _ herror
            cases herror
  · simp only [hcontains, Bool.not_false, if_true]
    exact fun _ _ _ => rfl

/-! ### Outages, and references that are not bound -/

/-- While the grid is out of order, every look-up fails. -/
lemma fails_boundAddress (url : String) (hfailure : g.failure ≠ none) (reference : String)
    (net : LabelNetwork) :
    Call.Fails (boundAddress (Memory.client url) reference net) g := by
  obtain ⟨message, hmessage⟩ := Option.ne_none_iff_exists'.1 hfailure
  refine Call.Fails.bind ⟨.grid (.outage message), ?_⟩
  simp [onGrid, Memory.client, Memory.view, Memory.call, ExceptT.run, hmessage]

/-- While the grid is out of order, nothing is reserved. -/
lemma fails_allocate (hfailure : g.failure ≠ none) (op : Operation) (a : Address) :
    Call.Fails ((backend (Memory.client url) sites).allocate op a) g := by
  refine (reads_requireReference op).bind_fails fun reference => ?_
  refine (reads_networkOf sites op).bind_fails fun net => ?_
  by_cases hcontains : net.network.contains a = true
  · simp only [hcontains, Bool.not_true, Bool.false_eq_true, if_false]
    exact (fails_boundAddress url hfailure reference net).bind
  · simp only [hcontains, Bool.not_false, if_true]
    exact ⟨_, rfl⟩

/-- **While the grid is out of order, nothing changes,** and no create succeeds. -/
theorem process_of_outage (hfailure : g.failure ≠ none) (op : Operation) :
    (process (backend (Memory.client url) sites) op g).2 = g ∧
      (op.kind = .create →
        (process (backend (Memory.client url) sites) op g).1 = .failure op) := by
  refine Coordinator.process_of_fails ?_ (fails_allocate hfailure op)
  exact (reads_requireReference op).bind_fails fun reference =>
    (reads_networkOf sites op).bind_fails fun net => fails_boundAddress url hfailure reference net

/-- A reference without a fixed address has none to be found. -/
lemma boundAddress_of_not_isBound {net : LabelNetwork} {reference : String}
    (names : Names sites op net reference) (hfailure : g.failure = none)
    (hunbound : ¬ IsBound sites g op) :
    boundAddress (Memory.client url) reference net g = (.ok none, g) := by
  rw [boundAddress, Call.bind_apply, onGrid_fixedAddresses hfailure]
  cases hfound : g.selectFixed
      [("name", reference), ("network_view", net.view), ("network", net.cidr)] with
  | nil => rfl
  | cons first rest =>
      obtain ⟨⟨key, hkey⟩, hname, hview, hhost⟩ :=
        mem_boundAt_iff.1 (hfound ▸ List.mem_cons_self (a := first) (l := rest))
      exact absurd ⟨net, reference, names, key, first, hkey, hname, hview, hhost⟩ hunbound

/-- A delete of what is not bound changes nothing. -/
lemma snd_process_of_not_isBound (hkind : op.kind = .delete) (hunbound : ¬ IsBound sites g op) :
    (process (backend (Memory.client url) sites) op g).2 = g := by
  by_cases hfailure : g.failure = none
  · rw [Coordinator.process_delete _ _ _ hkind]
    by_cases hnames : ∃ net reference, Names sites op net reference
    · obtain ⟨net, reference, names⟩ := hnames
      have hlookup : (backend (Memory.client url) sites).lookup op g = (.ok none, g) :=
        (names.lookup_eq url g).trans (boundAddress_of_not_isBound names hfailure hunbound)
      rw [hlookup]
    · obtain ⟨e, hlookup⟩ := checks_of_not_names
        (fun net reference names => hnames ⟨net, reference, names⟩)
        (fun reference net => boundAddress (Memory.client url) reference net) g
      change (backend (Memory.client url) sites).lookup op g = _ at hlookup
      rw [hlookup]
  · exact (process_of_outage hfailure op).1

lemma traceless (url : String) (sites : Table LabelNetwork) (op : Operation) (g : Memory) :
    Traceless (backend (Memory.client url) sites) op g (IsBound sites g op) where
  failed := Coordinator.snd_process_of_failed (reads_lookup url sites op) (atomic_allocateNext op)
    (atomic_allocate url sites op)
  unbound := snd_process_of_not_isBound
  delete := Coordinator.fst_process_of_delete

end Infoblox

/-! ## Both backends -/

/-- **What fails leaves no trace.**  On every reachable store and on every grid, an operation that
fails changes nothing, nor does a delete of what is not bound, and deletes never fail.  A create
whose reference is the placeholder token of a free row, other than that of the address it asks for,
is one of those that fail; and while a grid is out of order, nothing at all changes it. -/
theorem failures_leave_no_trace (tokens : Pool.TokenSource) (url : String)
    (sites : Table Infoblox.LabelNetwork) (op : Operation) :
    (∀ s, Local.Reachable s →
      Traceless (Local.backend tokens) op s (Local.IsBound s op) ∧
      ∀ p reference a b, op.kind = .create → Local.Names s op p reference →
        Local.Asks op p a → b ≠ a → ⟨b, .free reference⟩ ∈ p.rows →
        process (Local.backend tokens) op s = (.failure op, s)) ∧
    ∀ g : Grid.Memory,
      Traceless (Infoblox.backend (Grid.Memory.client url) sites) op g
        (Infoblox.IsBound sites g op) ∧
      (g.failure ≠ none →
        (process (Infoblox.backend (Grid.Memory.client url) sites) op g).2 = g) := by
  refine ⟨fun s hs => ⟨Local.traceless tokens hs.valid op, ?_⟩, fun g =>
    ⟨Infoblox.traceless url sites op g, fun hfailure =>
      (Infoblox.process_of_outage hfailure op).1⟩⟩
  intro p reference a b hkind names hasks hne htoken
  have heffect := Local.process_effect tokens hs.valid op
  have hrefused := heffect.refused_of_token hs.valid hkind names hasks hne htoken
  refine Prod.ext hrefused (heffect.store_eq hs.valid (.inl ?_))
  rw [hrefused]
  rfl

/-- The network of the label `lan` in the grid `Infoblox.pairGrid`. -/
def Infoblox.pairSites : Table Infoblox.LabelNetwork :=
  Table.empty.insert "lan" ⟨"default", "10.0.0.0/30", ⟨.ofNat 0x0A000000, 30⟩⟩

/-- A host with the token of the second free address for its name, a delete of a host that is not
bound, and a create during an outage. -/
theorem failures_leave_no_trace_of_pair :
    (∃ report, Local.start Pool.Token.dashes Pool.pairConfig ∅ = .ok (report, Local.pairStore)) ∧
    process (Local.backend Pool.Token.dashes) (.create ⟨"web", "prod"⟩ (some "-") none "lan")
        Local.pairStore
      = (.failure (.create ⟨"web", "prod"⟩ (some "-") none "lan"), Local.pairStore) ∧
    (process (Local.backend Pool.Token.dashes) (.delete ⟨"web", "prod"⟩ (some "www") none "lan")
        Local.pairStore).2 = Local.pairStore ∧
    (process (Infoblox.backend (Grid.Memory.client "https://grid") Infoblox.pairSites)
        (.create ⟨"web", "prod"⟩ (some "www") none "lan")
        { Infoblox.pairGrid with failure := some "maintenance" }).2
      = { Infoblox.pairGrid with failure := some "maintenance" } := by
  have hreachable := Local.reachable_of_start Local.start_pairConfig
  refine ⟨⟨_, Local.start_pairConfig⟩, ?_, ?_, ?_⟩
  · exact ((failures_leave_no_trace Pool.Token.dashes "https://grid" Infoblox.pairSites _).1 _ hreachable).2
      _ "-" (.ofNat 0x0A000001) (.ofNat 0x0A000002) rfl ⟨rfl, by decide, rfl⟩ rfl (by decide)
      (by decide)
  · refine ((failures_leave_no_trace Pool.Token.dashes "https://grid" Infoblox.pairSites _).1 _
      hreachable).1.unbound rfl ?_
    rintro ⟨p, reference, a, ⟨-, -, hpool⟩, hrow⟩
    cases hpool
    simp at hrow
  · exact ((failures_leave_no_trace Pool.Token.dashes "https://grid" Infoblox.pairSites _).2 _).2 (by simp)

end Ipam
