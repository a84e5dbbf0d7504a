import Ipam.Proofs.Reconcile
import Ipam.Proofs.Status

/-!
# Between the store and a status

Operations on their way to the store and outcomes on their way to the status are all that can keep
the two apart.  `Flow` is this part of a controller, whatever queues it is spread over.

* `Flow` — operations, store, outcomes and status; `Flow.upcoming`, the status once all outcomes are
  written.
* `Flow.Agrees` — the upcoming status and the store say the same about a binding.
* `Flow.Sound` — the invariant: every binding agrees, or an operation that will make it agree is
  queued.
* **`Flow.Sound.enqueue`**, **`Flow.Sound.work`**, **`Flow.Sound.write`** — the three ways in which
  a flow moves keep it sound.
* `Flow.sound_of_created`, `Flow.Sound.updated` — the operations for a change, seen as such moves.
* **`Flow.Sound.agrees_of_idle`** — once nothing is on its way, status and store agree.

A recorded address may be refused although the store binds the reference to another one; its outcome
then makes the status wrong.  This is why every operation with a recorded address has to be followed
by one without.
-/

namespace Ipam

open Pool (TokenSource)

namespace Cluster

/-- What is on its way between a store and a status. -/
structure Flow where
  /-- The operations that are still to be carried out, oldest first. -/
  queued : List Operation
  store : Store
  /-- The outcomes that are still to be written, oldest first. -/
  outcomes : List Outcome
  /-- The status. -/
  records : List Record

namespace Flow

/-- The status once all outcomes are written. -/
def upcoming (f : Flow) : List Record :=
  f.outcomes.foldl (fun records outcome => Status.fold outcome records) f.records

/-- The upcoming status and the store say the same about a binding. -/
def Agrees (f : Flow) (k : BindingKey) : Prop :=
  Status.recorded? k f.upcoming = (f.store.addressOf k).map toString

/-- A queued operation will settle a binding, whatever comes before it. -/
def Settles (ops : List Operation) (k : BindingKey) : Prop :=
  ∃ op ∈ ops, op.IsFor k ∧ op.recorded = none

/-- Every operation with a recorded address is followed by one without, for the same binding. -/
def Followed : List Operation → Prop
  | [] => True
  | op :: rest =>
    (op.recorded ≠ none → ∀ k, op.IsFor k → Settles rest k) ∧ Followed rest

/-- No two complete bindings share a reference in a pool. -/
def Separate (tracked : BindingKey → Prop) : Prop :=
  ∀ k l, tracked k → tracked l → k.isComplete = true → l.isComplete = true →
    k.pool = l.pool → k.reference? = l.reference? → k = l

/-- The invariant of a flow that issues operations for the tracked bindings of one resource. -/
structure Sound (owner : ResourceRef) (tracked : BindingKey → Prop) (f : Flow) : Prop where
  valid : f.store.Valid
  labelled : f.store.Labelled
  distinct : Status.Distinct f.upcoming
  queued : ∀ op ∈ f.queued, op.owner = owner ∧ ∃ k, tracked k ∧ op.IsFor k
  outcomes : ∀ outcome ∈ f.outcomes, outcome.operation.owner = owner
  followed : Followed f.queued
  settled : ∀ k, tracked k → k.isComplete = true → f.Agrees k ∨ Settles f.queued k

variable {owner : ResourceRef} {tracked : BindingKey → Prop} {f : Flow}

/-! ## Lists of operations -/

lemma Settles.mono {ops more : List Operation} {k : BindingKey} (h : Settles ops k)
    (hsub : ∀ op ∈ ops, op ∈ more) : Settles more k := by
  obtain ⟨op, hop, hfor⟩ := h
  exact ⟨op, hsub op hop, hfor⟩

lemma followed_of_plain {ops : List Operation} (h : ∀ op ∈ ops, op.recorded = none) :
    Followed ops := by
  induction ops with
  | nil => trivial
  | cons op rest ih =>
      obtain ⟨hop, hrest⟩ := List.forall_mem_cons.1 h
      exact ⟨fun hrecorded => absurd hop hrecorded, ih hrest⟩

/-- Operations whose bindings are settled later may stand in front. -/
lemma followed_append {front ops : List Operation} (hops : Followed ops)
    (hfront : ∀ op ∈ front, op.recorded ≠ none → ∀ k, op.IsFor k → Settles ops k) :
    Followed (front ++ ops) := by
  induction front with
  | nil => exact hops
  | cons op rest ih =>
      obtain ⟨hop, hrest⟩ := List.forall_mem_cons.1 hfront
      refine ⟨fun hrecorded k hk => ?_, ih hrest⟩
      exact (hop hrecorded k hk).mono fun _ => List.mem_append_right _

lemma Followed.append {ops more : List Operation} (h : Followed ops) (hmore : Followed more) :
    Followed (ops ++ more) := by
  induction ops with
  | nil => exact hmore
  | cons op rest ih =>
      obtain ⟨hop, hrest⟩ := h
      refine ⟨fun hrecorded k hk => ?_, ih hrest⟩
      exact (hop hrecorded k hk).mono fun _ => List.mem_append_left _

/-! ## Operations and addresses -/

section Work

variable {tokens : TokenSource} {s s' : Store} {op : Operation} {outcome : Outcome} {k : BindingKey}

/-- An operation for one binding leaves the addresses of all others alone. -/
lemma addressOf_of_ne (h : Local.Effect tokens s op outcome s') (hs : s.Valid) (hl : s.Labelled)
    (hnew : Local.DrawsNew tokens s op) (hsep : Separate tracked) {l : BindingKey} (hk : tracked k)
    (hl' : tracked l) (hop : op.IsFor l) (hcomplete : k.isComplete = true) (hne : k ≠ l) :
    s'.addressOf k = s.addressOf k := by
  obtain ⟨label, reference, hnames⟩ := BindingKey.exists_names hcomplete
  rw [Store.addressOf_eq _ hnames, Store.addressOf_eq _ hnames]
  refine h.lookup_of_not_concerns hs hl hnew fun hconcerns => hne ?_
  refine hsep k l hk hl' hcomplete hop.complete ?_ ?_
  · rw [hnames.pool, hop.pool, hconcerns.pool]
  · rw [hnames.reference, ← hop.reference, hconcerns.reference]

/-- **What an operation without recorded address leads to is what the status makes of it.** -/
lemma recordedBy_eq (h : Local.Effect tokens s op outcome s') (hs : s.Valid) (hl : s.Labelled)
    (hnew : Local.DrawsNew tokens s op) (hop : op.IsFor k) (hplain : op.recorded = none)
    (before : Option String) :
    Status.recordedBy outcome before = (s'.addressOf k).map toString := by
  obtain ⟨label, reference, hnames⟩ := BindingKey.exists_names hop.complete
  have hconcerns := hop.concerns_iff.2 hnames
  rw [Store.addressOf_eq _ hnames]
  obtain ⟨heq, hcreate⟩ := h.outcome_eq
  cases hkind : op.kind with
  | create =>
      rcases hcreate hkind with hfailed | ⟨a, hanswer⟩
      · rw [h.lookup_of_failure hl hplain hconcerns hfailed]
        simp [Status.recordedBy, heq, hkind, hfailed]
      · rw [h.lookup_of_answer hs hl hkind hconcerns hanswer]
        simp [Status.recordedBy, heq, hkind, hanswer]
  | delete =>
      rw [h.lookup_of_delete hs hl hnew hkind hconcerns]
      simp [Status.recordedBy, heq, hkind]

end Work

/-! ## How a flow moves -/

/-- **New operations keep a flow sound** if they settle all bindings that were not tracked before.
-/
theorem Sound.enqueue (h : f.Sound owner tracked) {ops : List Operation}
    {tracked' : BindingKey → Prop} (hmono : ∀ k, tracked k → tracked' k)
    (hops : ∀ op ∈ ops, op.owner = owner ∧ ∃ k, tracked' k ∧ op.IsFor k) (hfollowed : Followed ops)
    (hnew : ∀ k, tracked' k → k.isComplete = true → tracked k ∨ Settles ops k) :
    { f with queued := f.queued ++ ops }.Sound owner tracked' where
  valid := h.valid
  labelled := h.labelled
  distinct := h.distinct
  queued := by
    intro op hop
    rcases List.mem_append.1 hop with hold | hadded
    · obtain ⟨howner, k, hk, hfor⟩ := h.queued op hold
      exact ⟨howner, k, hmono k hk, hfor⟩
    · exact hops op hadded
  outcomes := h.outcomes
  followed := h.followed.append hfollowed
  settled := by
    intro k hk hcomplete
    rcases hnew k hk hcomplete with hold | hsettles
    · rcases h.settled k hold hcomplete with hagrees | hsettles
      · exact .inl hagrees
      · exact .inr (hsettles.mono fun _ => List.mem_append_left _)
    · exact .inr (hsettles.mono fun _ => List.mem_append_right _)

/-- **Carrying out an operation keeps a flow sound.**  An operation without recorded address makes
its binding agree; one with a recorded address leaves this to the operation that follows it. -/
theorem Sound.work {tokens : TokenSource} (h : f.Sound owner tracked) (hsep : Separate tracked)
    {op : Operation} {rest : List Operation} (hqueued : f.queued = op :: rest)
    (hnew : Local.DrawsNew tokens f.store op) {outcome : Outcome} {store : Store}
    (heffect : Local.Effect tokens f.store op outcome store) :
    Sound owner tracked
      { f with queued := rest, store := store, outcomes := f.outcomes ++ [outcome] } := by
  obtain ⟨howner, l, hl, hfor⟩ := h.queued op (hqueued ▸ List.mem_cons_self)
  have hoperation := heffect.outcome_eq.1
  have hupcoming : upcoming
      { f with queued := rest, store := store, outcomes := f.outcomes ++ [outcome] }
      = Status.fold outcome f.upcoming := by
    simp [upcoming]
  have hrecorded := fun k => Status.recorded?_fold h.distinct outcome k
  rw [hoperation, hfor.bindingKey] at hrecorded
  obtain ⟨hfollowed, hrest⟩ := hqueued ▸ h.followed
  refine ⟨heffect.valid h.valid, heffect.labelled h.labelled, ?_, ?_, ?_, hrest, ?_⟩
  · rw [hupcoming]
    exact Status.distinct_fold h.distinct outcome
  · exact fun other hother => h.queued other (hqueued ▸ List.mem_cons_of_mem _ hother)
  · intro other hother
    rcases List.mem_append.1 hother with hold | hadded
    · exact h.outcomes other hold
    · rw [List.mem_singleton.1 hadded, hoperation, howner]
  · intro k hk hcomplete
    simp only [Agrees, hupcoming, hrecorded]
    by_cases hthis : k = l
    · subst hthis
      rw [if_pos rfl]
      by_cases hplain : op.recorded = none
      · exact .inl (recordedBy_eq heffect h.valid h.labelled hnew hfor hplain _)
      · exact .inr (hfollowed hplain k hfor)
    · rw [if_neg hthis, addressOf_of_ne heffect h.valid h.labelled hnew hsep hk hl hfor hcomplete
        hthis]
      rcases h.settled k hk hcomplete with hagrees | ⟨other, hother, hotherFor, hplain⟩
      · exact .inl hagrees
      · refine .inr ⟨other, ?_, hotherFor, hplain⟩
        rcases List.mem_cons.1 (hqueued ▸ hother) with rfl | hmem
        · exact absurd (hotherFor.unique hfor) hthis
        · exact hmem

/-- **Writing an outcome keeps a flow sound**, since the upcoming status stays what it is. -/
theorem Sound.write (h : f.Sound owner tracked) {outcome : Outcome} {rest : List Outcome}
    (houtcomes : f.outcomes = outcome :: rest) :
    Sound owner tracked { f with outcomes := rest, records := Status.fold outcome f.records } := by
  have hupcoming : upcoming { f with outcomes := rest, records := Status.fold outcome f.records }
      = f.upcoming := by
    rw [upcoming, upcoming, houtcomes]
    rfl
  refine ⟨h.valid, h.labelled, hupcoming ▸ h.distinct, h.queued, ?_, h.followed, ?_⟩
  · exact fun other hother => h.outcomes other (houtcomes ▸ List.mem_cons_of_mem _ hother)
  · intro k hk hcomplete
    rw [Agrees, hupcoming]
    exact h.settled k hk hcomplete

/-- **Once nothing is on its way, the status and the store agree.** -/
theorem Sound.agrees_of_idle (h : f.Sound owner tracked) (hqueued : f.queued = [])
    (houtcomes : f.outcomes = []) {k : BindingKey} (hk : tracked k)
    (hcomplete : k.isComplete = true) :
    Status.recorded? k f.records = (f.store.addressOf k).map toString := by
  rcases h.settled k hk hcomplete with hagrees | ⟨op, hop, -⟩
  · rw [Agrees, upcoming, houtcomes] at hagrees
    exact hagrees
  · rw [hqueued] at hop
    cases hop

/-! ## The operations for a change -/

/-- The recorded addresses of a new resource come first, and its bindings are settled after them. -/
lemma followed_onCreate (r : Resource) : Followed (Reconcile.onCreate r) := by
  rw [Reconcile.onCreate_phases]
  refine followed_append (followed_of_plain fun op hop => (Reconcile.mem_settling hop).2.1) ?_
  intro op hop _ k hk
  obtain ⟨record, hrecord, hreplay⟩ := List.mem_filterMap.1 hop
  have hkey := (Reconcile.isFor_of_replay? hreplay).1.unique hk
  have hbinding : k ∈ Reconcile.bindings r :=
    List.mem_append_left _ (List.mem_map.2 ⟨record, hrecord, hkey⟩)
  obtain ⟨settler, hsettler, hfor⟩ := Reconcile.exists_settling hbinding hk.complete
  exact ⟨settler, hsettler, hfor, (Reconcile.mem_settling hsettler).2.1⟩

/-- **A resource that is seen for the first time starts a sound flow**, over any store. -/
theorem sound_of_created {r : Resource} {store : Store} (hs : store.Valid) (hl : store.Labelled)
    (hdistinct : Status.Distinct r.records) :
    Sound r.ref (· ∈ Reconcile.bindings r) ⟨Reconcile.onCreate r, store, [], r.records⟩ where
  valid := hs
  labelled := hl
  distinct := hdistinct
  queued op hop := Reconcile.mem_onCreate hop
  outcomes := by simp
  followed := followed_onCreate r
  settled k hk hcomplete := by
    obtain ⟨op, hop, hfor⟩ := Reconcile.exists_settling hk hcomplete
    refine .inr ⟨op, ?_, hfor, (Reconcile.mem_settling hop).2.1⟩
    change op ∈ Reconcile.onCreate r
    rw [Reconcile.onCreate_phases]
    exact List.mem_append_right _ hop

/-- **An update keeps a flow sound**, and its requests are tracked from then on. -/
theorem Sound.updated (h : f.Sound owner tracked) {old new : Resource} (hnew : new.ref = owner)
    (hold : ∀ k ∈ Reconcile.keys old.requests, tracked k) :
    Sound owner (fun k => tracked k ∨ k ∈ Reconcile.keys new.requests)
      { f with queued := f.queued ++ Reconcile.onUpdate old new } := by
  refine h.enqueue (fun k => .inl) (fun op hop => ?_) ?_ ?_
  · obtain ⟨howner, -, k, hk, hfor⟩ := Reconcile.mem_onUpdate hop
    exact ⟨howner.trans hnew, k, hk.imp_left (hold k), hfor⟩
  · exact followed_of_plain fun op hop => (Reconcile.mem_onUpdate hop).2.1
  · intro k hk hcomplete
    by_cases htracked : tracked k
    · exact .inl htracked
    · obtain ⟨op, hop, hfor, -⟩ := Reconcile.exists_create (hk.resolve_left htracked)
        (fun hmem => htracked (hold k hmem)) hcomplete
      exact .inr ⟨op, hop, hfor, (Reconcile.mem_onUpdate hop).2.1⟩

end Flow

end Cluster

end Ipam
