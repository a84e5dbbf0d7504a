import Ipam.Proofs.Coordinator.Resync

/-!
# Resuming one resource after the other

A controller that starts again lists all resources and takes them one after the other, each with its
recorded addresses first.  But the plain creates of one resource come before the recorded addresses
of the next, and may take them.

* `Reconcile.relist` — the operations for resources that are seen first, in order.
* `Local.Relistable` — what the statuses have to be like.
* `Local.lookup_relist_iff_admits` — a recorded address is bound in the end exactly if the store
  still admits it when its resource comes.
* **`Local.lookup_relist_iff`** — this is so exactly if no plain create of an earlier resource was
  answered the address for another reference, or another address for the reference; and it is always
  so if the earlier resources ask for nothing in this pool that they do not record.
-/

namespace Ipam

open Pool (TokenSource)

namespace Reconcile

variable {rs : List Resource} {op : Operation}

/-- The operations for resources that are seen first, one resource after the other. -/
def relist (rs : List Resource) : List Operation :=
  rs.flatMap onCreate

lemma relist_append_cons (earlier later : List Resource) (r : Resource) :
    relist (earlier ++ r :: later)
      = relist earlier ++ (replays r.ref r.records ++ ((stale r ++ requested r) ++ relist later)) := by
  simp only [relist, List.flatMap_append, List.flatMap_cons, onCreate_phases, List.append_assoc]

/-- All that a resource wants in a pool is recorded. -/
def RecordsAll (r : Resource) (label : String) : Prop :=
  ∀ k ∈ keys r.requests, ∀ reference, k.Names label reference →
    ∃ record ∈ r.records, record.bindingKey.Names label reference

/-- Where all that is recorded is wanted, there are no deletes. -/
lemma kind_of_mem_relist
    (hwanted : ∀ r ∈ rs, ∀ record ∈ r.records, record.bindingKey ∈ keys r.requests)
    (h : op ∈ relist rs) : op.kind = .create := by
  obtain ⟨r, hr, hop⟩ := List.mem_flatMap.1 h
  cases hkind : op.kind with
  | create => rfl
  | delete =>
      obtain ⟨-, -, -, record, hrecord, hstale, -⟩ := mem_stale (mem_stale_of_delete hop hkind)
      exact absurd (hwanted r hr record hrecord) hstale

end Reconcile

namespace Local

open Coordinator (process)
open Reconcile

variable {tokens : TokenSource} {s : Store} {earlier later : List Resource} {r : Resource}
  {record : Record} {label reference : String} {a : Address}

/-- What statuses have to be like so that their resources can be resumed one after the other. -/
structure Relistable (s : Store) (rs : List Resource) : Prop where
  /-- What is recorded is still wanted. -/
  wanted : ∀ r ∈ rs, ∀ record ∈ r.records, record.bindingKey ∈ keys r.requests
  /-- All records together share neither a reference nor an address of a pool. -/
  apart : (rs.flatMap Resource.records).Pairwise Record.Apart
  /-- Every record is complete, and its address is free or bound to its reference.  The reference
  is no token. -/
  placed : ∀ r ∈ rs, ∀ record ∈ r.records, ∃ label reference a,
    record.Asserts label reference a ∧ s.Admits label reference a ∧ s.Untaken label reference

namespace Relistable

lemma placed_of_asserts {rs : List Resource} (h : Relistable s rs) (hr : r ∈ rs)
    (hrecord : record ∈ r.records) (hasserts : record.Asserts label reference a) :
    s.Admits label reference a ∧ s.Untaken label reference := by
  obtain ⟨pool, name, b, hasserts', hplaced⟩ := h.placed r hr record hrecord
  obtain ⟨rfl, rfl, rfl⟩ := hasserts.unique hasserts'
  exact hplaced

lemma pairwise {rs : List Resource} (h : Relistable s rs) (hr : r ∈ rs) :
    r.records.Pairwise Record.Apart :=
  (List.pairwise_flatMap.1 h.apart).1 r hr

/-- Records of different resources are apart. -/
lemma apart_of_earlier (h : Relistable s (earlier ++ r :: later)) {other : Resource}
    (hother : other ∈ earlier) {x : Record} (hx : x ∈ other.records) (hrecord : record ∈ r.records) :
    x.Apart record := by
  have happart := h.apart
  rw [List.flatMap_append, List.flatMap_cons] at happart
  exact (List.pairwise_append.1 happart).2.2 x (List.mem_flatMap.2 ⟨other, hother, hx⟩) record
    (List.mem_append_left _ hrecord)

end Relistable

section Listed

variable (hs : Reachable s) (h : Relistable s (earlier ++ r :: later))
  (hrecord : record ∈ r.records) (hasserts : record.Asserts label reference a)

include hs h hrecord hasserts

/-- **A recorded address is bound in the end exactly if the store admits it when its resource
comes.** -/
lemma lookup_relist_iff_admits :
    (after tokens s (relist (earlier ++ r :: later))).lookup label reference = some a ↔
      (after tokens s (relist earlier)).Admits label reference a := by
  have hkinds : ∀ op ∈ relist (earlier ++ r :: later), op.kind = .create := fun op =>
    kind_of_mem_relist h.wanted
  have hr : r ∈ earlier ++ r :: later := List.mem_append_right _ List.mem_cons_self
  have hreach := hs.after tokens (relist earlier)
  rw [relist_append_cons] at hkinds ⊢
  obtain ⟨hbefore, hafter⟩ := List.forall_mem_append.1 hkinds
  rw [after_append]
  constructor
  · intro hold
    exact ((admits_after_creates hreach hafter).1 (.inl hold)).1
  · intro hadmits
    have huntaken : (after tokens s (relist earlier)).Untaken label reference := by
      refine untaken_after hs (fun op hop hdelete => ?_)
        (h.placed_of_asserts hr hrecord hasserts).2
      cases (hbefore op hop).symm.trans hdelete
    rw [after_append]
    refine (lookup_after_creates (hreach.after tokens _) (List.forall_mem_append.1 hafter).2).2 ?_
    exact .inl (lookup_after_replays hreach (h.pairwise hr) hrecord hasserts hadmits huntaken)

/-- Recorded addresses of earlier resources are not in the way of a recorded address. -/
lemma admits_relist_iff :
    (after tokens s (relist earlier)).Admits label reference a ↔
      ∀ step ∈ history tokens s ((relist earlier).map .operation),
        ∀ op, step.event = .operation op → op.recorded = none →
          ∀ other b, step.Grants tokens label other b → (other = reference ↔ b = a) := by
  have hr : r ∈ earlier ++ r :: later := List.mem_append_right _ List.mem_cons_self
  have hkinds : ∀ op ∈ relist earlier, op.kind = .create := fun op => kind_of_mem_relist
    fun r hr => h.wanted r (List.mem_append_left _ hr)
  rw [admits_after_creates hs hkinds,
    and_iff_right (h.placed_of_asserts hr hrecord hasserts).1]
  constructor
  · intro hall step hstep op _ _
    exact hall step hstep
  · intro hplain step hstep other b hgrants
    obtain ⟨front, op, back, heq, rfl⟩ := mem_history_iff.1 hstep
    by_cases hrecorded : op.recorded = none
    · exact hplain _ hstep op rfl hrecorded other b hgrants
    · have hmem : op ∈ relist earlier := heq ▸ List.mem_append_right _ List.mem_cons_self
      obtain ⟨owner, howner, hop⟩ := List.mem_flatMap.1 hmem
      obtain ⟨x, hx, hreplay⟩ := exists_record hop hrecorded
      obtain ⟨_, hevent, -, hconcerns, hanswer⟩ := hgrants
      cases hevent
      have hother := asserts_of_answer (hs.after tokens front) hreplay hconcerns hanswer
      obtain ⟨hne, hne'⟩ := h.apart_of_earlier howner hx hrecord label other reference b a hother
        hasserts
      exact iff_of_false hne hne'

end Listed

/-- Resources that ask for nothing but what they record leave each other's addresses alone.  The
induction is on the number of earlier resources: their own addresses are kept, so these are what
their plain creates are answered. -/
lemma lookup_relist_of_recordsAll (hs : Reachable s) (h : Relistable s (earlier ++ r :: later))
    (hrecord : record ∈ r.records) (hasserts : record.Asserts label reference a)
    (hall : ∀ other ∈ earlier, RecordsAll other label) :
    (after tokens s (relist (earlier ++ r :: later))).lookup label reference = some a := by
  induction hn : earlier.length using Nat.strong_induction_on generalizing earlier later r record
    reference a with
  | _ n ih =>
      have hkinds : ∀ op ∈ relist (earlier ++ r :: later), op.kind = .create := fun op =>
        kind_of_mem_relist h.wanted
      rw [lookup_relist_iff_admits hs h hrecord hasserts, admits_relist_iff hs h hrecord hasserts]
      intro step hstep op hevent hplain other b hgrants
      have hanswered : (after tokens s (relist (earlier ++ r :: later))).lookup label other
          = some b := by
        refine (lookup_after_creates hs hkinds).2 (.inr ⟨step, ?_, hgrants⟩)
        rw [relist_append_cons, history_append]
        exact List.mem_append_left _ hstep
      obtain ⟨front, _, back, heq, rfl⟩ := mem_history_iff.1 hstep
      cases hevent
      obtain ⟨_, hevent, hkind, hconcerns, -⟩ := hgrants
      cases hevent
      have hmem : op ∈ relist earlier := heq ▸ List.mem_append_right _ List.mem_cons_self
      obtain ⟨owner, howner, hop⟩ := List.mem_flatMap.1 hmem
      obtain ⟨-, -, -, k, hk, hfor⟩ := mem_requested (mem_requested_of_plain hop hkind hplain)
      obtain ⟨x, hx, hnames⟩ := hall owner howner k hk other (hfor.concerns_iff.1 hconcerns)
      obtain ⟨pool, name, c, hother, -⟩ := h.placed owner (List.mem_append_left _ howner) x hx
      obtain ⟨rfl, rfl⟩ := hnames.unique hother.names
      obtain ⟨hne, hne'⟩ := h.apart_of_earlier howner hx hrecord label other reference c a hother
        hasserts
      obtain ⟨sooner, between, rfl⟩ := List.append_of_mem howner
      have hsplit : (sooner ++ owner :: between) ++ r :: later
          = sooner ++ owner :: (between ++ r :: later) := by simp
      rw [hsplit] at h hanswered
      have hshorter : sooner.length < n := by
        rw [← hn]
        simp
      have hkept := ih sooner.length hshorter h hx hother
        (fun e he => hall e (List.mem_append_left _ he)) rfl
      cases hkept.symm.trans hanswered
      exact iff_of_false hne hne'

/-- **A recorded address is bound after a relist exactly if no plain create of an earlier resource
was answered the address for another reference, or another address for the reference.**  So it is
if the earlier resources ask for nothing in this pool that they do not record. -/
theorem lookup_relist_iff (hs : Reachable s) (h : Relistable s (earlier ++ r :: later))
    (hrecord : record ∈ r.records) (hasserts : record.Asserts label reference a) :
    ((after tokens s (relist (earlier ++ r :: later))).lookup label reference = some a ↔
      ∀ step ∈ history tokens s ((relist earlier).map .operation),
        ∀ op, step.event = .operation op → op.recorded = none →
          ∀ other b, step.Grants tokens label other b → (other = reference ↔ b = a)) ∧
    ((∀ other ∈ earlier, RecordsAll other label) →
      (after tokens s (relist (earlier ++ r :: later))).lookup label reference = some a) :=
  ⟨(lookup_relist_iff_admits hs h hrecord hasserts).trans
      (admits_relist_iff hs h hrecord hasserts),
    lookup_relist_of_recordsAll hs h hrecord hasserts⟩

/-! ### Two addresses for three resources -/

/-- A resource that is new. -/
def newcomer : Resource where
  metadata := { name := some "a", ns := some "prod" }
  requests := [{ host := some "a", label := some "lan" }]
  status := none

/-- A resource that records the first address. -/
def veteran : Resource where
  metadata := { name := some "b", ns := some "prod" }
  requests := [{ host := some "b", label := some "lan" }]
  status := some { records := [{ host := some "b", label := some "lan", ip := "10.0.0.1" }] }

/-- A resource that records the other one. -/
def peer : Resource where
  metadata := { name := some "c", ns := some "prod" }
  requests := [{ host := some "c", label := some "lan" }]
  status := some { records := [{ host := some "c", label := some "lan", ip := "10.0.0.2" }] }

lemma asserts_of_veteran (hrecord : record ∈ veteran.records) :
    record.Asserts "lan" "b" (.ofNat 0x0A000001) := by
  obtain rfl := List.mem_singleton.1 hrecord
  exact ⟨⟨by decide, by decide⟩, by decide +kernel⟩

lemma asserts_of_peer (hrecord : record ∈ peer.records) :
    record.Asserts "lan" "c" (.ofNat 0x0A000002) := by
  obtain rfl := List.mem_singleton.1 hrecord
  exact ⟨⟨by decide, by decide⟩, by decide +kernel⟩

/-- Both recorded addresses are free at the start, and no host is a token. -/
lemma relistable_of_apart {rs : List Resource} (hrs : ∀ r ∈ rs, r ∈ [newcomer, veteran, peer])
    (happart : (rs.flatMap Resource.records).Pairwise Record.Apart) : Relistable pairStore rs where
  wanted r hr := by
    have hall : ∀ r ∈ [newcomer, veteran, peer], ∀ record ∈ r.records,
        record.bindingKey ∈ keys r.requests := by decide
    exact hall r (hrs r hr)
  apart := happart
  placed r hr record hrecord := by
    have hsupplied := (sound_of_start start_pairConfig).supplied
    have hmem := hrs r hr
    simp only [List.mem_cons, List.not_mem_nil, or_false] at hmem
    rcases hmem with rfl | rfl | rfl
    · cases hrecord
    · exact ⟨_, _, _, asserts_of_veteran hrecord, .inr ⟨rfl, _, List.mem_cons_self⟩,
        hsupplied.untaken (Pool.Token.dashes_ne (by decide))⟩
    · exact ⟨_, _, _, asserts_of_peer hrecord,
        .inr ⟨rfl, _, List.mem_cons_of_mem _ List.mem_cons_self⟩,
        hsupplied.untaken (Pool.Token.dashes_ne (by decide))⟩

/-- A resource that asks for nothing new may come first. -/
theorem lookup_relist_of_peer :
    Relistable pairStore [peer, veteran] ∧
      (after Pool.Token.dashes pairStore (relist [peer, veteran])).lookup "lan" "b"
        = some (.ofNat 0x0A000001) := by
  have happart : ([peer, veteran].flatMap Resource.records).Pairwise Record.Apart := by
    refine List.pairwise_pair.2 fun label reference other a b hpeer hveteran => ?_
    obtain ⟨-, rfl, rfl⟩ := hpeer.unique (asserts_of_peer List.mem_cons_self)
    obtain ⟨-, rfl, rfl⟩ := hveteran.unique (asserts_of_veteran List.mem_cons_self)
    decide
  have hlist : Relistable pairStore ([peer] ++ veteran :: []) :=
    relistable_of_apart (by simp) happart
  refine ⟨hlist, (lookup_relist_iff (reachable_of_start start_pairConfig) hlist List.mem_cons_self
    (asserts_of_veteran List.mem_cons_self)).2 fun other hother k hk reference hnames => ?_⟩
  obtain rfl := List.mem_singleton.1 hother
  obtain rfl := List.mem_singleton.1 hk
  exact ⟨_, List.mem_cons_self, hnames⟩

/-- **A resource that asks for something new may take an address that a later one records.**  All
addresses are free, and no two records are about the same one. -/
theorem not_kept_of_newcomer :
    Reachable pairStore ∧ (∀ label reference, pairStore.lookup label reference = none) ∧
      Relistable pairStore [newcomer, veteran] ∧
      (∀ record ∈ veteran.records, record.Asserts "lan" "b" (.ofNat 0x0A000001)) ∧
      (after Pool.Token.dashes pairStore (relist [newcomer, veteran])).lookup "lan" "b"
        = some (.ofNat 0x0A000002) := by
  refine ⟨reachable_of_start start_pairConfig, fun label reference => ?_,
    relistable_of_apart (by simp) (List.pairwise_singleton _ _), fun record => asserts_of_veteran,
    rfl⟩
  rw [Option.eq_none_iff_forall_ne_some]
  exact fun a hold => not_binds_of_start start_pairConfig label reference ⟨a, hold⟩

end Local

end Ipam
