import Ipam.Proofs.Coordinator.Removal

/-!
# Pools do not interfere

An operation sees one pool and changes one pool, and in it one row and one DNS record.

* `Store.Agree`, `Store.AgreeUpTo` — two stores have the same under a label, or the same but for the
  token of one free row.
* `Local.handled?` — the address that an operation is about.
* `Local.Confined` — what an operation leaves alone; **`Local.Effect.confined`** says that every
  operation does.
* **`Local.Effect.outcome_eq_of_agree`**, **`Local.Effect.agreeUpTo`** — an operation on two stores
  that agree on its pool.
* **`Local.pools_stay_apart`** — all of this for reachable stores, and that operations on different
  pools commute.
-/

namespace Ipam

open Pool (Holder TokenSource)

namespace Store

variable {s t u : Store} {label x y : String}

/-! ## What belongs to one pool -/

/-- Two stores have the same under a label: the pool with its range text and its rows, and the DNS
records. -/
structure Agree (s t : Store) (label : String) : Prop where
  pool : s.pools.get? label = t.pools.get? label
  dns : ∀ record, record.pool = label → (record ∈ s.dns ↔ record ∈ t.dns)

/-- Two stores have the same under a label, but one row may be free under the token `x` in one of
them and under the token `y` in the other. -/
structure AgreeUpTo (x y : String) (s t : Store) (label : String) : Prop where
  pool : s.pools.get? label = t.pools.get? label ∨
    ∃ (p : Pool) (a : Address), s.pools.get? label = some (p.setHolder a (.free x)) ∧
      t.pools.get? label = some (p.setHolder a (.free y))
  dns : ∀ record, record.pool = label → (record ∈ s.dns ↔ record ∈ t.dns)

lemma Agree.refl (s : Store) (label : String) : s.Agree s label := ⟨rfl, fun _ _ => Iff.rfl⟩

lemma Agree.symm (h : s.Agree t label) : t.Agree s label :=
  ⟨h.pool.symm, fun record hrecord => (h.dns record hrecord).symm⟩

lemma Agree.trans (h : s.Agree t label) (h' : t.Agree u label) : s.Agree u label :=
  ⟨h.pool.trans h'.pool, fun record hrecord => (h.dns record hrecord).trans (h'.dns record hrecord)⟩

lemma Agree.upTo (h : s.Agree t label) (x y : String) : AgreeUpTo x y s t label :=
  ⟨.inl h.pool, h.dns⟩

lemma AgreeUpTo.symm (h : AgreeUpTo x y s t label) : AgreeUpTo y x t s label := by
  refine ⟨?_, fun record hrecord => (h.dns record hrecord).symm⟩
  rcases h.pool with heq | ⟨p, a, hs, ht⟩
  · exact .inl heq.symm
  · exact .inr ⟨p, a, ht, hs⟩

lemma AgreeUpTo.agree (h : AgreeUpTo x y s t label) (heq : x = y) : s.Agree t label := by
  refine ⟨?_, h.dns⟩
  rcases h.pool with hsame | ⟨p, a, hs, ht⟩
  · exact hsame
  · rw [hs, ht, heq]

lemma Agree.trans_upTo (h : s.Agree t label) (h' : AgreeUpTo x y t u label) :
    AgreeUpTo x y s u label :=
  ⟨h.pool ▸ h'.pool, fun record hrecord => (h.dns record hrecord).trans (h'.dns record hrecord)⟩

lemma Agree.setPool (h : s.Agree t label) (p : Pool) :
    (s.setPool label p).Agree (t.setPool label p) label where
  pool := by simp
  dns := h.dns

lemma Agree.published {op : Operation} (h : s.Agree t label) (a : Address) :
    (s.published op a).Agree (t.published op a) label where
  pool := by rw [pools_published, pools_published, h.pool]
  dns record hrecord := by rw [mem_dns_published, mem_dns_published, h.dns record hrecord]

lemma Agree.withdrawn {op : Operation} (h : s.Agree t label) (a : Address) :
    (s.withdrawn op a).Agree (t.withdrawn op a) label where
  pool := by rw [pools_withdrawn, pools_withdrawn, h.pool]
  dns record hrecord := by rw [mem_dns_withdrawn, mem_dns_withdrawn, h.dns record hrecord]

end Store

namespace Local

open Coordinator (process processAll)

variable {tokens tokens' : TokenSource} {s s' t t' : Store} {op : Operation}
  {outcome outcome' : Outcome}

/-! ## One pool, one row, one record -/

/-- The address that an operation is about: the one that a create is answered, or the one that is
bound to the reference of a delete. -/
def handled? (s : Store) (op : Operation) (outcome : Outcome) : Option Address :=
  match op.kind with
  | .create => outcome.address?
  | .delete => op.reference?.bind fun reference => s.lookup op.pool reference

lemma handled?_of_create (hkind : op.kind = .create) (a : Option Address) :
    handled? s op (.success op a) = a := by
  rw [handled?, hkind]
  rfl

lemma Names.handled?_of_delete {p : Pool} {reference : String} (h : Names s op p reference)
    (hkind : op.kind = .delete) : handled? s op outcome = p.owned? reference := by
  rw [handled?, hkind, ← h.lookup]
  simp [h.reference]

/-- An operation changes nothing but one row and one DNS record of its pool, and both are about the
same address. -/
structure Confined (tokens : TokenSource) (s : Store) (op : Operation) (outcome : Outcome)
    (s' : Store) : Prop where
  /-- Nothing that belongs to another pool changes. -/
  others : ∀ label, op.pool ≠ label → s.Agree s' label
  /-- No pool is configured, dropped or given another range text. -/
  ranges : ∀ label, s'.ranges.get? label = s.ranges.get? label
  /-- Only the row of the address changes: from free to bound to the reference of the operation, or
  from bound to it to free. -/
  row : ∀ a, s'.entry? op.pool a ≠ s.entry? op.pool a →
    handled? s op outcome = some a ∧ ∃ reference, op.reference? = some reference ∧
      ((op.kind = .create ∧
          (∃ token, s.entry? op.pool a = some ⟨op.pool, ⟨a, .free token⟩⟩) ∧
          s'.entry? op.pool a = some ⟨op.pool, ⟨a, .bound reference⟩⟩) ∨
        (op.kind = .delete ∧
          s.entry? op.pool a = some ⟨op.pool, ⟨a, .bound reference⟩⟩ ∧
          s'.entry? op.pool a = some ⟨op.pool, ⟨a, .free (tokens s.drawn)⟩⟩))
  /-- Only the record of the host of the operation for the address appears or disappears. -/
  record : ∀ record, ¬ (record ∈ s'.dns ↔ record ∈ s.dns) →
    record.pool = op.pool ∧ op.host = some record.host ∧
      handled? s op outcome = some record.address ∧ (op.kind = .create ↔ record ∈ s'.dns)

namespace Effect

/-- The pools under other labels. -/
lemma get?_of_ne (h : Effect tokens s op outcome s') {label : String} (hne : op.pool ≠ label) :
    s'.pools.get? label = s.pools.get? label := by
  rcases h.rewrites with hsame | ⟨p, a, holder, -, -, hset⟩
  · rw [hsame]
  · rw [hset, Store.pools_setPool, if_neg hne]

lemma row (h : Effect tokens s op outcome s') (hs : s.Valid) {a : Address}
    (hchanged : s'.entry? op.pool a ≠ s.entry? op.pool a) :
    handled? s op outcome = some a ∧ ∃ reference, op.reference? = some reference ∧
      ((op.kind = .create ∧
          (∃ token, s.entry? op.pool a = some ⟨op.pool, ⟨a, .free token⟩⟩) ∧
          s'.entry? op.pool a = some ⟨op.pool, ⟨a, .bound reference⟩⟩) ∨
        (op.kind = .delete ∧
          s.entry? op.pool a = some ⟨op.pool, ⟨a, .bound reference⟩⟩ ∧
          s'.entry? op.pool a = some ⟨op.pool, ⟨a, .free (tokens s.drawn)⟩⟩)) := by
  cases h with
  | refused | absent => exact absurd rfl hchanged
  | confirmed =>
      refine absurd (Store.entry?_congr ?_ a) hchanged
      split_ifs
      · rw [Store.pools_published]
      · rfl
  | stuck => exact absurd (Store.entry?_congr (by rw [Store.pools_withdrawn]) a) hchanged
  | @bound p reference b kind names binds =>
      have hp := hs _ _ names.pool
      have hafter : ((s.setPool op.pool (p.setHolder b (.bound reference))).published op b).pools.get?
          op.pool = some (p.setHolder b (.bound reference)) := by
        rw [Store.pools_published, Store.pools_setPool, if_pos rfl]
      obtain ⟨token, hfree⟩ := binds.free
      obtain rfl : a = b := by
        by_contra hne
        exact hchanged (Store.entry?_setHolder_of_ne names.pool hafter hne)
      refine ⟨handled?_of_create kind _, reference, names.reference, .inl ⟨kind, ⟨token, ?_⟩, ?_⟩⟩
      · exact Store.entry?_of_mem names.pool hp hfree
      · exact Store.entry?_of_mem hafter (Pool.setHolder_valid hp _ binds.unique)
          (Pool.mem_setHolder.2 (.inr ⟨rfl, _, hfree, rfl⟩))
  | @freed p reference b kind names owned new =>
      have hp := hs _ _ names.pool
      have hafter : (({ s.setPool op.pool (p.setHolder b (.free (tokens s.drawn))) with
          drawn := s.drawn + 1 } : Store).withdrawn op b).pools.get? op.pool
            = some (p.setHolder b (.free (tokens s.drawn))) := by
        rw [Store.pools_withdrawn]
        exact (Store.pools_setPool ..).trans (if_pos rfl)
      have hbound := (Pool.owned?_eq_some_iff hp).1 owned
      obtain rfl : a = b := by
        by_contra hne
        exact hchanged (Store.entry?_setHolder_of_ne names.pool hafter hne)
      refine ⟨(names.handled?_of_delete kind).trans owned, reference, names.reference,
        .inr ⟨kind, ?_, ?_⟩⟩
      · exact Store.entry?_of_mem names.pool hp hbound
      · exact Store.entry?_of_mem hafter (Pool.setHolder_valid hp _ new)
          (Pool.mem_setHolder.2 (.inr ⟨rfl, _, hbound, rfl⟩))

lemma record (h : Effect tokens s op outcome s') {record : DnsRecord}
    (hchanged : ¬ (record ∈ s'.dns ↔ record ∈ s.dns)) :
    record.pool = op.pool ∧ op.host = some record.host ∧
      handled? s op outcome = some record.address ∧ (op.kind = .create ↔ record ∈ s'.dns) := by
  -- A record that is published or withdrawn is about the address at hand.
  have hpublished : ∀ (u : Store) (a : Address), u.dns = s.dns → op.kind = .create →
      ¬ (record ∈ (u.published op a).dns ↔ record ∈ s.dns) →
      record.pool = op.pool ∧ op.host = some record.host ∧
        handled? s op (.success op (some a)) = some record.address ∧
        (op.kind = .create ↔ record ∈ (u.published op a).dns) := by
    intro u a hdns hkind hnot
    rw [handled?_of_create hkind]
    rw [Store.mem_dns_published, hdns] at hnot ⊢
    have hthis : record.pool = op.pool ∧ op.host = some record.host ∧ record.address = a := by
      by_contra hother
      exact hnot ⟨fun hmem => hmem.resolve_right hother, .inl⟩
    exact ⟨hthis.1, hthis.2.1, by rw [hthis.2.2], by simp [hkind, hthis]⟩
  have hwithdrawn : ∀ (u : Store) (p : Pool) (reference : String) (a : Address), u.dns = s.dns →
      op.kind = .delete → Names s op p reference → p.owned? reference = some a →
      ¬ (record ∈ (u.withdrawn op a).dns ↔ record ∈ s.dns) →
      record.pool = op.pool ∧ op.host = some record.host ∧
        handled? s op (.success op none) = some record.address ∧
        (op.kind = .create ↔ record ∈ (u.withdrawn op a).dns) := by
    intro u p reference a hdns hkind names owned hnot
    rw [names.handled?_of_delete hkind, owned]
    rw [Store.mem_dns_withdrawn, hdns] at hnot ⊢
    have hthis : record.pool = op.pool ∧ op.host = some record.host ∧ record.address = a := by
      by_contra hother
      exact hnot ⟨fun hmem => hmem.1, fun hmem => ⟨hmem, hother⟩⟩
    exact ⟨hthis.1, hthis.2.1, by rw [hthis.2.2], by simp [hkind, hthis]⟩
  cases h with
  | refused | absent => exact absurd Iff.rfl hchanged
  | @confirmed p reference a kind names confirms =>
      split_ifs at hchanged ⊢
      · exact hpublished s a rfl kind hchanged
      · exact absurd Iff.rfl hchanged
  | @bound p reference a kind names binds => exact hpublished _ a rfl kind hchanged
  | @freed p reference a kind names owned new =>
      exact hwithdrawn _ p reference a rfl kind names owned hchanged
  | @stuck p reference a kind names owned clash =>
      exact hwithdrawn s p reference a rfl kind names owned hchanged

/-- **An operation stays in its pool.** -/
theorem confined (h : Effect tokens s op outcome s') (hs : s.Valid) :
    Confined tokens s op outcome s' where
  others label hne := by
    refine ⟨(h.get?_of_ne hne).symm, fun record hrecord => ?_⟩
    by_contra hchanged
    exact hne ((h.record fun hsame => hchanged hsame.symm).1.symm.trans hrecord)
  ranges := h.ranges
  row _ := h.row hs
  record _ := h.record

end Effect

/-! ## Two stores that agree on a pool -/

lemma Names.of_agree {p : Pool} {reference : String} (h : Names s op p reference)
    (hagree : s.Agree t op.pool) : Names t op p reference :=
  ⟨h.reference, h.labelled, hagree.pool ▸ h.pool⟩

namespace Effect

/-- A create answers the same and does the same to both stores. -/
lemma agree_of_create (hs : Effect tokens s op outcome s') (ht : Effect tokens' t op outcome' t')
    (h : s.Agree t op.pool) (hkind : op.kind = .create) :
    outcome' = outcome ∧ s'.Agree t' op.pool := by
  cases hs with
  | refused _ refusal =>
      cases ht with
      | refused => exact ⟨rfl, h⟩
      | confirmed _ names confirms =>
          exact absurd confirms (refusal _ _ _ (names.of_agree h.symm)).1
      | bound _ names binds => exact absurd binds (refusal _ _ _ (names.of_agree h.symm)).2
      | absent kind | freed kind | stuck kind => cases hkind.symm.trans kind
  | @confirmed p reference a _ names confirms =>
      cases ht with
      | refused _ refusal => exact absurd confirms (refusal _ _ _ (names.of_agree h)).1
      | confirmed _ names' confirms' =>
          obtain ⟨rfl, rfl⟩ := (names.of_agree h).unique names'
          obtain rfl := Option.some.inj (confirms.owned.symm.trans confirms'.owned)
          refine ⟨rfl, ?_⟩
          split_ifs
          · exact h.published a
          · exact h
      | bound _ names' binds =>
          obtain ⟨rfl, rfl⟩ := (names.of_agree h).unique names'
          cases confirms.owned.symm.trans binds.unowned
      | absent kind | freed kind | stuck kind => cases hkind.symm.trans kind
  | @bound p reference a _ names binds =>
      cases ht with
      | refused _ refusal => exact absurd binds (refusal _ _ _ (names.of_agree h)).2
      | confirmed _ names' confirms =>
          obtain ⟨rfl, rfl⟩ := (names.of_agree h).unique names'
          cases confirms.owned.symm.trans binds.unowned
      | bound _ names' binds' =>
          obtain ⟨rfl, rfl⟩ := (names.of_agree h).unique names'
          obtain rfl := binds.asked.unique binds'.asked
          exact ⟨rfl, (h.setPool _).published a⟩
      | absent kind | freed kind | stuck kind => cases hkind.symm.trans kind
  | absent kind | freed kind | stuck kind => cases hkind.symm.trans kind

/-- A delete always succeeds, and has no address to answer. -/
lemma outcome_of_delete (h : Effect tokens s op outcome s') (hkind : op.kind = .delete) :
    outcome = .success op none := by
  cases h with
  | refused kind | confirmed kind | bound kind => cases hkind.symm.trans kind
  | absent | freed | stuck => rfl

/-- A delete does the same to both stores, if both tokens that are drawn are new or neither is. -/
lemma agreeUpTo_of_delete (hs : Effect tokens s op outcome s')
    (ht : Effect tokens' t op outcome' t') (h : s.Agree t op.pool) (hkind : op.kind = .delete)
    (hdrawn : ∀ p a, s.pools.get? op.pool = some p →
      p.carriesElsewhere a (tokens s.drawn) = p.carriesElsewhere a (tokens' t.drawn)) :
    Store.AgreeUpTo (tokens s.drawn) (tokens' t.drawn) s' t' op.pool := by
  cases hs with
  | refused kind | confirmed kind | bound kind => cases hkind.symm.trans kind
  | absent _ unowned =>
      cases ht with
      | refused kind | confirmed kind | bound kind => cases hkind.symm.trans kind
      | absent => exact h.upTo _ _
      | freed _ names owned | stuck _ names owned =>
          cases (unowned _ _ (names.of_agree h.symm)).symm.trans owned
  | @freed p reference a _ names owned new =>
      cases ht with
      | refused kind | confirmed kind | bound kind => cases hkind.symm.trans kind
      | absent _ unowned => cases (unowned _ _ (names.of_agree h)).symm.trans owned
      | @freed q _ _ _ names' owned' =>
          obtain ⟨rfl, rfl⟩ := (names.of_agree h).unique names'
          obtain rfl := Option.some.inj (owned.symm.trans owned')
          refine ⟨.inr ⟨q, a, ?_, ?_⟩, fun record hrecord => ?_⟩
          · rw [Store.pools_withdrawn]
            exact (Store.pools_setPool ..).trans (if_pos rfl)
          · rw [Store.pools_withdrawn]
            exact (Store.pools_setPool ..).trans (if_pos rfl)
          · rw [Store.mem_dns_withdrawn, Store.mem_dns_withdrawn]
            exact and_congr_left' (h.dns record hrecord)
      | stuck _ names' owned' clash =>
          obtain ⟨rfl, rfl⟩ := (names.of_agree h).unique names'
          obtain rfl := Option.some.inj (owned.symm.trans owned')
          rw [hdrawn _ a names.pool, clash] at new
          cases new
  | @stuck p reference a _ names owned clash =>
      cases ht with
      | refused kind | confirmed kind | bound kind => cases hkind.symm.trans kind
      | absent _ unowned => cases (unowned _ _ (names.of_agree h)).symm.trans owned
      | freed _ names' owned' new =>
          obtain ⟨rfl, rfl⟩ := (names.of_agree h).unique names'
          obtain rfl := Option.some.inj (owned.symm.trans owned')
          rw [hdrawn _ a names.pool, new] at clash
          cases clash
      | stuck _ names' owned' =>
          obtain ⟨rfl, rfl⟩ := (names.of_agree h).unique names'
          obtain rfl := Option.some.inj (owned.symm.trans owned')
          exact (h.withdrawn a).upTo _ _

/-- **What becomes of an operation depends on its pool alone.** -/
theorem outcome_eq_of_agree (hs : Effect tokens s op outcome s')
    (ht : Effect tokens' t op outcome' t') (h : s.Agree t op.pool) : outcome' = outcome := by
  cases hkind : op.kind with
  | create => exact (hs.agree_of_create ht h hkind).1
  | delete => rw [hs.outcome_of_delete hkind, ht.outcome_of_delete hkind]

/-- **What an operation leaves in its pool depends on the pool and the token alone.** -/
theorem agreeUpTo (hs : Effect tokens s op outcome s') (ht : Effect tokens' t op outcome' t')
    (h : s.Agree t op.pool)
    (hdrawn : op.kind = .delete → ∀ p a, s.pools.get? op.pool = some p →
      p.carriesElsewhere a (tokens s.drawn) = p.carriesElsewhere a (tokens' t.drawn)) :
    Store.AgreeUpTo (tokens s.drawn) (tokens' t.drawn) s' t' op.pool := by
  cases hkind : op.kind with
  | create => exact (hs.agree_of_create ht h hkind).2.upTo _ _
  | delete => exact hs.agreeUpTo_of_delete ht h hkind (hdrawn hkind)

end Effect

/-- Two tokens that are new to the pool are as good as each other. -/
lemma carriesElsewhere_of_drawsNew (h : s.Agree t op.pool) (hs : DrawsNew tokens s op)
    (ht : DrawsNew tokens' t op) (hkind : op.kind = .delete) {p : Pool} (a : Address)
    (hp : s.pools.get? op.pool = some p) :
    p.carriesElsewhere a (tokens s.drawn) = p.carriesElsewhere a (tokens' t.drawn) := by
  rw [hs.carriesElsewhere hkind hp, ht.carriesElsewhere hkind (h.pool ▸ hp)]

/-! ## Operations on different pools -/

section Commute

variable (hs : Reachable s) {op other : Operation} (hne : op.pool ≠ other.pool)

include hs hne

/-- An operation answers the same before and after an operation on another pool. -/
lemma outcome_after_other (tokens tokens' : TokenSource) :
    (process (backend tokens') op (process (backend tokens') other s).2).1
      = (process (backend tokens) op s).1 := by
  have hother := process_effect tokens' hs.valid other
  exact (process_effect tokens hs.valid op).outcome_eq_of_agree
    (process_effect tokens' (hs.process tokens' other).valid op)
    ((hother.confined hs.valid).others _ hne.symm)

/-- The pool of the first operation, whether or not the other operation comes before. -/
lemma agreeUpTo_after_both (hnew : DrawsNew tokens s op)
    (hnew' : DrawsNew tokens' (process (backend tokens') other s).2 op) :
    ∃ i j, s.drawn ≤ i ∧ s.drawn ≤ j ∧ Store.AgreeUpTo (tokens i) (tokens' j)
      (after tokens s [op, other]) (after tokens' s [other, op]) op.pool := by
  have hop := process_effect tokens hs.valid op
  have hother := process_effect tokens' hs.valid other
  have hagree := (hother.confined hs.valid).others _ hne.symm
  have hlast := process_effect tokens' (hs.process tokens' other).valid op
  have hsame := hop.agreeUpTo hlast hagree fun hkind _ a hp =>
    carriesElsewhere_of_drawsNew hagree hnew hnew' hkind a hp
  have hthen := process_effect tokens (hs.process tokens op).valid other
  have hkept := (hthen.confined (hs.process tokens op).valid).others _ hne.symm
  exact ⟨_, _, Nat.le_refl _, hother.drawn_le, hkept.symm.trans_upTo hsame⟩

end Commute

/-- Two operations leave every pool alone that is neither's. -/
lemma agree_after_neither (hs : Reachable s) (tokens : TokenSource) {op other : Operation}
    {label : String} (hop : op.pool ≠ label) (hother : other.pool ≠ label) :
    s.Agree (after tokens s [op, other]) label := by
  have hfirst := (process_effect tokens hs.valid op).confined hs.valid
  have hs' := (hs.process tokens op).valid
  exact (hfirst.others label hop).trans
    (((process_effect tokens hs' other).confined hs').others label hother)

/-- **Pools do not interfere.**  An operation changes nothing but one row and one DNS record of its
pool.  What becomes of it depends on that pool alone, and so does what it leaves there, but for the
token of a row that it frees.  So two operations on different pools may change places. -/
theorem pools_stay_apart (hs : Reachable s) (ht : Reachable t) (tokens tokens' : TokenSource)
    (op other : Operation) :
    Confined tokens s op (process (backend tokens) op s).1 (process (backend tokens) op s).2 ∧
      (s.Agree t op.pool →
        (process (backend tokens') op t).1 = (process (backend tokens) op s).1 ∧
        (tokens s.drawn = tokens' t.drawn →
          (process (backend tokens) op s).2.Agree (process (backend tokens') op t).2 op.pool) ∧
        (DrawsNew tokens s op → DrawsNew tokens' t op →
          Store.AgreeUpTo (tokens s.drawn) (tokens' t.drawn) (process (backend tokens) op s).2
            (process (backend tokens') op t).2 op.pool)) ∧
      (op.pool ≠ other.pool →
        (processAll (backend tokens) [op, other] s).1
          = (processAll (backend tokens') [other, op] s).1.reverse ∧
        (AllNew tokens s [op, other] → AllNew tokens' s [other, op] → ∀ label,
          ∃ i j, s.drawn ≤ i ∧ s.drawn ≤ j ∧ Store.AgreeUpTo (tokens i) (tokens' j)
            (after tokens s [op, other]) (after tokens' s [other, op]) label)) := by
  have hop := process_effect tokens hs.valid op
  have hop' := process_effect tokens' ht.valid op
  refine ⟨hop.confined hs.valid, fun hagree => ⟨hop.outcome_eq_of_agree hop' hagree, ?_, ?_⟩,
    fun hne => ⟨?_, ?_⟩⟩
  · intro htoken
    refine (hop.agreeUpTo hop' hagree fun _ p a _ => ?_).agree htoken
    rw [htoken]
  · intro hnew hnew'
    exact hop.agreeUpTo hop' hagree fun hkind _ a hp =>
      carriesElsewhere_of_drawsNew hagree hnew hnew' hkind a hp
  · have hfirst := outcome_after_other hs hne tokens tokens'
    have hsecond := outcome_after_other hs hne.symm tokens' tokens
    simp only [Coordinator.processAll_cons, Coordinator.processAll_nil, List.reverse_cons,
      List.reverse_nil, List.nil_append, List.cons_append, hfirst, hsecond]
  · intro hnew hnew' label
    obtain ⟨hnow, hlater⟩ := allNew_cons.1 hnew
    obtain ⟨hnow', hlater'⟩ := allNew_cons.1 hnew'
    by_cases hop : op.pool = label
    · exact hop ▸ agreeUpTo_after_both hs hne hnow (allNew_cons.1 hlater').1
    · by_cases hother : other.pool = label
      · obtain ⟨i, j, hi, hj, hagree⟩ :=
          agreeUpTo_after_both hs hne.symm hnow' (allNew_cons.1 hlater).1
        exact ⟨j, i, hj, hi, hother ▸ hagree.symm⟩
      · have hagree := agree_after_neither hs tokens hop hother
        have hagree' := agree_after_neither hs tokens' hother hop
        exact ⟨_, _, Nat.le_refl _, Nat.le_refl _, (hagree.symm.trans hagree').upTo _ _⟩

/-- The first pool gets the address of `www` back. -/
def freeWww : Operation := .delete web.ref (some "www") none "lan"

/-- The second pool gets the address of `sql` back, which has the same text. -/
def freeSql : Operation := .delete db.ref (some "sql") none "wan"

lemma allNew_frees (ops : List Operation) (h : ∀ op ∈ ops, op = freeWww ∨ op = freeSql) :
    AllNew Pool.Token.dashes settled ops := by
  refine sound_settled.allNew Pool.Token.dashes_injective fun op hop reference hreference i => ?_
  rcases h op hop with rfl | rfl <;> cases hreference <;> exact Pool.Token.dashes_ne (by decide) i

/-- The two addresses may be given back in either order; the rows then carry each other's tokens. -/
theorem pools_stay_apart_of_settled :
    Reachable settled ∧ Reachable (after Pool.Token.dashes settled [freeSql]) ∧
      freeWww.pool ≠ freeSql.pool ∧
      AllNew Pool.Token.dashes settled [freeWww, freeSql] ∧
      AllNew Pool.Token.dashes settled [freeSql, freeWww] ∧
      settled.Agree (after Pool.Token.dashes settled [freeSql]) "lan" ∧
      Store.AgreeUpTo (Pool.Token.dashes 4) (Pool.Token.dashes 5)
        (after Pool.Token.dashes settled [freeWww])
        (after Pool.Token.dashes settled [freeSql, freeWww]) "lan" ∧
      (processAll (backend Pool.Token.dashes) [freeWww, freeSql] settled).1
        = (processAll (backend Pool.Token.dashes) [freeSql, freeWww] settled).1.reverse := by
  have hs := reachable_settled
  have ht := hs.process Pool.Token.dashes freeSql
  have hne : freeWww.pool ≠ freeSql.pool := by decide
  have hnew := allNew_frees [freeWww, freeSql] (by simp)
  have hnew' := allNew_frees [freeSql, freeWww] (by simp)
  have hother :=
    pools_stay_apart hs hs Pool.Token.dashes Pool.Token.dashes freeSql freeWww
  have hagree := hother.1.others "lan" (by decide)
  obtain ⟨-, hboth, hcommute⟩ :=
    pools_stay_apart hs ht Pool.Token.dashes Pool.Token.dashes freeWww freeSql
  exact ⟨hs, ht, hne, hnew, hnew', hagree,
    (hboth hagree).2.2 (allNew_cons.1 hnew).1 (allNew_cons.1 (allNew_cons.1 hnew').2).1,
    (hcommute hne).1⟩

end Local

end Ipam
