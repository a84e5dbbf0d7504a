import Ipam.Proofs.Allocation.Local

/-!
# What one operation does to the bindings

* `Operation.Concerns` — the pool and the reference that an operation names.
* `Local.Effect.valid`, `Local.Effect.ranges` — no operation breaks a pool or configures one.
* **`Local.Effect.lookup_eq_some_iff`** — the bindings after an operation: the one that a successful
  create has answered, and all those from before that were not deleted.
* `Local.Effect.lookup_of_answer`, `Local.Effect.lookup_of_failure`, `Local.Effect.lookup_of_delete`
  — the same for the reference that the operation names, by what became of it.

These statements need the one thing that the store cannot provide by itself, a token that no row
of the pool carries (`Local.DrawsNew`).  Without such a token an address cannot be freed.
-/

namespace Ipam

open Pool (Holder Row TokenSource)

/-- An operation names a pool and a reference. -/
structure Operation.Concerns (op : Operation) (label reference : String) : Prop where
  pool : op.pool = label
  reference : op.reference? = some reference

namespace Local

variable {tokens : TokenSource} {s s' : Store} {op : Operation} {outcome : Outcome}

/-! ## Pools stay valid and keep their ranges -/

/-- At most one row gets another holder, and no other row of its pool carries the same reference. -/
lemma Effect.rewrites (h : Effect tokens s op outcome s') :
    s'.pools = s.pools ∨ ∃ p a holder, s.pools.get? op.pool = some p ∧
      p.carriesElsewhere a holder.reference = false ∧
      s'.pools = (s.setPool op.pool (p.setHolder a holder)).pools := by
  cases h with
  | refused | absent => exact .inl rfl
  | confirmed =>
      left
      split_ifs
      · exact Store.pools_published ..
      · rfl
  | @bound p reference a _ names binds =>
      exact .inr ⟨p, a, .bound reference, names.pool, binds.unique, Store.pools_published ..⟩
  | @freed p _ a _ names _ new =>
      exact .inr ⟨p, a, .free (tokens s.drawn), names.pool, new, Store.pools_withdrawn ..⟩
  | stuck => exact .inl (Store.pools_withdrawn ..)

/-- An outcome carries its operation; a create that succeeds has an address. -/
lemma Effect.outcome_eq (h : Effect tokens s op outcome s') :
    outcome.operation = op ∧
      (op.kind = .create →
        outcome.verdict = .failed ∨ ∃ a, outcome.verdict = .succeeded (some a)) := by
  cases h with
  | refused => exact ⟨rfl, fun _ => .inl rfl⟩
  | confirmed | bound => exact ⟨rfl, fun _ => .inr ⟨_, rfl⟩⟩
  | absent kind | freed kind | stuck kind =>
      refine ⟨rfl, fun hcreate => ?_⟩
      rw [kind] at hcreate
      cases hcreate

/-- **An operation keeps all pools valid.** -/
theorem Effect.valid (h : Effect tokens s op outcome s') (hs : s.Valid) : s'.Valid := by
  rcases h.rewrites with hsame | ⟨p, a, holder, hp, hnew, hset⟩
  · intro label q hq
    exact hs label q (hsame ▸ hq)
  · intro label q hq
    rw [hset] at hq
    exact Store.valid_setPool hs (Pool.setHolder_valid (hs _ _ hp) holder hnew) label q hq

/-- An operation configures no pool and drops none. -/
lemma Effect.ranges (h : Effect tokens s op outcome s') (label : String) :
    s'.ranges.get? label = s.ranges.get? label := by
  rw [Store.get?_ranges, Store.get?_ranges]
  rcases h.rewrites with hsame | ⟨p, a, holder, hp, -, hset⟩
  · rw [hsame]
  · rw [hset, Store.pools_setPool]
    split_ifs with heq
    · subst heq
      rw [hp]
      rfl
    · rfl

lemma Effect.labelled (h : Effect tokens s op outcome s') (hs : s.Labelled) : s'.Labelled := by
  intro label p hp
  have hrange := h.ranges label
  rw [Store.get?_ranges, Store.get?_ranges, hp] at hrange
  obtain ⟨q, hq, -⟩ := Option.map_eq_some_iff.1 hrange.symm
  exact hs label q hq

/-- No token is drawn again. -/
lemma Effect.drawn_le (h : Effect tokens s op outcome s') : s.drawn ≤ s'.drawn := by
  cases h with
  | refused | absent => exact le_rfl
  | confirmed => split_ifs <;> simp
  | bound | stuck => simp
  | freed => simp

/-! ## Bindings -/

/-- A delete that draws a token gets one that no row of its pool carries. -/
def DrawsNew (tokens : TokenSource) (s : Store) (op : Operation) : Prop :=
  op.kind = .delete → ∀ row ∈ s.rows op.pool, row.holder.reference ≠ tokens s.drawn

lemma Names.concerns {p : Pool} {reference : String} (h : Names s op p reference) :
    op.Concerns op.pool reference :=
  ⟨rfl, h.reference⟩

lemma Names.of_concerns {p : Pool} {label reference other : String} (h : Names s op p reference)
    (hop : op.Concerns label other) : op.pool = label ∧ other = reference :=
  ⟨hop.pool, Option.some.inj (hop.reference.symm.trans h.reference)⟩

lemma Names.lookup {p : Pool} {reference : String} (h : Names s op p reference) :
    s.lookup op.pool reference = p.owned? reference :=
  Store.lookup_eq h.pool reference

/-- An operation that names a reference with a binding can reach it. -/
lemma names_of_lookup (hl : s.Labelled) {label reference : String} {a : Address}
    (hop : op.Concerns label reference) (h : s.lookup label reference = some a) :
    ∃ p, Names s op p reference ∧ p.owned? reference = some a := by
  obtain ⟨rfl, hreference⟩ := hop
  cases hp : s.pools.get? op.pool with
  | none =>
      rw [Store.lookup_of_no_pool hp] at h
      cases h
  | some p =>
      rw [Store.lookup_eq hp] at h
      exact ⟨p, ⟨hreference, hl _ _ hp, hp⟩, h⟩

lemma DrawsNew.carriesElsewhere (h : DrawsNew tokens s op) (hkind : op.kind = .delete) {p : Pool}
    (hp : s.pools.get? op.pool = some p) (a : Address) :
    p.carriesElsewhere a (tokens s.drawn) = false := by
  rw [Pool.carriesElsewhere_eq_false_iff]
  intro row hrow _
  exact h hkind row (Store.rows_eq hp ▸ hrow)

section Bindings

variable (hs : s.Valid) {label reference : String} {a : Address}

include hs

/-- A create that binds an address adds one binding. -/
lemma Names.lookup_bind {p : Pool} {owner : String} {b : Address} (h : Names s op p owner)
    (hb : CanBind op p owner b) :
    (s.setPool op.pool (p.setHolder b (.bound owner))).lookup label reference
      = if op.pool = label ∧ reference = owner then some b else s.lookup label reference := by
  obtain ⟨token, hfree⟩ := hb.free
  rw [Store.lookup_setPool]
  by_cases hlabel : op.pool = label
  · subst hlabel
    rw [if_pos rfl, Pool.owned?_bind (hs _ _ h.pool) hfree hb.unique hb.unowned,
      Store.lookup_eq h.pool]
    simp
  · rw [if_neg hlabel, if_neg (fun hand => hlabel hand.1)]

/-- A delete that frees an address takes one binding away. -/
lemma Names.lookup_free {p : Pool} {owner token : String} {b : Address} (h : Names s op p owner)
    (howned : p.owned? owner = some b) (hnew : p.carriesElsewhere b token = false) :
    (s.setPool op.pool (p.setHolder b (.free token))).lookup label reference
      = if op.pool = label ∧ reference = owner then none else s.lookup label reference := by
  rw [Store.lookup_setPool]
  by_cases hlabel : op.pool = label
  · subst hlabel
    rw [if_pos rfl, Pool.owned?_free (hs _ _ h.pool) howned hnew, Store.lookup_eq h.pool]
    simp
  · rw [if_neg hlabel, if_neg (fun hand => hlabel hand.1)]

/-- **The bindings after an operation** are the one that a create has answered, and those from
before that the operation does not delete. -/
theorem Effect.lookup_eq_some_iff (h : Effect tokens s op outcome s') (hl : s.Labelled)
    (hnew : DrawsNew tokens s op) :
    s'.lookup label reference = some a ↔
      (op.kind = .create ∧ op.Concerns label reference ∧ outcome.verdict = .succeeded (some a)) ∨
      (s.lookup label reference = some a ∧
        ¬ (op.kind = .delete ∧ op.Concerns label reference)) := by
  cases h with
  | refused kind => simp [kind, Outcome.failure]
  | @confirmed p owner b kind names confirms =>
      have hsame : (if op.recorded.isSome then s.published op b else s).lookup label reference
          = s.lookup label reference := by
        refine Store.lookup_congr ?_ _ _
        split_ifs
        · exact Store.pools_published ..
        · rfl
      rw [hsame]
      constructor
      · intro hold
        exact .inr ⟨hold, by simp [kind]⟩
      · rintro (⟨-, hop, hanswer⟩ | ⟨hold, -⟩)
        · obtain ⟨rfl, rfl⟩ := names.of_concerns hop
          rw [names.lookup, confirms.owned]
          simpa [Outcome.success] using hanswer
        · exact hold
  | @bound p owner b kind names binds =>
      rw [Store.lookup_congr (Store.pools_published ..), names.lookup_bind hs binds]
      split_ifs with hthis
      · obtain ⟨rfl, rfl⟩ := hthis
        have hold : s.lookup op.pool reference = none := names.lookup.trans binds.unowned
        simp [kind, names.concerns, Outcome.success, hold]
      · have hother : ¬ op.Concerns label reference := fun hop => hthis (names.of_concerns hop)
        simp [hother]
  | absent kind unowned =>
      constructor
      · intro hold
        refine .inr ⟨hold, fun hdelete => ?_⟩
        obtain ⟨p, names, howned⟩ := names_of_lookup hl hdelete.2 hold
        rw [unowned p reference names] at howned
        cases howned
      · rintro (⟨hcreate, -⟩ | ⟨hold, -⟩)
        · rw [kind] at hcreate
          cases hcreate
        · exact hold
  | @freed p owner b kind names owned new =>
      rw [Store.lookup_congr (Store.pools_withdrawn ..)]
      change (s.setPool op.pool (p.setHolder b (.free (tokens s.drawn)))).lookup label reference
        = some a ↔ _
      rw [names.lookup_free hs owned new]
      split_ifs with hthis
      · obtain ⟨rfl, rfl⟩ := hthis
        simp [kind, names.concerns]
      · have hother : ¬ op.Concerns label reference := fun hop => hthis (names.of_concerns hop)
        simp [hother]
  | @stuck p owner b kind names owned clash =>
      rw [hnew.carriesElsewhere kind names.pool] at clash
      cases clash

/-- An operation leaves alone what it does not name. -/
lemma Effect.lookup_of_not_concerns (h : Effect tokens s op outcome s') (hl : s.Labelled)
    (hnew : DrawsNew tokens s op) (hop : ¬ op.Concerns label reference) :
    s'.lookup label reference = s.lookup label reference := by
  apply Option.ext
  intro a
  rw [h.lookup_eq_some_iff hs hl hnew]
  simp [hop]

/-- What a create answers is what its reference owns afterwards. -/
lemma Effect.lookup_of_answer (h : Effect tokens s op outcome s') (hl : s.Labelled)
    (hkind : op.kind = .create) (hop : op.Concerns label reference)
    (hanswer : outcome.verdict = .succeeded (some a)) : s'.lookup label reference = some a := by
  have hnew : DrawsNew tokens s op := by
    intro hdelete
    rw [hkind] at hdelete
    cases hdelete
  exact (h.lookup_eq_some_iff hs hl hnew).2 (.inl ⟨hkind, hop, hanswer⟩)

/-- What a delete names owns nothing afterwards. -/
lemma Effect.lookup_of_delete (h : Effect tokens s op outcome s') (hl : s.Labelled)
    (hnew : DrawsNew tokens s op) (hkind : op.kind = .delete) (hop : op.Concerns label reference) :
    s'.lookup label reference = none := by
  rw [Option.eq_none_iff_forall_ne_some]
  intro a hold
  rcases (h.lookup_eq_some_iff hs hl hnew).1 hold with ⟨hcreate, -⟩ | ⟨-, hnot⟩
  · rw [hkind] at hcreate
    cases hcreate
  · exact hnot ⟨hkind, hop⟩

omit hs in
/-- A plain create fails only for a reference that owns nothing. -/
lemma Effect.lookup_of_failure (h : Effect tokens s op outcome s') (hl : s.Labelled)
    (hplain : op.recorded = none) (hop : op.Concerns label reference)
    (hfailed : outcome.verdict = .failed) : s'.lookup label reference = none := by
  cases h with
  | refused _ refusal =>
      rw [Option.eq_none_iff_forall_ne_some]
      intro a hold
      obtain ⟨p, names, howned⟩ := names_of_lookup hl hop hold
      exact (refusal p reference a names).1 ⟨howned, by simp [hplain]⟩
  | confirmed | bound | absent | freed | stuck => cases hfailed

end Bindings

end Local

end Ipam
