import Ipam.Proofs.Coordinator.Runs

/-!
# Asking for a recorded address

A create with a recorded address is answered this address or nothing, and it is answered exactly if
nothing else is in the way: no other reference has the address, and the reference has no other one.

* `Store.Admits` — a reference has an address, or it can have it; `Store.admits_iff` says the same
  by what is in the way.
* `Store.Untaken`, `Store.Full` — a reference is the token of no free row; a pool has none.
* **`Local.Effect.answer_of_admits`** — a create with a recorded address that is admitted succeeds.
* `Local.Effect.full_of_failure` — a plain create fails only when its pool is full.
* **`Local.admits_after_creates`** — creates leave an address admitted exactly if none of them was
  answered the address for another reference, or another address for its reference.
-/

namespace Ipam

open Pool (Holder Row TokenSource)

namespace Store

variable {s : Store} {label reference : String} {a : Address}

/-- A reference has an address, or it has none and the address is free. -/
def Admits (s : Store) (label reference : String) (a : Address) : Prop :=
  s.lookup label reference = some a ∨
    (s.lookup label reference = none ∧ ∃ token, ⟨a, .free token⟩ ∈ s.rows label)

/-- A reference is the token of no free row. -/
def Untaken (s : Store) (label reference : String) : Prop :=
  ∀ a, ⟨a, .free reference⟩ ∉ s.rows label

/-- No address of a pool is free. -/
def Full (s : Store) (label : String) : Prop :=
  ∀ a token, ⟨a, .free token⟩ ∉ s.rows label

/-- **An address is admitted if it belongs to the pool and nothing is in the way.** -/
theorem admits_iff (hs : s.Valid) :
    s.Admits label reference a ↔
      a ∈ (s.rows label).map (·.address) ∧
        ∀ other b, s.lookup label other = some b → (other = reference ↔ b = a) := by
  constructor
  · rintro (hold | ⟨hnone, token, hfree⟩)
    · have hrow := (lookup_eq_some_iff hs).1 hold
      refine ⟨List.mem_map.2 ⟨_, hrow, rfl⟩, fun other b hother => ?_⟩
      have hrow' := (lookup_eq_some_iff hs).1 hother
      constructor
      · rintro rfl
        cases hs.eq_of_mem_rows hrow hrow' (.inr rfl)
        rfl
      · rintro rfl
        cases hs.eq_of_mem_rows hrow hrow' (.inl rfl)
        rfl
    · refine ⟨List.mem_map.2 ⟨_, hfree, rfl⟩, fun other b hother => iff_of_false ?_ ?_⟩
      · rintro rfl
        rw [hnone] at hother
        cases hother
      · rintro rfl
        cases hs.eq_of_mem_rows hfree ((lookup_eq_some_iff hs).1 hother) (.inl rfl)
  · rintro ⟨hmem, hway⟩
    obtain ⟨⟨b, token | owner⟩, hrow, rfl⟩ := List.mem_map.1 hmem
    · refine .inr ⟨?_, token, hrow⟩
      rw [Option.eq_none_iff_forall_ne_some]
      intro c hold
      obtain rfl := (hway reference c hold).1 rfl
      cases hs.eq_of_mem_rows hrow ((lookup_eq_some_iff hs).1 hold) (.inl rfl)
    · have hold := (lookup_eq_some_iff hs).2 hrow
      obtain rfl := (hway owner b hold).2 rfl
      exact .inl hold

/-- A reference that owns nothing and is no token is carried by no row. -/
lemma Untaken.unique (h : s.Untaken label reference) {p : Pool} (hp : s.pools.get? label = some p)
    (hnone : p.owned? reference = none) (b : Address) :
    p.carriesElsewhere b reference = false := by
  rw [Pool.carriesElsewhere_eq_false_iff]
  rintro ⟨c, token | owner⟩ hrow - rfl
  · exact h c (rows_eq hp ▸ hrow)
  · exact Pool.owned?_eq_none_iff.1 hnone _ hrow rfl

/-- A reference that is no token of the supply is untaken. -/
lemma Supplied.untaken {tokens : TokenSource} (hs : s.Supplied tokens)
    (h : ∀ i, tokens i ≠ reference) : s.Untaken label reference := by
  intro b hrow
  cases hp : s.pools.get? label with
  | none => simp [rows, hp] at hrow
  | some p =>
      obtain ⟨i, -, heq⟩ := hs label p hp _ (rows_eq hp ▸ hrow)
      exact h i heq.symm

end Store

namespace Local

open Coordinator (process)

variable {tokens : TokenSource} {s s' : Store} {op : Operation} {outcome : Outcome}
  {label reference : String} {a : Address}

/-! ## Free rows -/

/-- A row that is free after an operation was free before, or has the token that a delete drew. -/
lemma Effect.free_row (h : Effect tokens s op outcome s') {token : String}
    (hrow : ⟨a, .free token⟩ ∈ s'.rows label) :
    ⟨a, .free token⟩ ∈ s.rows label ∨ (op.kind = .delete ∧ token = tokens s.drawn) := by
  have hset : ∀ (p : Pool) (b : Address) (holder : Holder) (t : Store),
      s.pools.get? op.pool = some p → ⟨a, .free token⟩ ∈ t.rows label →
      t.pools = (s.setPool op.pool (p.setHolder b holder)).pools →
        ⟨a, .free token⟩ ∈ s.rows label ∨ .free token = holder := by
    intro p b holder t hp hmem ht
    rw [Store.rows, ht, Store.pools_setPool] at hmem
    split_ifs at hmem with hlabel
    · subst hlabel
      rcases Pool.mem_setHolder.1 hmem with ⟨hold, -⟩ | ⟨hnew, -⟩
      · exact .inl (Store.rows_eq hp ▸ hold)
      · cases hnew
        exact .inr rfl
    · exact .inl hmem
  have hsame : ∀ t : Store, t.pools = s.pools → t.rows label = s.rows label := by
    intro t ht
    rw [Store.rows, Store.rows, ht]
  cases h with
  | refused | absent => exact .inl hrow
  | confirmed =>
      split_ifs at hrow
      · exact .inl (hsame _ (Store.pools_published ..) ▸ hrow)
      · exact .inl hrow
  | bound _ names =>
      rcases hset _ _ _ _ names.pool hrow (Store.pools_published ..) with hold | hholder
      · exact .inl hold
      · cases hholder
  | freed kind names =>
      rcases hset _ _ (.free (tokens s.drawn)) _ names.pool hrow (Store.pools_withdrawn ..)
        with hold | hholder
      · exact .inl hold
      · cases hholder
        exact .inr ⟨kind, rfl⟩
  | stuck => exact .inl (hsame _ (Store.pools_withdrawn ..) ▸ hrow)

/-- A reference stays untaken as long as it is not drawn. -/
lemma Effect.untaken (h : Effect tokens s op outcome s')
    (hdrawn : op.kind = .delete → tokens s.drawn ≠ reference) (huntaken : s.Untaken label reference) :
    s'.Untaken label reference := by
  intro b hrow
  rcases h.free_row hrow with hold | ⟨hkind, heq⟩
  · exact huntaken b hold
  · exact hdrawn hkind heq.symm

/-! ## One create -/

/-- An operation that names an admitted reference can reach it. -/
lemma names_of_admits (hl : s.Labelled) (hop : op.Concerns label reference)
    (h : s.Admits label reference a) : ∃ p, Names s op p reference := by
  rcases h with hold | ⟨-, token, hfree⟩
  · obtain ⟨p, names, -⟩ := names_of_lookup hl hop hold
    exact ⟨p, names⟩
  · obtain ⟨rfl, hreference⟩ := hop
    cases hp : s.pools.get? op.pool with
    | none => simp [Store.rows, hp] at hfree
    | some p => exact ⟨p, hreference, hl _ _ hp, hp⟩

/-- A create with a recorded address is answered no other one. -/
lemma Effect.recorded_of_answer (h : Effect tokens s op outcome s') (hkind : op.kind = .create)
    {text : String} (hrecorded : op.recorded = some text)
    (hanswer : outcome.verdict = .succeeded (some a)) : Address.parse? text = some a := by
  cases h with
  | refused => cases hanswer
  | confirmed _ _ confirms =>
      cases hanswer
      exact confirms.recorded text hrecorded
  | bound _ _ binds =>
      cases hanswer
      have hasked := binds.asked
      rwa [Asks, hrecorded] at hasked
  | absent kind | freed kind | stuck kind => cases hkind.symm.trans kind

/-- **A create is answered the address that it records if the store admits it.** -/
theorem Effect.answer_of_admits (h : Effect tokens s op outcome s') (hl : s.Labelled)
    (hkind : op.kind = .create) (hop : op.Concerns label reference) {text : String}
    (hrecorded : op.recorded = some text) (hparse : Address.parse? text = some a)
    (hadmits : s.Admits label reference a) (huntaken : s.Untaken label reference) :
    outcome = .success op (some a) := by
  obtain ⟨p, names⟩ := names_of_admits hl hop hadmits
  obtain ⟨rfl, -⟩ := id hop
  have hanswer : ∃ b, outcome = .success op (some b) := by
    cases h with
    | confirmed | bound => exact ⟨_, rfl⟩
    | absent kind | freed kind | stuck kind => cases hkind.symm.trans kind
    | refused _ refusal =>
        exfalso
        obtain ⟨hconfirms, hbinds⟩ := refusal p reference a names
        rcases hadmits with hold | ⟨hnone, hfree⟩
        · refine hconfirms ⟨names.lookup ▸ hold, fun other hother => ?_⟩
          cases hrecorded.symm.trans hother
          exact hparse
        · have hunowned := names.lookup ▸ hnone
          refine hbinds ⟨hunowned, Store.rows_eq names.pool ▸ hfree,
            huntaken.unique names.pool hunowned a, ?_⟩
          rw [Asks, hrecorded]
          exact hparse
  obtain ⟨b, rfl⟩ := hanswer
  have hsame := h.recorded_of_answer hkind hrecorded rfl
  cases hparse.symm.trans hsame
  rfl

/-- A plain create for a reference that owns an address is answered the address and changes nothing.
-/
lemma Effect.confirmed_of_owned (h : Effect tokens s op outcome s') (hl : s.Labelled)
    (hkind : op.kind = .create) (hplain : op.recorded = none) (hop : op.Concerns label reference)
    (hold : s.lookup label reference = some a) : outcome = .success op (some a) ∧ s' = s := by
  obtain ⟨p, names, howned⟩ := names_of_lookup hl hop hold
  cases h with
  | refused _ refusal => exact absurd ⟨howned, by simp [hplain]⟩ (refusal p reference a names).1
  | confirmed _ names' confirms =>
      obtain ⟨rfl, rfl⟩ := names.unique names'
      cases howned.symm.trans confirms.owned
      exact ⟨rfl, by simp [hplain]⟩
  | bound _ names' binds =>
      obtain ⟨rfl, rfl⟩ := names.unique names'
      cases howned.symm.trans binds.unowned
  | absent kind | freed kind | stuck kind => cases hkind.symm.trans kind

/-- **A plain create fails only when its pool is full**, as long as its reference is no token. -/
theorem Effect.full_of_failure (h : Effect tokens s op outcome s') (hs : s.Valid)
    (hl : s.Labelled) (hplain : op.recorded = none) (hop : op.Concerns label reference)
    (huntaken : s.Untaken label reference) (hfailed : outcome.verdict = .failed) :
    s.Full label := by
  intro b token hfree
  have hnone := h.lookup_of_failure hl hplain hop hfailed
  obtain ⟨rfl, -⟩ := id hop
  cases h with
  | confirmed | bound | absent | freed | stuck => cases hfailed
  | refused _ refusal =>
      obtain ⟨p, names⟩ := names_of_admits hl hop (.inr ⟨hnone, token, hfree⟩)
      have hunowned := names.lookup ▸ hnone
      cases hlowest : p.lowestFree? with
      | none => cases Pool.lowestFree?_eq_none_iff.1 hlowest _ (Store.rows_eq names.pool ▸ hfree)
      | some c =>
          have hleast := (Pool.lowestFree?_eq_some_iff (hs _ _ names.pool)).1 hlowest
          refine (refusal p reference c names).2
            ⟨hunowned, hleast.1, huntaken.unique names.pool hunowned c, ?_⟩
          rw [Asks, hplain]
          exact hlowest

/-! ## Creates in a row -/

section Creates

variable {ops : List Operation}

lemma addresses_after_creates (hs : Reachable s) (label : String) :
    ((after tokens s ops).rows label).map (·.address) = (s.rows label).map (·.address) := by
  induction ops generalizing s with
  | nil => rfl
  | cons op ops ih =>
      rw [after_cons, ih (hs.process tokens op),
        (process_effect tokens hs.valid op).addresses]

/-- **Creates leave an address admitted exactly if no answer was in its way.** -/
theorem admits_after_creates (hs : Reachable s) (hops : ∀ op ∈ ops, op.kind = .create) :
    (after tokens s ops).Admits label reference a ↔
      s.Admits label reference a ∧
        ∀ step ∈ history tokens s (ops.map .operation), ∀ other b,
          step.Grants tokens label other b → (other = reference ↔ b = a) := by
  rw [Store.admits_iff (hs.after tokens ops).valid, Store.admits_iff hs.valid,
    addresses_after_creates hs, and_assoc]
  refine and_congr_right fun _ => ?_
  simp only [lookup_after_creates hs hops]
  constructor
  · intro hway
    exact ⟨fun other b hold => hway other b (.inl hold),
      fun step hstep other b hgrants => hway other b (.inr ⟨step, hstep, hgrants⟩)⟩
  · rintro ⟨hbefore, hanswers⟩ other b (hold | ⟨step, hstep, hgrants⟩)
    · exact hbefore other b hold
    · exact hanswers step hstep other b hgrants

/-- Creates free no address. -/
lemma full_after_creates (hs : Reachable s) (hops : ∀ op ∈ ops, op.kind = .create)
    (h : s.Full label) : (after tokens s ops).Full label := by
  induction ops generalizing s with
  | nil => exact h
  | cons op ops ih =>
      obtain ⟨hkind, hrest⟩ := List.forall_mem_cons.1 hops
      rw [after_cons]
      refine ih (hs.process tokens op) hrest fun b token hrow => ?_
      rcases (process_effect tokens hs.valid op).free_row hrow with hold | ⟨hdelete, -⟩
      · exact h b token hold
      · cases hkind.symm.trans hdelete

/-- A reference stays untaken if no delete can draw it. -/
lemma untaken_after (hs : Reachable s)
    (hdrawn : ∀ op ∈ ops, op.kind = .delete → ∀ i, s.drawn ≤ i → tokens i ≠ reference)
    (h : s.Untaken label reference) : (after tokens s ops).Untaken label reference := by
  induction ops generalizing s with
  | nil => exact h
  | cons op ops ih =>
      obtain ⟨hthis, hrest⟩ := List.forall_mem_cons.1 hdrawn
      have heffect := process_effect tokens hs.valid op
      rw [after_cons]
      refine ih (hs.process tokens op) (fun other hother hkind i hi => ?_)
        (heffect.untaken (fun hkind => hthis hkind _ le_rfl) h)
      exact hrest other hother hkind i (heffect.drawn_le.trans hi)

end Creates

end Local

end Ipam
