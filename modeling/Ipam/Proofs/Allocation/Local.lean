import Ipam.Allocation.Local
import Ipam.Proofs.Coordinator.Calls
import Ipam.Proofs.Pool.Store

/-!
# One operation on the pools

`Local.Effect` lists everything that the coordinator can do with one operation on a store: with the
outcome, the store that is left, and the reason.  **`Local.process_effect`** says that the list is
complete.  Every other statement about operations on pools is a case analysis over `Effect` and
looks at no call again.

* `Names` — the pool and the reference that an operation is about; without them nothing happens.
* `Confirms`, `CanBind` — the two ways in which a create succeeds.  A create is refused exactly if
  neither holds for any address.
* `Effect` — what happens.
-/

namespace Ipam

open Pool (Holder Row TokenSource)

namespace Store

/-- The store after an address was published for an operation. -/
def published (s : Store) (op : Operation) (a : Address) : Store :=
  match op.host with
  | none => s
  | some host => s.createDns op.pool host a

/-- The store after an address was withdrawn for an operation. -/
def withdrawn (s : Store) (op : Operation) (a : Address) : Store :=
  match op.host with
  | none => s
  | some host => (s.deleteDns op.pool host a).2

variable (s : Store) (op : Operation) (a : Address)

@[simp] lemma pools_published : (s.published op a).pools = s.pools := by
  rw [published]
  split
  · rfl
  · rw [createDns]
    split_ifs <;> rfl

@[simp] lemma drawn_published : (s.published op a).drawn = s.drawn := by
  rw [published]
  split
  · rfl
  · rw [createDns]
    split_ifs <;> rfl

@[simp] lemma pools_withdrawn : (s.withdrawn op a).pools = s.pools := by
  rw [withdrawn]
  split <;> rfl

@[simp] lemma drawn_withdrawn : (s.withdrawn op a).drawn = s.drawn := by
  rw [withdrawn]
  split <;> rfl

variable {s op a}

lemma mem_dns_published {record : DnsRecord} :
    record ∈ (s.published op a).dns ↔
      record ∈ s.dns ∨
        (record.pool = op.pool ∧ op.host = some record.host ∧ record.address = a) := by
  obtain ⟨label, host, b⟩ := record
  rw [published]
  cases hhost : op.host with
  | none => simp
  | some own =>
      simp only [createDns]
      split_ifs with hmem
      · constructor
        · exact .inl
        · rintro (hold | ⟨rfl, heq, rfl⟩)
          · exact hold
          · cases heq
            exact hmem
      · simp [eq_comm]

lemma mem_dns_withdrawn {record : DnsRecord} :
    record ∈ (s.withdrawn op a).dns ↔
      record ∈ s.dns ∧
        ¬ (record.pool = op.pool ∧ op.host = some record.host ∧ record.address = a) := by
  obtain ⟨label, host, b⟩ := record
  rw [withdrawn]
  cases hhost : op.host with
  | none => simp
  | some own =>
      simp only [deleteDns, List.mem_filter, decide_eq_true_eq, ne_eq, DnsRecord.mk.injEq,
        Option.some.injEq, eq_comm (a := own)]

end Store

namespace Local

open Coordinator (process published released)

/-! ## What an operation is about -/

/-- The pool and the reference that an operation is about. -/
structure Names (s : Store) (op : Operation) (p : Pool) (reference : String) : Prop where
  reference : op.reference? = some reference
  labelled : Pool.isBlankText op.pool = false
  pool : s.pools.get? op.pool = some p

/-- The address that a create asks for: the recorded one, or else the lowest free one. -/
def Asks (op : Operation) (p : Pool) (a : Address) : Prop :=
  match op.recorded with
  | none => p.lowestFree? = some a
  | some text => Address.parse? text = some a

/-- A create finds its reference bound, to the recorded address if there is one. -/
structure Confirms (op : Operation) (p : Pool) (reference : String) (a : Address) : Prop where
  owned : p.owned? reference = some a
  recorded : ∀ text, op.recorded = some text → Address.parse? text = some a

/-- A create can bind its reference to an address. -/
structure CanBind (op : Operation) (p : Pool) (reference : String) (a : Address) : Prop where
  unowned : p.owned? reference = none
  free : ∃ token, ⟨a, .free token⟩ ∈ p.rows
  unique : p.carriesElsewhere a reference = false
  asked : Asks op p a

variable {s : Store} {op : Operation} {p : Pool} {reference : String}

lemma Names.unique (h : Names s op p reference) {q : Pool} {other : String}
    (h' : Names s op q other) : q = p ∧ other = reference :=
  ⟨Option.some.inj (h'.pool.symm.trans h.pool),
    Option.some.inj (h'.reference.symm.trans h.reference)⟩

lemma Asks.unique {b : Address} (ha : Asks op p a) (hb : Asks op p b) : a = b := by
  rw [Asks] at ha hb
  cases hrecorded : op.recorded with
  | none =>
      rw [hrecorded] at ha hb
      exact Option.some.inj (ha.symm.trans hb)
  | some text =>
      rw [hrecorded] at ha hb
      exact Option.some.inj (ha.symm.trans hb)

/-! ## Effects -/

/-- **What the coordinator can do with one operation on a store.** -/
inductive Effect (tokens : TokenSource) (s : Store) (op : Operation) : Outcome → Store → Prop where
  /-- A create that neither confirms nor binds an address fails and leaves everything as it is. -/
  | refused (kind : op.kind = .create)
      (refusal : ∀ p reference a, Names s op p reference →
        ¬ Confirms op p reference a ∧ ¬ CanBind op p reference a) :
      Effect tokens s op (.failure op) s
  /-- A create confirms a binding; with a recorded address it publishes the address again. -/
  | confirmed {p : Pool} {reference : String} {a : Address} (kind : op.kind = .create)
      (names : Names s op p reference) (confirms : Confirms op p reference a) :
      Effect tokens s op (.success op (some a))
        (if op.recorded.isSome then s.published op a else s)
  /-- A create binds an address and publishes it. -/
  | bound {p : Pool} {reference : String} {a : Address} (kind : op.kind = .create)
      (names : Names s op p reference) (binds : CanBind op p reference a) :
      Effect tokens s op (.success op (some a))
        ((s.setPool op.pool (p.setHolder a (.bound reference))).published op a)
  /-- A delete finds nothing. -/
  | absent (kind : op.kind = .delete)
      (unowned : ∀ p reference, Names s op p reference → p.owned? reference = none) :
      Effect tokens s op (.success op none) s
  /-- A delete frees an address and withdraws it. -/
  | freed {p : Pool} {reference : String} {a : Address} (kind : op.kind = .delete)
      (names : Names s op p reference) (owned : p.owned? reference = some a)
      (new : p.carriesElsewhere a (tokens s.drawn) = false) :
      Effect tokens s op (.success op none)
        ({ s.setPool op.pool (p.setHolder a (.free (tokens s.drawn))) with
          drawn := s.drawn + 1 }.withdrawn op a)
  /-- A delete draws a token that another row carries; the row stays bound. -/
  | stuck {p : Pool} {reference : String} {a : Address} (kind : op.kind = .delete)
      (names : Names s op p reference) (owned : p.owned? reference = some a)
      (clash : p.carriesElsewhere a (tokens s.drawn) = true) :
      Effect tokens s op (.success op none) (s.withdrawn op a)

/-! ## The calls -/

section Calls

variable {tokens : TokenSource}

lemma requireReference_apply (s : Store) :
    Backend.requireReference op s = match op.reference? with
      | some reference => (.ok reference, s)
      | none => (.error (.noReference op), s) := by
  rw [Backend.requireReference]
  cases op.reference? <;> rfl

lemma requirePool_apply (s : Store) :
    Backend.requirePool op s =
      if Pool.isBlankText op.pool then (.error (.noPool op), s) else (.ok op.pool, s) := by
  rw [Backend.requirePool]
  split_ifs <;> rfl

lemma knownPool_apply (s : Store) :
    knownPool op s =
      if Pool.isBlankText op.pool then (.error (.noPool op), s)
      else if s.hasPool op.pool then (.ok op.pool, s)
      else (.error (.unknownPool op.pool), s) := by
  rw [knownPool, Call.bind_apply, requirePool_apply]
  split_ifs with hblank hpool
  · rfl
  · simp [Call.bind_apply, hpool]
  · simp [Call.bind_apply, hpool]

lemma Names.knownPool_apply (h : Names s op p reference) : knownPool op s = (.ok op.pool, s) := by
  rw [Local.knownPool_apply, if_neg (by simp [h.labelled]),
    if_pos (Store.hasPool_iff.2 ⟨p, h.pool⟩)]

lemma Names.requireReference_apply (h : Names s op p reference) :
    Backend.requireReference op s = (.ok reference, s) := by
  rw [Local.requireReference_apply, h.reference]

/-- An operation that does not name both a pool and a reference is stopped at the first check. -/
lemma checks_of_not_names (h : ∀ p reference, ¬ Names s op p reference) {α : Type}
    (f : String → String → AllocationM Store α) :
    ∃ e, (do
      let reference ← Backend.requireReference op
      let pool ← knownPool op
      f reference pool : AllocationM Store α) s = (.error e, s) := by
  simp only [Call.bind_apply, Local.requireReference_apply]
  cases hreference : op.reference? with
  | none => exact ⟨_, rfl⟩
  | some reference =>
      simp only [Local.knownPool_apply]
      split_ifs with hblank hpool
      · exact ⟨_, rfl⟩
      · obtain ⟨p, hp⟩ := Store.hasPool_iff.1 hpool
        exact absurd ⟨hreference, Bool.eq_false_iff.2 hblank, hp⟩ (h p reference)
      · exact ⟨_, rfl⟩

lemma Names.checks_apply (h : Names s op p reference) {α : Type}
    (f : String → String → AllocationM Store α) :
    (do
      let reference ← Backend.requireReference op
      let pool ← knownPool op
      f reference pool : AllocationM Store α) s = f reference op.pool s := by
  simp only [Call.bind_apply, h.requireReference_apply, h.knownPool_apply]

lemma Names.lookup_apply (h : Names s op p reference) :
    (backend tokens).lookup op s = (.ok (p.owned? reference), s) := by
  refine (h.checks_apply fun reference pool => do
    return (← getThe Store).lookup pool reference).trans ?_
  simp [Call.map_apply, Store.lookup_eq h.pool]

lemma published_backend (hlabel : Pool.isBlankText op.pool = false) (s : Store) (a : Address) :
    published (backend tokens) op s a = s.published op a := by
  rw [published, Store.published]
  cases hhost : op.host with
  | none => rfl
  | some host =>
      simp [backend, hhost, Call.bind_apply, requirePool_apply, hlabel, change]

lemma Names.released_backend (h : Names s op p reference) (a : Address) :
    released (backend tokens) op s a =
      (match s.release tokens op.pool a with
        | .ok (_, s) => s
        | .error _ => s).withdrawn op a := by
  have hrelease : ((backend tokens).release op a s).2 = match s.release tokens op.pool a with
      | .ok (_, s) => s
      | .error _ => s := by
    simp only [backend, Call.bind_apply, h.knownPool_apply, change]
    cases s.release tokens op.pool a <;> rfl
  rw [released, hrelease, Store.withdrawn]
  cases hhost : op.host with
  | none => rfl
  | some host =>
      simp [backend, hhost, Call.bind_apply, requirePool_apply, h.labelled, change,
        Call.map_apply]

/-- Without a binding, the next free address is bound, unless its row may not carry the reference.
-/
lemma Names.allocateNext_apply (h : Names s op p reference) (hnone : p.owned? reference = none) :
    (backend tokens).allocateNext op s = match p.lowestFree? with
      | none => (.error (.exhausted op.pool), s)
      | some a =>
        if p.carriesElsewhere a reference then (.error (.store .duplicateReference), s)
        else (.ok a, s.setPool op.pool (p.setHolder a (.bound reference))) := by
  refine (h.checks_apply _).trans ?_
  simp only [Call.bind_apply, change, Store.allocateNext_of_unowned h.pool hnone]
  cases p.lowestFree? with
  | none => rfl
  | some a =>
      simp only
      split_ifs <;> rfl

lemma Names.allocate_apply (h : Names s op p reference) (a : Address) :
    (backend tokens).allocate op a s = match s.allocateExact op.pool a reference with
      | .ok (.allocated, s) | .ok (.alreadyBound, s) => (.ok (), s)
      | .ok (.conflict, s) | .ok (.referenceBound _, s) => (.error (.conflict op.pool a), s)
      | .ok (.notInPool, s) => (.error (.notInPool a op.pool), s)
      | .error cause => (.error (.store cause), s) := by
  refine (h.checks_apply _).trans ?_
  simp only [Call.bind_apply, change]
  rcases s.allocateExact op.pool a reference with _ | ⟨_ | _ | _ | _ | _, _⟩ <;> rfl

end Calls

/-! ## The list of effects is complete -/

section Effects

variable {tokens : TokenSource}

/-- The effect of processing an operation, as a statement about the pair that it answers. -/
lemma effect_of_eq {outcome : Outcome} {s' : Store} (h : Effect tokens s op outcome s')
    (heq : process (backend tokens) op s = (outcome, s')) :
    Effect tokens s op (process (backend tokens) op s).1 (process (backend tokens) op s).2 := by
  rw [heq]
  exact h

lemma effect_of_not_names (h : ∀ p reference, ¬ Names s op p reference) :
    Effect tokens s op (process (backend tokens) op s).1 (process (backend tokens) op s).2 := by
  obtain ⟨e, hlookup⟩ := checks_of_not_names h fun reference pool => do
    return (← getThe Store).lookup pool reference
  change (backend tokens).lookup op s = _ at hlookup
  cases hkind : op.kind with
  | create =>
      refine effect_of_eq
        (.refused hkind fun p reference _ hnames => absurd hnames (h p reference)) ?_
      cases hrecorded : op.recorded with
      | none => rw [Coordinator.process_plain _ _ _ hkind hrecorded, hlookup]
      | some text =>
          rw [Coordinator.process_recorded _ _ _ hkind hrecorded]
          cases Address.parse? text with
          | none => rfl
          | some a =>
              have hallocate : ∃ e, (backend tokens).allocate op a s = (.error e, s) :=
                checks_of_not_names h _
              obtain ⟨e, hallocate⟩ := hallocate
              simp only [hallocate]
  | delete =>
      refine effect_of_eq
        (.absent hkind fun p reference hnames => absurd hnames (h p reference)) ?_
      rw [Coordinator.process_delete _ _ _ hkind, hlookup]

/-- Where pool and reference are known, a refusal is one of this reference in this pool. -/
lemma Names.refused (h : Names s op p reference) (hkind : op.kind = .create)
    (hrefusal : ∀ a, ¬ Confirms op p reference a ∧ ¬ CanBind op p reference a) :
    Effect tokens s op (.failure op) s := by
  refine .refused hkind fun q other a hnames => ?_
  obtain ⟨rfl, rfl⟩ := h.unique hnames
  exact hrefusal a

lemma Names.effect_plain (h : Names s op p reference) (hp : p.Valid) (hkind : op.kind = .create)
    (hplain : op.recorded = none) :
    Effect tokens s op (process (backend tokens) op s).1 (process (backend tokens) op s).2 := by
  have hasks : ∀ a, Asks op p a ↔ p.lowestFree? = some a := by simp [Asks, hplain]
  have hrun := Coordinator.process_plain (backend tokens) op s hkind hplain
  simp only [h.lookup_apply] at hrun
  cases howned : p.owned? reference with
  | some a =>
      rw [howned] at hrun
      refine effect_of_eq (.confirmed hkind h ⟨howned, by simp [hplain]⟩) ?_
      rw [hrun, hplain]
      rfl
  | none =>
      rw [howned] at hrun
      simp only [h.allocateNext_apply howned] at hrun
      cases hlowest : p.lowestFree? with
      | none =>
          rw [hlowest] at hrun
          refine effect_of_eq (h.refused hkind fun a => ⟨fun hc => ?_, fun hb => ?_⟩) hrun
          · exact absurd (howned ▸ hc.owned) (by simp)
          · exact absurd ((hasks a).1 hb.asked) (by simp [hlowest])
      | some a =>
          rw [hlowest] at hrun
          cases hclash : p.carriesElsewhere a reference with
          | true =>
              simp only [hclash, if_true] at hrun
              refine effect_of_eq (h.refused hkind fun b => ⟨fun hc => ?_, fun hb => ?_⟩) hrun
              · exact absurd (howned ▸ hc.owned) (by simp)
              · have hba : a = b := by simpa [hlowest] using (hasks b).1 hb.asked
                subst hba
                exact absurd hb.unique (by simp [hclash])
          | false =>
              have hfree := ((Pool.lowestFree?_eq_some_iff hp).1 hlowest).1
              refine effect_of_eq
                (.bound hkind h ⟨howned, hfree, hclash, (hasks a).2 hlowest⟩) ?_
              simpa [hclash, published_backend h.labelled] using hrun

lemma Names.effect_recorded (h : Names s op p reference) (hp : p.Valid)
    (hkind : op.kind = .create) {text : String} (hrecorded : op.recorded = some text) :
    Effect tokens s op (process (backend tokens) op s).1 (process (backend tokens) op s).2 := by
  have hasks : ∀ a, Asks op p a ↔ Address.parse? text = some a := by simp [Asks, hrecorded]
  have hrun := Coordinator.process_recorded (backend tokens) op s hkind hrecorded
  cases hparse : Address.parse? text with
  | none =>
      rw [hparse] at hrun
      refine effect_of_eq (h.refused hkind fun a => ⟨fun hc => ?_, fun hb => ?_⟩) hrun
      · exact absurd (hc.recorded text hrecorded) (by simp [hparse])
      · exact absurd ((hasks a).1 hb.asked) (by simp [hparse])
  | some a =>
      rw [hparse] at hrun
      simp only [h.allocate_apply] at hrun
      by_cases howned : p.owned? reference = some a
      · rw [Store.allocateExact_of_owned h.pool hp howned] at hrun
        refine effect_of_eq (.confirmed hkind h ⟨howned, ?_⟩) ?_
        · intro other hother
          rw [hrecorded] at hother
          cases hother
          exact hparse
        · rw [hrun]
          simp [hrecorded, published_backend h.labelled]
      · by_cases hbinds : CanBind op p reference a
        · obtain ⟨token, hfree⟩ := hbinds.free
          rw [Store.allocateExact_of_free h.pool hp hbinds.unowned hfree,
            if_neg (by simp [hbinds.unique])] at hrun
          refine effect_of_eq (.bound hkind h hbinds) ?_
          rw [hrun]
          simp [published_backend h.labelled]
        · have hrefusal : Effect tokens s op (.failure op) s := by
            refine h.refused hkind fun b => ⟨fun hc => ?_, fun hb => ?_⟩
            · have hb := hc.recorded text hrecorded
              rw [hparse] at hb
              cases hb
              exact howned hc.owned
            · have hba := (hasks b).1 hb.asked
              rw [hparse] at hba
              cases hba
              exact hbinds hb
          refine effect_of_eq hrefusal ?_
          by_cases hfree : p.owned? reference = none ∧ ∃ token, ⟨a, .free token⟩ ∈ p.rows
          · obtain ⟨hnone, token, hfree⟩ := hfree
            have hclash : p.carriesElsewhere a reference = true := by
              by_contra hnew
              exact hbinds ⟨hnone, ⟨token, hfree⟩, Bool.eq_false_iff.2 hnew, (hasks a).2 hparse⟩
            rw [hrun, Store.allocateExact_of_free h.pool hp hnone hfree, if_pos hclash]
          · obtain ⟨answer, hexact, hne, hne'⟩ :=
              Store.allocateExact_of_refused h.pool hp howned fun hnone token hmem =>
                hfree ⟨hnone, token, hmem⟩
            rw [hrun, hexact]
            cases answer <;> simp_all

lemma Names.effect_delete (h : Names s op p reference) (hp : p.Valid)
    (hkind : op.kind = .delete) :
    Effect tokens s op (process (backend tokens) op s).1 (process (backend tokens) op s).2 := by
  have hrun := Coordinator.process_delete (backend tokens) op s hkind
  simp only [h.lookup_apply] at hrun
  cases howned : p.owned? reference with
  | none =>
      rw [howned] at hrun
      refine effect_of_eq (.absent hkind fun q other hnames => ?_) hrun
      obtain ⟨rfl, rfl⟩ := h.unique hnames
      exact howned
  | some a =>
      rw [howned] at hrun
      simp only [h.released_backend, Store.release_of_owned h.pool hp howned] at hrun
      by_cases hclash : p.carriesElsewhere a (tokens s.drawn) = true
      · exact effect_of_eq (.stuck hkind h howned hclash) (by simpa [hclash] using hrun)
      · have hnew := Bool.eq_false_iff.2 hclash
        exact effect_of_eq (.freed hkind h howned hnew) (by simpa [hnew] using hrun)

/-- **The coordinator does nothing else with an operation on a store.** -/
theorem process_effect (tokens : TokenSource) (hs : s.Valid) (op : Operation) :
    Effect tokens s op (process (backend tokens) op s).1 (process (backend tokens) op s).2 := by
  by_cases hnames : ∃ p reference, Names s op p reference
  · obtain ⟨p, reference, h⟩ := hnames
    have hp := hs _ _ h.pool
    cases hkind : op.kind with
    | create =>
        cases hrecorded : op.recorded with
        | none => exact h.effect_plain hp hkind hrecorded
        | some text => exact h.effect_recorded hp hkind hrecorded
    | delete => exact h.effect_delete hp hkind
  · exact effect_of_not_names fun p reference h => hnames ⟨p, reference, h⟩

end Effects

end Local

end Ipam
