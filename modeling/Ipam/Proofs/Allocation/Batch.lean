import Ipam.Proofs.Allocation.Tokens

/-!
# Lists of operations on the pools

* `Local.Sound` — a store that a controller works with: valid, labelled, and with tokens from its
  supply.  `Local.sound_of_start` and `Local.Sound.after` say that this is every store.
* `Store.Binds` — a reference owns some address of a pool.
* `Local.exists_free` — a pool with more addresses than owners has a free one.
* **`Local.binds_after_deletes`**, **`Local.binds_after_creates`** — which references own an address
  after a list of deletes, and after a list of creates for which there is room.
-/

namespace Ipam

open Pool (Row TokenSource)

/-- A reference owns an address of a pool. -/
def Store.Binds (s : Store) (label reference : String) : Prop :=
  ∃ a, s.lookup label reference = some a

namespace Local

/-! ## Stores that a controller works with -/

/-- A store that a controller works with. -/
structure Sound (tokens : TokenSource) (s : Store) : Prop where
  valid : s.Valid
  labelled : s.Labelled
  supplied : s.Supplied tokens

/-- The store after some operations. -/
def after (tokens : TokenSource) (s : Store) (ops : List Operation) : Store :=
  (Coordinator.processAll (backend tokens) ops s).2

variable {tokens : TokenSource} {s s' : Store} {op : Operation} {outcome : Outcome}

lemma sound_of_start {config : String} {report : SyncReport}
    (h : start tokens config ∅ = .ok (report, s)) : Sound tokens s where
  valid := valid_of_start h Store.valid_empty
  labelled := labelled_of_start h
  supplied := by
    obtain ⟨desired, -, hsync⟩ := start_eq_ok h
    exact (Store.synced_of_sync hsync).supplied Store.supplied_empty

/-- A store that was just started binds nothing. -/
lemma not_binds_of_start {config : String} {report : SyncReport}
    (h : start tokens config ∅ = .ok (report, s)) (label reference : String) :
    ¬ s.Binds label reference := by
  rintro ⟨a, hold⟩
  obtain ⟨desired, -, hsync⟩ := start_eq_ok h
  have hempty := ((Store.synced_of_sync hsync).lookup_eq_some_iff.1 hold).1
  rw [Store.lookup_of_no_pool (Store.pools_empty label)] at hempty
  cases hempty

lemma Effect.sound (h : Effect tokens s op outcome s') (hs : Sound tokens s)
    (hop : op.Avoids tokens) : Sound tokens s' where
  valid := h.valid hs.valid
  labelled := h.labelled hs.labelled
  supplied := h.supplied hs.supplied hop

lemma after_cons (s : Store) (op : Operation) (ops : List Operation) :
    after tokens s (op :: ops)
      = after tokens (Coordinator.process (backend tokens) op s).2 ops := by
  rw [after, Coordinator.processAll_cons]
  rfl

lemma after_append (s : Store) (ops more : List Operation) :
    after tokens s (ops ++ more) = after tokens (after tokens s ops) more :=
  Coordinator.processAll_append ..

lemma Sound.after {ops : List Operation} (hs : Sound tokens s)
    (hops : ∀ op ∈ ops, op.Avoids tokens) : Sound tokens (Local.after tokens s ops) := by
  induction ops generalizing s with
  | nil => exact hs
  | cons op ops ih =>
      obtain ⟨hop, hops⟩ := List.forall_mem_cons.1 hops
      rw [after_cons]
      exact ih ((process_effect tokens hs.valid op).sound hs hop) hops

/-- The rows of a pool are about the same addresses after an operation. -/
lemma Effect.addresses (h : Effect tokens s op outcome s') (label : String) :
    (s'.rows label).map (·.address) = (s.rows label).map (·.address) := by
  rcases h.rewrites with hsame | ⟨p, a, holder, hp, -, hset⟩
  · rw [Store.rows, Store.rows, hsame]
  · rw [Store.rows, hset, Store.pools_setPool]
    split_ifs with heq
    · subst heq
      rw [Store.rows_eq hp]
      exact Pool.map_address_setHolder p a holder
    · rfl

lemma addresses_after {ops : List Operation} (hs : Sound tokens s)
    (hops : ∀ op ∈ ops, op.Avoids tokens) (label : String) :
    ((Local.after tokens s ops).rows label).map (·.address)
      = (s.rows label).map (·.address) := by
  induction ops generalizing s with
  | nil => rfl
  | cons op ops ih =>
      obtain ⟨hop, hops⟩ := List.forall_mem_cons.1 hops
      have heffect := process_effect tokens hs.valid op
      rw [after_cons, ih (heffect.sound hs hop) hops, heffect.addresses]

lemma length_rows_after {ops : List Operation} (hs : Sound tokens s)
    (hops : ∀ op ∈ ops, op.Avoids tokens) (label : String) :
    ((Local.after tokens s ops).rows label).length = (s.rows label).length := by
  simpa using congrArg List.length (addresses_after hs hops label)

/-! ## Room -/

/-- A pool whose owners are among some references, and which has at least as many addresses, has a
free address for one of them that owns none. -/
lemma exists_free (hs : Sound tokens s) {label reference : String} {references : List String}
    (howners : ∀ owner, s.Binds label owner → owner ∈ references) (hmem : reference ∈ references)
    (hnot : ¬ s.Binds label reference) (hlength : references.length ≤ (s.rows label).length) :
    ∃ a token, ⟨a, .free token⟩ ∈ s.rows label := by
  by_contra hnone
  have hheld : ∀ row ∈ s.rows label, ∃ owner, row = ⟨row.address, .bound owner⟩ := by
    rintro ⟨a, token | owner⟩ hrow
    · exact absurd ⟨a, token, hrow⟩ hnone
    · exact ⟨owner, rfl⟩
  have hbinds : ∀ row ∈ s.rows label, s.Binds label row.holder.reference := by
    intro row hrow
    obtain ⟨owner, heq⟩ := hheld row hrow
    exact ⟨row.address, (Store.lookup_eq_some_iff hs.valid).2 (by rw [heq] at hrow ⊢; exact hrow)⟩
  have hdistinct : ((s.rows label).map (·.holder.reference)).Nodup := by
    cases hp : s.pools.get? label with
    | none => simp [Store.rows, hp]
    | some p =>
        rw [Store.rows_eq hp]
        exact (hs.valid _ _ hp).distinct
  have hnew : reference ∉ (s.rows label).map (·.holder.reference) := by
    intro hcarried
    obtain ⟨row, hrow, heq⟩ := List.mem_map.1 hcarried
    exact hnot (heq ▸ hbinds row hrow)
  have hsub : reference :: (s.rows label).map (·.holder.reference) ⊆ references := by
    intro text htext
    rcases List.mem_cons.1 htext with rfl | hcarried
    · exact hmem
    · obtain ⟨row, hrow, rfl⟩ := List.mem_map.1 hcarried
      exact howners _ (hbinds row hrow)
  have hle := (List.subperm_of_subset (List.nodup_cons.2 ⟨hnew, hdistinct⟩) hsub).length_le
  simp only [List.length_cons, List.length_map] at hle
  omega

/-! ## Deletes and creates -/

section Lists

variable {label reference : String}

/-- A delete takes the binding away that it names. -/
lemma Effect.binds_delete (h : Effect tokens s op outcome s') (hs : Sound tokens s)
    (hinj : Function.Injective tokens) (hkind : op.kind = .delete) :
    s'.Binds label reference ↔ s.Binds label reference ∧ ¬ op.Concerns label reference := by
  have hnew := hs.supplied.drawsNew hinj op
  simp [Store.Binds, h.lookup_eq_some_iff hs.valid hs.labelled hnew, hkind]

/-- A plain create with room adds the binding that it names. -/
lemma Effect.binds_create (h : Effect tokens s op outcome s') (hs : Sound tokens s)
    (hop : op.Avoids tokens) (hkind : op.kind = .create) (hplain : op.recorded = none)
    {owner pool : String} (hnames : op.Concerns pool owner)
    (hroom : s.Binds pool owner ∨ ∃ a token, ⟨a, .free token⟩ ∈ s.rows pool) :
    s'.Binds label reference ↔ s.Binds label reference ∨ op.Concerns label reference := by
  have hnew : DrawsNew tokens s op := by
    intro hdelete
    rw [hkind] at hdelete
    cases hdelete
  have hanswer : ∃ a, outcome.verdict = .succeeded (some a) := by
    cases h with
    | confirmed | bound => exact ⟨_, rfl⟩
    | absent kind | freed kind | stuck kind =>
        rw [hkind] at kind
        cases kind
    | refused _ refusal =>
        exfalso
        rcases hroom with ⟨a, hold⟩ | ⟨a, token, hfree⟩
        · obtain ⟨p, names, howned⟩ := names_of_lookup hs.labelled hnames hold
          exact (refusal p owner a names).1 ⟨howned, by simp [hplain]⟩
        · obtain ⟨rfl, hreference⟩ := hnames
          cases hp : s.pools.get? op.pool with
          | none => simp [Store.rows, hp] at hfree
          | some p =>
              rw [Store.rows_eq hp] at hfree
              have names : Names s op p owner := ⟨hreference, hs.labelled _ _ hp, hp⟩
              cases howned : p.owned? owner with
              | some b => exact (refusal p owner b names).1 ⟨howned, by simp [hplain]⟩
              | none =>
                  cases hlowest : p.lowestFree? with
                  | none =>
                      have hheld := Pool.lowestFree?_eq_none_iff.1 hlowest _ hfree
                      cases hheld
                  | some b =>
                      have hleast := (Pool.lowestFree?_eq_some_iff (hs.valid _ _ hp)).1 hlowest
                      exact (refusal p owner b names).2 ⟨howned, hleast.1,
                        hs.supplied.unique hp (hop owner hreference) howned b, by
                          simp [Asks, hplain, hlowest]⟩
  obtain ⟨a, hanswer⟩ := hanswer
  simp only [Store.Binds, h.lookup_eq_some_iff hs.valid hs.labelled hnew, hanswer, hkind]
  constructor
  · rintro ⟨b, ⟨-, hconcerns, -⟩ | ⟨hold, -⟩⟩
    · exact .inr hconcerns
    · exact .inl ⟨b, hold⟩
  · rintro (⟨b, hold⟩ | hconcerns)
    · exact ⟨b, .inr ⟨hold, by simp⟩⟩
    · exact ⟨a, .inl ⟨trivial, hconcerns, rfl⟩⟩

/-- **After a list of deletes**, a binding is left exactly if none of them names it. -/
theorem binds_after_deletes (hs : Sound tokens s) (hinj : Function.Injective tokens)
    {ops : List Operation} (hops : ∀ op ∈ ops, op.kind = .delete ∧ op.Avoids tokens) :
    (after tokens s ops).Binds label reference ↔
      s.Binds label reference ∧ ∀ op ∈ ops, ¬ op.Concerns label reference := by
  induction ops generalizing s with
  | nil => simp [after]
  | cons op ops ih =>
      obtain ⟨⟨hkind, hop⟩, hops⟩ := List.forall_mem_cons.1 hops
      have heffect := process_effect tokens hs.valid op
      rw [after_cons, ih (heffect.sound hs hop) hops, heffect.binds_delete hs hinj hkind,
        List.forall_mem_cons, and_assoc]

/-- **After a list of plain creates** for which there is room, there are the bindings from before
and all those that are named. -/
theorem binds_after_creates (hs : Sound tokens s) {ops : List Operation}
    (hops : ∀ op ∈ ops, op.kind = .create ∧ op.recorded = none ∧ op.Avoids tokens)
    (references : String → List String)
    (howners : ∀ label owner, s.Binds label owner → owner ∈ references label)
    (hroom : ∀ op ∈ ops, ∃ label owner, op.Concerns label owner ∧ owner ∈ references label ∧
      (references label).length ≤ (s.rows label).length) :
    (after tokens s ops).Binds label reference ↔
      s.Binds label reference ∨ ∃ op ∈ ops, op.Concerns label reference := by
  induction ops generalizing s with
  | nil => simp [after]
  | cons op ops ih =>
      obtain ⟨⟨hkind, hplain, hop⟩, hops⟩ := List.forall_mem_cons.1 hops
      obtain ⟨⟨pool, owner, hnames, hmem, hlength⟩, hroom⟩ := List.forall_mem_cons.1 hroom
      have heffect := process_effect tokens hs.valid op
      have hsound := heffect.sound hs hop
      have hthere : s.Binds pool owner ∨ ∃ a token, ⟨a, .free token⟩ ∈ s.rows pool := by
        by_cases hbinds : s.Binds pool owner
        · exact .inl hbinds
        · exact .inr (exists_free hs (howners pool) hmem hbinds hlength)
      have hbinds : ∀ label reference,
          (Coordinator.process (backend tokens) op s).2.Binds label reference ↔
            s.Binds label reference ∨ op.Concerns label reference :=
        fun _ _ => heffect.binds_create hs hop hkind hplain hnames hthere
      rw [after_cons, ih hsound hops ?_ ?_, hbinds, or_assoc]
      · simp
      · intro other holder hholder
        rcases (hbinds other holder).1 hholder with hold | hconcerns
        · exact howners other holder hold
        · have hsame := hconcerns.reference.symm.trans hnames.reference
          cases hsame
          obtain rfl := hconcerns.pool.symm.trans hnames.pool
          exact hmem
      · intro other hother
        obtain ⟨label, holder, hconcerns, hholder, hle⟩ := hroom other hother
        refine ⟨label, holder, hconcerns, hholder, ?_⟩
        have hrows := congrArg List.length (heffect.addresses label)
        simp only [List.length_map] at hrows
        exact hrows ▸ hle

end Lists

end Local

end Ipam
