import Ipam.Proofs.Coordinator.Desired
import Ipam.Proofs.Coordinator.Runs
import Mathlib

/-!
# Records and their bindings

A binding is kept under its reference and published under a host name, by two calls that know nothing
of each other.  This file says when a DNS record is left behind.

* `Store.IsAllocated`, `Store.Dangles` — an address that is bound in its pool, and a record whose
  address is not.
* `Step.Strands` — a delete that frees an address but carries another host name than a record of it,
  or none.
* `Step.Settles` — the address of a record is bound again, or its pool is dropped.
* **`Step.dangles_iff`** — what one event does.
* **`dangles_iff_stranded`** — a record dangles exactly if a delete has stranded it and nothing has
  settled it since; and none ever does if a reference always comes with the same host name.
-/

namespace Ipam

open Pool (TokenSource)

namespace Store

/-- An address is bound in its pool. -/
def IsAllocated (s : Store) (label : String) (a : Address) : Prop :=
  ∃ reference, ⟨a, .bound reference⟩ ∈ s.rows label

/-- A record points to an address that is not bound in its pool. -/
def Dangles (s : Store) (record : DnsRecord) : Prop :=
  record ∈ s.dns ∧ ¬ s.IsAllocated record.pool record.address

variable {s : Store} {label : String} {a : Address}

lemma isAllocated_iff (hs : s.Valid) :
    s.IsAllocated label a ↔ ∃ reference, s.lookup label reference = some a :=
  exists_congr fun _ => (lookup_eq_some_iff hs).symm

end Store

namespace Local

open Coordinator (process)

variable {tokens : TokenSource} {s s' : Store} {op : Operation} {outcome : Outcome} {p : Pool}
  {reference : String} {record : DnsRecord}

/-! ## Steps that matter to a record -/

/-- An operation is about a reference that owns an address. -/
def Reaches (s : Store) (op : Operation) (label : String) (a : Address) : Prop :=
  ∃ reference, op.Concerns label reference ∧ s.lookup label reference = some a

/-- A delete frees the address of a record and leaves the record, as it carries another host name or
none. -/
def Step.Strands (tokens : TokenSource) (record : DnsRecord) (step : Step) : Prop :=
  ∃ op, step.event = .operation op ∧ op.kind = .delete ∧
    Reaches step.before op record.pool record.address ∧
    ¬ (process (backend tokens) op step.before).2.IsAllocated record.pool record.address ∧
    record ∈ step.before.dns ∧ op.host ≠ some record.host

/-- A controller has started without the pool, or with another range text for it. -/
def Step.Drops (tokens : TokenSource) (label : String) (step : Step) : Prop :=
  ∃ config range desired report s, step.event = .restart config ∧
    start tokens config step.before = .ok (report, s) ∧
    Pool.parseConfig config = .ok desired ∧
    step.before.ranges.get? label = some range ∧ desired.get? label ≠ some range

/-- The address of a record was granted to somebody, or its pool was dropped. -/
def Step.Settles (tokens : TokenSource) (record : DnsRecord) (step : Step) : Prop :=
  (∃ reference, step.Grants tokens record.pool reference record.address) ∨
    step.Drops tokens record.pool

/-! ## One operation -/

lemma Reaches.isAllocated (hs : s.Valid) {label : String} {a : Address}
    (h : Reaches s op label a) : s.IsAllocated label a := by
  obtain ⟨reference, -, hlookup⟩ := h
  exact (Store.isAllocated_iff hs).2 ⟨reference, hlookup⟩

lemma Names.reaches_iff (h : Names s op p reference) {label : String} {a b : Address}
    (howned : p.owned? reference = some a) :
    Reaches s op label b ↔ label = op.pool ∧ b = a := by
  constructor
  · rintro ⟨other, hconcerns, hlookup⟩
    obtain ⟨rfl, rfl⟩ := h.of_concerns hconcerns
    rw [h.lookup, howned] at hlookup
    cases hlookup
    exact ⟨rfl, rfl⟩
  · rintro ⟨rfl, rfl⟩
    exact ⟨reference, h.concerns, h.lookup.trans howned⟩

section Allocated

variable (h : Effect tokens s op outcome s') (hs : s.Valid) (label : String) (a : Address)

include h hs

/-- A create adds the address that it answers. -/
lemma Effect.isAllocated_of_create (hl : s.Labelled) (hkind : op.kind = .create) :
    s'.IsAllocated label a ↔ s.IsAllocated label a ∨
      ((∃ reference, op.Concerns label reference) ∧ outcome.verdict = .succeeded (some a)) := by
  rw [Store.isAllocated_iff (h.valid hs), Store.isAllocated_iff hs]
  simp only [h.lookup_eq_some_iff hs hl (drawsNew_of_create hkind), hkind, reduceCtorEq, false_and,
    not_false_eq_true, and_true, true_and, exists_or, exists_and_right]
  exact or_comm

/-- A delete adds no binding, and takes none away but that of its reference. -/
lemma Effect.lookup_delete (hkind : op.kind = .delete) (reference : String) :
    (s'.lookup label reference = some a → s.lookup label reference = some a) ∧
      (s.lookup label reference = some a →
        s'.lookup label reference = some a ∨ op.Concerns label reference) := by
  cases h with
  | refused kind | confirmed kind | bound kind => cases hkind.symm.trans kind
  | absent => exact ⟨id, .inl⟩
  | stuck =>
      rw [Store.lookup_congr (Store.pools_withdrawn ..)]
      exact ⟨id, .inl⟩
  | @freed p owner b _ names owned new =>
      rw [Store.lookup_congr (Store.pools_withdrawn ..)]
      change ((s.setPool op.pool (p.setHolder b (.free (tokens s.drawn)))).lookup label reference
          = some a → _) ∧ (_ → (s.setPool op.pool
            (p.setHolder b (.free (tokens s.drawn)))).lookup label reference = some a ∨ _)
      rw [names.lookup_free hs owned new]
      by_cases hthis : op.pool = label ∧ reference = owner
      · rw [if_pos hthis]
        obtain ⟨rfl, rfl⟩ := hthis
        exact ⟨fun hnone => (by cases hnone), fun _ => .inr names.concerns⟩
      · rw [if_neg hthis]
        exact ⟨id, .inl⟩

/-- A delete adds no address, and takes none away but that of its reference. -/
lemma Effect.isAllocated_of_delete (hkind : op.kind = .delete) :
    (s'.IsAllocated label a → s.IsAllocated label a) ∧
      (s.IsAllocated label a → s'.IsAllocated label a ∨ Reaches s op label a) := by
  rw [Store.isAllocated_iff (h.valid hs), Store.isAllocated_iff hs]
  constructor
  · rintro ⟨reference, hafter⟩
    exact ⟨reference, (h.lookup_delete hs label a hkind reference).1 hafter⟩
  · rintro ⟨reference, hbefore⟩
    rcases (h.lookup_delete hs label a hkind reference).2 hbefore with hkept | hconcerns
    · exact .inl ⟨reference, hkept⟩
    · exact .inr ⟨reference, hconcerns, hbefore⟩

end Allocated

/-- A create leaves all records, and adds only records of addresses that are bound now. -/
lemma Effect.mem_dns_of_create (h : Effect tokens s op outcome s') (hkind : op.kind = .create)
    (record : DnsRecord) :
    (record ∈ s.dns → record ∈ s'.dns) ∧
      (record ∈ s'.dns → record ∈ s.dns ∨
        ((∃ reference, op.Concerns record.pool reference) ∧ op.host = some record.host ∧
          outcome.verdict = .succeeded (some record.address))) := by
  cases h with
  | refused => exact ⟨id, .inl⟩
  | @confirmed p owner a _ names =>
      split_ifs
      · rw [Store.mem_dns_published]
        refine ⟨.inl, ?_⟩
        rintro (hold | ⟨hpool, hhost, haddress⟩)
        · exact .inl hold
        · exact .inr ⟨⟨owner, hpool ▸ names.concerns⟩, hhost, by rw [haddress]; rfl⟩
      · exact ⟨id, .inl⟩
  | @bound p owner a _ names =>
      rw [Store.mem_dns_published]
      refine ⟨.inl, ?_⟩
      rintro (hold | ⟨hpool, hhost, haddress⟩)
      · exact .inl hold
      · exact .inr ⟨⟨owner, hpool ▸ names.concerns⟩, hhost, by rw [haddress]; rfl⟩
  | absent kind | freed kind | stuck kind => cases hkind.symm.trans kind

/-- A delete withdraws the record of its own host for the address of its reference, and no other. -/
lemma Effect.mem_dns_of_delete (h : Effect tokens s op outcome s') (hl : s.Labelled)
    (hkind : op.kind = .delete) :
    record ∈ s'.dns ↔ record ∈ s.dns ∧
      ¬ (op.host = some record.host ∧ Reaches s op record.pool record.address) := by
  cases h with
  | refused kind | confirmed kind | bound kind => cases hkind.symm.trans kind
  | absent _ unowned =>
      have hnone : ¬ Reaches s op record.pool record.address := by
        rintro ⟨reference, hconcerns, hlookup⟩
        obtain ⟨p, names, howned⟩ := names_of_lookup hl hconcerns hlookup
        rw [unowned p reference names] at howned
        cases howned
      simp [hnone]
  | @freed p owner a _ names owned | @stuck p owner a _ names owned =>
      rw [Store.mem_dns_withdrawn, names.reaches_iff owned]
      refine and_congr_right' (not_congr ?_)
      tauto

/-- **The records that dangle after an operation** are those from before whose address is not
granted by it, and those whose binding it ends while it carries another host name. -/
theorem Effect.dangles_iff (h : Effect tokens s op outcome s') (hs : s.Valid) (hl : s.Labelled) :
    s'.Dangles record ↔
      (op.kind = .delete ∧ Reaches s op record.pool record.address ∧
        ¬ s'.IsAllocated record.pool record.address ∧ record ∈ s.dns ∧
        op.host ≠ some record.host) ∨
      (s.Dangles record ∧ ¬ (op.kind = .create ∧
        (∃ reference, op.Concerns record.pool reference) ∧
        outcome.verdict = .succeeded (some record.address))) := by
  unfold Store.Dangles
  cases hkind : op.kind with
  | create =>
      obtain ⟨hkeeps, hnew⟩ := h.mem_dns_of_create hkind record
      rw [h.isAllocated_of_create hs record.pool record.address hl hkind]
      simp only [reduceCtorEq, false_and, false_or, true_and]
      tauto
  | delete =>
      obtain ⟨hless, hmore⟩ := h.isAllocated_of_delete hs record.pool record.address hkind
      have hreaches : Reaches s op record.pool record.address → _ := Reaches.isAllocated hs
      rw [h.mem_dns_of_delete hl hkind]
      simp only [reduceCtorEq, false_and, not_false_eq_true, and_true, true_and]
      tauto

/-! ## One event -/

lemma ends_restart_iff (config label reference : String) :
    Step.Ends tokens label reference ⟨s, .restart config⟩ ↔
      Step.Drops tokens label ⟨s, .restart config⟩ := by
  simp [Step.Ends, Step.Drops]

/-- A start forgets the records of the pools that it drops. -/
lemma mem_dns_restart_iff (config : String) :
    record ∈ (Event.apply tokens s (.restart config)).dns ↔
      record ∈ s.dns ∧ ¬ Step.Drops tokens record.pool ⟨s, .restart config⟩ := by
  cases hstart : start tokens config s with
  | error cause =>
      rw [Event.apply_of_error hstart]
      simp [Step.Drops, hstart]
  | ok result =>
      obtain ⟨report, s'⟩ := result
      obtain ⟨desired, hconfig, hsync⟩ := start_eq_ok hstart
      have hdrops : Step.Drops tokens record.pool ⟨s, .restart config⟩ ↔
          ∃ range, s.ranges.get? record.pool = some range ∧
            desired.get? record.pool ≠ some range := by
        simp [Step.Drops, hstart, hconfig]
      rw [Event.apply_of_start hstart, hdrops, (Store.synced_of_sync hsync).dns, Store.dropStale,
        Store.get?_ranges]
      cases hp : s.pools.get? record.pool <;> simp [hp, Store.isKept]

/-- **The records that dangle after an event** are those that it strands, and those from before that
it does not settle. -/
theorem Step.dangles_iff (event : Event) (hs : s.Valid) (hl : s.Labelled) :
    (event.apply tokens s).Dangles record ↔
      Step.Strands tokens record ⟨s, event⟩ ∨
        (s.Dangles record ∧ ¬ Step.Settles tokens record ⟨s, event⟩) := by
  cases event with
  | operation op =>
      refine ((process_effect tokens hs op).dangles_iff hs hl).trans ?_
      simp [Step.Strands, Step.Settles, Step.Grants, Step.Drops]
  | restart config =>
      have hnothing : ¬ Step.Strands tokens record ⟨s, .restart config⟩ := by simp [Step.Strands]
      have hsettles : Step.Settles tokens record ⟨s, .restart config⟩ ↔
          Step.Drops tokens record.pool ⟨s, .restart config⟩ := by
        simp [Step.Settles, Step.Grants]
      have hlookup : ∀ reference,
          (Event.apply tokens s (.restart config)).lookup record.pool reference = some record.address
            ↔ s.lookup record.pool reference = some record.address ∧
              ¬ Step.Drops tokens record.pool ⟨s, .restart config⟩ := fun reference => by
        rw [lookup_restart_iff, ends_restart_iff]
      unfold Store.Dangles
      rw [mem_dns_restart_iff, Store.isAllocated_iff hs,
        Store.isAllocated_iff (Event.apply_valid tokens _ hs), hsettles]
      simp only [hlookup, exists_and_right]
      tauto

/-! ## References with one host name -/

/-- Whatever is asked for a reference of a pool carries the same host name. -/
def Uniform (events : List Event) : Prop :=
  ∀ op other label reference, .operation op ∈ events → .operation other ∈ events →
    op.Concerns label reference → other.Concerns label reference → op.host = other.host

/-- Every record carries the host name of an operation for the reference that owns its address. -/
def Attested (events : List Event) (s : Store) : Prop :=
  ∀ record ∈ s.dns, ∃ op reference, .operation op ∈ events ∧ op.Concerns record.pool reference ∧
    op.host = some record.host ∧ s.lookup record.pool reference = some record.address

variable {events : List Event}

lemma Attested.not_dangles (h : Attested events s) (hs : s.Valid) : ¬ s.Dangles record := by
  rintro ⟨hmem, hfree⟩
  obtain ⟨op, reference, -, -, -, hlookup⟩ := h record hmem
  exact hfree ((Store.isAllocated_iff hs).2 ⟨reference, hlookup⟩)

lemma Attested.apply (h : Attested events s) (huniform : Uniform events) {event : Event}
    (hevent : event ∈ events) (hs : s.Valid) (hl : s.Labelled) :
    Attested events (event.apply tokens s) := by
  intro record hmem
  cases event with
  | restart config =>
      obtain ⟨hold, hkept⟩ := (mem_dns_restart_iff config).1 hmem
      obtain ⟨op, reference, hop, hconcerns, hhost, hlookup⟩ := h record hold
      refine ⟨op, reference, hop, hconcerns, hhost, ?_⟩
      exact (lookup_restart_iff config _ _ _).2 ⟨hlookup, mt (ends_restart_iff _ _ _).1 hkept⟩
  | operation op =>
      have heffect := process_effect tokens hs op
      cases hkind : op.kind with
      | create =>
          rcases (heffect.mem_dns_of_create hkind record).2 hmem with
            hold | ⟨⟨reference, hconcerns⟩, hhost, hanswer⟩
          · obtain ⟨other, reference, hother, hconcerns, hhost, hlookup⟩ := h record hold
            refine ⟨other, reference, hother, hconcerns, hhost, ?_⟩
            exact (heffect.lookup_eq_some_iff hs hl (drawsNew_of_create hkind)).2
              (.inr ⟨hlookup, by simp [hkind]⟩)
          · exact ⟨op, reference, hevent, hconcerns, hhost,
              heffect.lookup_of_answer hs hl hkind hconcerns hanswer⟩
      | delete =>
          obtain ⟨hold, hother⟩ := (heffect.mem_dns_of_delete hl hkind).1 hmem
          obtain ⟨other, reference, hmade, hconcerns, hhost, hlookup⟩ := h record hold
          refine ⟨other, reference, hmade, hconcerns, hhost, ?_⟩
          -- A delete for this reference would have carried the host name of the record.
          refine ((heffect.lookup_delete hs _ _ hkind reference).2 hlookup).resolve_right fun hthis =>
            hother ⟨?_, reference, hthis, hlookup⟩
          rw [huniform op other _ _ hevent hmade hthis hconcerns, hhost]

lemma Attested.storeAfter (h : Attested events s) (huniform : Uniform events) {run : List Event}
    (hrun : run ⊆ events) (hs : s.Valid) (hl : s.Labelled) :
    Attested events (storeAfter tokens s run) := by
  induction run generalizing s with
  | nil => exact h
  | cons event run ih =>
      obtain ⟨hevent, hrun⟩ := List.cons_subset.1 hrun
      exact ih (h.apply huniform hevent hs hl) hrun (event.apply_valid tokens hs)
        (event.apply_labelled tokens hs hl)

/-! ## Any number of events -/

/-- **A record points to an address that is not allocated exactly if a delete with another host name
has freed the address and nothing has settled the record since.**  If whatever is asked for a
reference of a pool carries the same host name, every record points to an allocated address. -/
theorem dangles_iff_stranded (tokens : TokenSource) (events : List Event) :
    (∀ record, (storeAfter tokens ∅ events).Dangles record ↔
      ∃ earlier step later, history tokens ∅ events = earlier ++ step :: later ∧
        step.Strands tokens record ∧ ∀ other ∈ later, ¬ other.Settles tokens record) ∧
    (Uniform events → ∀ record ∈ (storeAfter tokens ∅ events).dns,
      (storeAfter tokens ∅ events).IsAllocated record.pool record.address) := by
  constructor
  · intro record
    have hstep : ∀ step ∈ history tokens ∅ events,
        (step.event.apply tokens step.before).Dangles record ↔
          step.Strands tokens record ∨ (step.before.Dangles record ∧ ¬ step.Settles tokens record) := by
      intro step hstep
      obtain ⟨hvalid, hlabelled⟩ :=
        mem_history_intact Store.valid_empty Store.labelled_empty hstep
      exact Step.dangles_iff step.event hvalid hlabelled
    have hempty : ¬ (∅ : Store).Dangles record := fun h => by cases h.1
    rw [holds_storeAfter_iff (fun s : Store => s.Dangles record) events hstep]
    simp [hempty]
  · intro huniform record hmem
    have hattested : Attested events (∅ : Store) := fun record hmem => by cases hmem
    have hvalid := (storeAfter_valid tokens events Store.valid_empty Store.labelled_empty).1
    have hafter : Attested events (Local.storeAfter tokens ∅ events) :=
      hattested.storeAfter huniform (List.Subset.refl events) Store.valid_empty
        Store.labelled_empty
    by_contra hfree
    exact hafter.not_dangles hvalid ⟨hmem, hfree⟩

/-- A host is published, and stays. -/
theorem isAllocated_of_www :
    Uniform [.restart Pool.pairConfig, .operation (.create ⟨"web", "prod"⟩ (some "www") none "lan")] ∧
      (storeAfter Pool.Token.dashes ∅ [.restart Pool.pairConfig,
        .operation (.create ⟨"web", "prod"⟩ (some "www") none "lan")]).IsAllocated "lan"
          (.ofNat 0x0A000001) := by
  have huniform : Uniform [.restart Pool.pairConfig,
      .operation (.create ⟨"web", "prod"⟩ (some "www") none "lan")] := by
    intro op other label reference hop hother _ _
    simp only [List.mem_cons, reduceCtorEq, Event.operation.injEq, List.not_mem_nil, or_false,
      false_or] at hop hother
    rw [hop, hother]
  have hafter : storeAfter Pool.Token.dashes ∅ [.restart Pool.pairConfig,
      .operation (.create ⟨"web", "prod"⟩ (some "www") none "lan")]
      = after Pool.Token.dashes pairStore [.create ⟨"web", "prod"⟩ (some "www") none "lan"] := by
    rw [storeAfter, List.foldl_cons, Event.apply_of_start start_pairConfig]
    rfl
  have hdns : (after Pool.Token.dashes pairStore
      [.create ⟨"web", "prod"⟩ (some "www") none "lan"]).dns
      = [⟨"lan", "www", .ofNat 0x0A000001⟩] := by
    cbv
  exact ⟨huniform, (dangles_iff_stranded Pool.Token.dashes _).2 huniform
    ⟨"lan", "www", .ofNat 0x0A000001⟩ (by rw [hafter, hdns]; exact List.mem_singleton_self _)⟩

/-- **A record may outlive its binding.**  A host is published under a key, and the delete names the
key alone. -/
theorem dangles_of_forgotten_host :
    start Pool.Token.dashes Pool.pairConfig ∅ = .ok (⟨[], [], [], ["lan"]⟩, pairStore) ∧
      (after Pool.Token.dashes pairStore [.create ⟨"web", "prod"⟩ (some "www") (some "key") "lan",
        .delete ⟨"web", "prod"⟩ none (some "key") "lan"]).Dangles
          ⟨"lan", "www", .ofNat 0x0A000001⟩ := by
  have hdns : (after Pool.Token.dashes pairStore
      [.create ⟨"web", "prod"⟩ (some "www") (some "key") "lan",
        .delete ⟨"web", "prod"⟩ none (some "key") "lan"]).dns
      = [⟨"lan", "www", .ofNat 0x0A000001⟩] := by
    cbv
  have hrows : (after Pool.Token.dashes pairStore
      [.create ⟨"web", "prod"⟩ (some "www") (some "key") "lan",
        .delete ⟨"web", "prod"⟩ none (some "key") "lan"]).rows "lan"
      = [⟨.ofNat 0x0A000001, .free (Pool.Token.dashes 2)⟩,
        ⟨.ofNat 0x0A000002, .free (Pool.Token.dashes 1)⟩] := by
    cbv
  refine ⟨start_pairConfig, by rw [hdns]; exact List.mem_singleton_self _, ?_⟩
  rintro ⟨reference, hrow⟩
  rw [hrows] at hrow
  simp at hrow

end Local

end Ipam
