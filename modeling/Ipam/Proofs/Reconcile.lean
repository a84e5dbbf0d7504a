import Ipam.Proofs.Allocation.Bindings
import Ipam.Reconcile

/-!
# What the operations for a change are about

Requests and records are compared by binding keys, while a backend knows pools and references.
`Operation.IsFor` is where the two meet: the operation of a binding names the pool and the reference
of its key.

* `BindingKey.Names` — the pool and the reference that a key stands for.
* `Store.addressOf` — the address that a store keeps for the binding with a key.
* `Reconcile.distinct_keys` — requests without repeated keys have the keys that they had before.
* `Reconcile.mem_onCreate`, `Reconcile.mem_onUpdate` — every operation is for a binding of the
  resource.
* `Reconcile.changes` — the operations that lead from some requests to others, as they make up an
  update.
* `Reconcile.onCreate_phases` — a new resource leads to its recorded addresses, then to deletes,
  then to plain creates.
* **`Reconcile.exists_settling`**, **`Reconcile.exists_create`** — every binding of a new resource
  gets an operation without a recorded address, after all the recorded ones, and so does every
  binding that an update brings.
-/

namespace Ipam

open Text (nonEmpty)

/-! ## Keys and operations -/

/-- The name under which the binding with a key is kept. -/
def BindingKey.reference? (k : BindingKey) : Option String :=
  k.key <|> k.host

/-- The pool and the reference that a key stands for.  Different keys may stand for the same. -/
structure BindingKey.Names (k : BindingKey) (label reference : String) : Prop where
  pool : k.pool = some label
  reference : k.reference? = some reference

/-- A complete key stands for a pool and a reference. -/
lemma BindingKey.exists_names {k : BindingKey} (h : k.isComplete = true) :
    ∃ label reference, k.Names label reference := by
  obtain ⟨host, key, pool⟩ := k
  simp only [BindingKey.isComplete, Bool.and_eq_true, Bool.or_eq_true] at h
  obtain ⟨hpool, hname⟩ := h
  obtain ⟨label, rfl⟩ := Option.isSome_iff_exists.1 hpool
  cases key with
  | some key => exact ⟨label, key, rfl, rfl⟩
  | none =>
      obtain ⟨host, rfl⟩ := Option.isSome_iff_exists.1 (hname.resolve_right (by simp))
      exact ⟨label, host, rfl, rfl⟩

lemma BindingKey.Names.isComplete {k : BindingKey} {label reference : String}
    (h : k.Names label reference) : k.isComplete = true := by
  obtain ⟨host, key, pool⟩ := k
  obtain ⟨hpool, hreference⟩ := h
  cases host <;> cases key <;> simp_all [BindingKey.isComplete, BindingKey.reference?]

lemma BindingKey.Names.unique {k : BindingKey} {label reference other name : String}
    (h : k.Names label reference) (h' : k.Names other name) : label = other ∧ reference = name :=
  ⟨Option.some.inj (h.pool.symm.trans h'.pool),
    Option.some.inj (h.reference.symm.trans h'.reference)⟩

/-- The address that a store keeps for the binding with a key. -/
def Store.addressOf (s : Store) (k : BindingKey) : Option Address := do
  s.lookup (← k.pool) (← k.reference?)

lemma Store.addressOf_eq (s : Store) {k : BindingKey} {label reference : String}
    (h : k.Names label reference) : s.addressOf k = s.lookup label reference := by
  simp [addressOf, h.pool, h.reference]

/-- An operation is about the binding with a key. -/
structure Operation.IsFor (op : Operation) (k : BindingKey) : Prop where
  bindingKey : op.bindingKey = k
  reference : op.reference? = k.reference?
  pool : k.pool = some op.pool
  complete : k.isComplete = true

lemma Operation.IsFor.unique {op : Operation} {k l : BindingKey} (hk : op.IsFor k)
    (hl : op.IsFor l) : k = l :=
  hk.bindingKey.symm.trans hl.bindingKey

/-- An operation names what its key stands for. -/
lemma Operation.IsFor.concerns_iff {op : Operation} {k : BindingKey} (h : op.IsFor k)
    {label reference : String} : op.Concerns label reference ↔ k.Names label reference := by
  constructor
  · intro hop
    exact ⟨hop.pool ▸ h.pool, h.reference ▸ hop.reference⟩
  · intro hk
    exact ⟨Option.some.inj (h.pool.symm.trans hk.pool), h.reference.trans hk.reference⟩

lemma Request.bindingKey_pool (r : Request) : r.bindingKey.pool = r.pool := by
  have hempty : nonEmpty r.pool = r.pool := by
    rw [pool]
    cases hlabel : nonEmpty r.label with
    | none => exact Text.nonEmpty_nonEmpty _
    | some label =>
        have htwice := Text.nonEmpty_nonEmpty r.label
        rwa [hlabel] at htwice
  exact hempty

lemma Request.isComplete_iff {r : Request} :
    r.bindingKey.isComplete = true ↔ ∃ pool, r.pool = some pool ∧ r.isIdentified = true := by
  rw [BindingKey.isComplete, bindingKey_pool, Bool.and_eq_true, Option.isSome_iff_exists,
    exists_and_right]
  rfl

/-- The operation of a kind that is built from the parts of a request is for its binding. -/
lemma Request.isFor {r : Request} {op : Operation} {pool : String} (hpool : r.pool = some pool)
    (hidentified : r.isIdentified = true) (hhost : op.host = nonEmpty r.host)
    (hkey : op.key = nonEmpty r.key) (hop : op.pool = pool) : op.IsFor r.bindingKey where
  bindingKey := by
    have hsome := r.bindingKey_pool
    rw [hpool, bindingKey, BindingKey.of, hpool] at hsome
    rw [Operation.bindingKey, bindingKey, hhost, hkey, hop, hpool]
    simp only [BindingKey.of, Text.nonEmpty_nonEmpty]
  reference := by
    rw [Operation.reference?, hkey, hhost]
    rfl
  pool := by rw [bindingKey_pool, hpool, hop]
  complete := isComplete_iff.2 ⟨pool, hpool, hidentified⟩

namespace Reconcile

variable {kind : OperationKind} {owner : ResourceRef} {op : Operation} {k : BindingKey}

/-- What is known of the operation for one binding. -/
lemma isFor_of_operation? {r : Request} (h : operation? kind owner r = some op) :
    op.IsFor r.bindingKey ∧ op.kind = kind ∧ op.owner = owner ∧ op.recorded = none := by
  simp only [operation?, Option.bind_eq_bind, Option.bind_eq_some_iff] at h
  obtain ⟨pool, hpool, h⟩ := h
  split_ifs at h with hidentified
  cases h
  exact ⟨r.isFor hpool hidentified rfl rfl rfl, rfl, rfl, rfl⟩

lemma exists_operation? (kind : OperationKind) (owner : ResourceRef) {r : Request}
    (h : r.bindingKey.isComplete = true) : ∃ op, operation? kind owner r = some op := by
  obtain ⟨pool, hpool, hidentified⟩ := Request.isComplete_iff.1 h
  simp [operation?, hpool, hidentified]

lemma isFor_of_replay? {r : Record} (h : replay? owner r = some op) :
    op.IsFor r.bindingKey ∧ op.kind = .create ∧ op.owner = owner ∧ op.recorded = some r.ip := by
  simp only [replay?, Option.bind_eq_bind, Option.bind_eq_some_iff] at h
  obtain ⟨pool, hpool, h⟩ := h
  split_ifs at h with hidentified
  cases h
  obtain ⟨hip, hidentified⟩ := hidentified
  refine ⟨r.isFor hpool hidentified rfl rfl rfl, rfl, rfl, ?_⟩
  simp [Operation.replay, nonEmpty, hip]

/-! ## Requests without repetitions -/

lemma mem_keys_iff {requests : List Request} :
    k ∈ keys requests ↔ ∃ r ∈ requests, r.bindingKey = k :=
  List.mem_map

lemma mem_of_mem_distinct {requests : List Request} {r : Request} (h : r ∈ distinct requests) :
    r ∈ requests := by
  induction requests with
  | nil => exact h
  | cons first rest ih =>
      rcases List.mem_cons.1 h with rfl | hmem
      · exact List.mem_cons_self
      · exact List.mem_cons_of_mem _ (ih (List.mem_filter.1 hmem).1)

/-- Without repetitions, the keys are the same. -/
lemma distinct_keys {requests : List Request} :
    k ∈ keys (distinct requests) ↔ k ∈ keys requests := by
  constructor
  · intro h
    obtain ⟨r, hr, rfl⟩ := mem_keys_iff.1 h
    exact mem_keys_iff.2 ⟨r, mem_of_mem_distinct hr, rfl⟩
  · intro h
    induction requests with
    | nil => exact h
    | cons first rest ih =>
        by_cases hfirst : first.bindingKey = k
        · exact mem_keys_iff.2 ⟨first, List.mem_cons_self, hfirst⟩
        · obtain ⟨r, hr, rfl⟩ := mem_keys_iff.1 h
          rcases List.mem_cons.1 hr with rfl | hmem
          · exact absurd rfl hfirst
          · obtain ⟨other, hother, hkey⟩ := mem_keys_iff.1 (ih (mem_keys_iff.2 ⟨r, hmem, rfl⟩))
            refine mem_keys_iff.2 ⟨other, List.mem_cons_of_mem _ (List.mem_filter.2 ⟨hother, ?_⟩),
              hkey⟩
            simpa [hkey] using fun heq => hfirst heq.symm

/-! ## New resources -/

section New

variable {r : Resource} {records : List Record} {record : Record}

/-- The operations that bind recorded addresses again. -/
def replays (owner : ResourceRef) (records : List Record) : List Operation :=
  records.filterMap (replay? owner)

/-- The operations for the recorded bindings that are not wanted. -/
def stale (r : Resource) : List Operation :=
  (r.records.filter fun record => record.bindingKey ∉ keys (distinct r.requests)).filterMap
    fun record => delete? r.ref record.toRequest

/-- The operations for the wanted bindings. -/
def requested (r : Resource) : List Operation :=
  (distinct r.requests).filterMap (create? r.ref)

/-- The operations for a new resource that come after the recorded addresses. -/
def settling (r : Resource) : List Operation :=
  stale r ++ requested r

lemma onCreate_phases (r : Resource) :
    onCreate r = replays r.ref r.records ++ (stale r ++ requested r) :=
  List.append_assoc _ _ _

/-- The keys of what a resource records or requests. -/
def bindings (r : Resource) : List BindingKey :=
  r.records.map (·.bindingKey) ++ keys r.requests

/-! ### Each phase -/

lemma kind_of_mem_replays (h : op ∈ replays owner records) : op.kind = .create := by
  obtain ⟨record, -, hop⟩ := List.mem_filterMap.1 h
  exact (isFor_of_replay? hop).2.1

lemma mem_stale (h : op ∈ stale r) :
    op.owner = r.ref ∧ op.kind = .delete ∧ op.recorded = none ∧
      ∃ record ∈ r.records, record.bindingKey ∉ keys r.requests ∧ op.IsFor record.bindingKey := by
  obtain ⟨record, hrecord, hop⟩ := List.mem_filterMap.1 h
  obtain ⟨hmem, hstale⟩ := List.mem_filter.1 hrecord
  obtain ⟨hfor, hkind, howner, hplain⟩ := isFor_of_operation? hop
  exact ⟨howner, hkind, hplain, record, hmem,
    fun hwanted => of_decide_eq_true hstale (distinct_keys.2 hwanted), hfor⟩

lemma exists_stale (hrecord : record ∈ r.records) (hstale : record.bindingKey ∉ keys r.requests)
    (hcomplete : record.bindingKey.isComplete = true) :
    ∃ op ∈ stale r, op.IsFor record.bindingKey := by
  obtain ⟨op, hop⟩ := exists_operation? .delete r.ref hcomplete
  refine ⟨op, List.mem_filterMap.2 ⟨record, List.mem_filter.2 ⟨hrecord, ?_⟩, hop⟩,
    (isFor_of_operation? hop).1⟩
  exact decide_eq_true fun hwanted => hstale (distinct_keys.1 hwanted)

lemma mem_requested (h : op ∈ requested r) :
    op.owner = r.ref ∧ op.kind = .create ∧ op.recorded = none ∧
      ∃ k ∈ keys r.requests, op.IsFor k := by
  obtain ⟨request, hrequest, hop⟩ := List.mem_filterMap.1 h
  obtain ⟨hfor, hkind, howner, hplain⟩ := isFor_of_operation? hop
  exact ⟨howner, hkind, hplain, _,
    mem_keys_iff.2 ⟨request, mem_of_mem_distinct hrequest, rfl⟩, hfor⟩

lemma exists_requested (hk : k ∈ keys r.requests) (hcomplete : k.isComplete = true) :
    ∃ op ∈ requested r, op.IsFor k := by
  obtain ⟨request, hrequest, rfl⟩ := mem_keys_iff.1 (distinct_keys.2 hk)
  obtain ⟨op, hop⟩ := exists_operation? .create r.ref hcomplete
  exact ⟨op, List.mem_filterMap.2 ⟨request, hrequest, hop⟩, (isFor_of_operation? hop).1⟩

/-! ### All of them -/

lemma mem_settling (h : op ∈ settling r) :
    op.owner = r.ref ∧ op.recorded = none ∧ ∃ k ∈ bindings r, op.IsFor k := by
  rcases List.mem_append.1 h with hstale | hrequested
  · obtain ⟨howner, -, hplain, record, hrecord, -, hfor⟩ := mem_stale hstale
    exact ⟨howner, hplain, _,
      List.mem_append_left _ (List.mem_map.2 ⟨record, hrecord, rfl⟩), hfor⟩
  · obtain ⟨howner, -, hplain, k, hk, hfor⟩ := mem_requested hrequested
    exact ⟨howner, hplain, k, List.mem_append_right _ hk, hfor⟩

/-- Every operation for a new resource is about one of its bindings. -/
lemma mem_onCreate (h : op ∈ onCreate r) :
    op.owner = r.ref ∧ ∃ k ∈ bindings r, op.IsFor k := by
  rw [onCreate_phases] at h
  rcases List.mem_append.1 h with hreplay | hsettling
  · obtain ⟨record, hrecord, hop⟩ := List.mem_filterMap.1 hreplay
    obtain ⟨hfor, -, howner, -⟩ := isFor_of_replay? hop
    exact ⟨howner, _, List.mem_append_left _ (List.mem_map.2 ⟨record, hrecord, rfl⟩), hfor⟩
  · obtain ⟨howner, -, hfor⟩ := mem_settling hsettling
    exact ⟨howner, hfor⟩

/-- An operation with a recorded address is the one of a record. -/
lemma exists_record (h : op ∈ onCreate r) (hrecorded : op.recorded ≠ none) :
    ∃ record ∈ r.records, replay? r.ref record = some op := by
  rw [onCreate_phases] at h
  rcases List.mem_append.1 h with hreplay | hsettling
  · exact List.mem_filterMap.1 hreplay
  · exact absurd (mem_settling hsettling).2.1 hrecorded

/-- A delete is one of those for bindings that are not wanted. -/
lemma mem_stale_of_delete (h : op ∈ onCreate r) (hkind : op.kind = .delete) : op ∈ stale r := by
  rw [onCreate_phases] at h
  rcases List.mem_append.1 h with hreplay | hlast
  · cases hkind.symm.trans (kind_of_mem_replays hreplay)
  · refine (List.mem_append.1 hlast).resolve_right fun hrequested => ?_
    cases hkind.symm.trans (mem_requested hrequested).2.1

/-- A plain create is one of those for wanted bindings. -/
lemma mem_requested_of_plain (h : op ∈ onCreate r) (hkind : op.kind = .create)
    (hplain : op.recorded = none) : op ∈ requested r := by
  rw [onCreate_phases] at h
  rcases List.mem_append.1 h with hreplay | hlast
  · obtain ⟨record, -, hop⟩ := List.mem_filterMap.1 hreplay
    cases hplain.symm.trans (isFor_of_replay? hop).2.2.2
  · refine (List.mem_append.1 hlast).resolve_left fun hstale => ?_
    cases hkind.symm.trans (mem_stale hstale).2.1

/-- **Every complete binding of a new resource is settled after the recorded addresses**: a wanted
one by a create, and any other by a delete. -/
theorem exists_settling (hk : k ∈ bindings r) (hcomplete : k.isComplete = true) :
    ∃ op ∈ settling r, op.IsFor k := by
  by_cases hwanted : k ∈ keys r.requests
  · obtain ⟨op, hop, hfor⟩ := exists_requested hwanted hcomplete
    exact ⟨op, List.mem_append_right _ hop, hfor⟩
  · obtain ⟨record, hrecord, rfl⟩ := List.mem_map.1 ((List.mem_append.1 hk).resolve_right hwanted)
    obtain ⟨op, hop, hfor⟩ := exists_stale hrecord hwanted hcomplete
    exact ⟨op, List.mem_append_left _ hop, hfor⟩

end New

/-! ## Updates -/

/-- The operations of a kind for the requests whose keys are not among those of others. -/
def difference (kind : OperationKind) (owner : ResourceRef) (requests others : List Request) :
    List Operation :=
  ((distinct requests).filter fun r => r.bindingKey ∉ keys (distinct others)).filterMap
    (operation? kind owner)

/-- The operations that lead from some requests to others. -/
def changes (owner : ResourceRef) (old new : List Request) : List Operation :=
  difference .delete owner old new ++ difference .create owner new old

lemma onUpdate_eq_changes (old new : Resource) :
    onUpdate old new = changes new.ref old.requests new.requests := rfl

/-- Every operation for an update is about a binding that was, or is now, requested, and records no
address. -/
lemma mem_onUpdate {old new : Resource} (h : op ∈ onUpdate old new) :
    op.owner = new.ref ∧ op.recorded = none ∧
      ∃ k, (k ∈ keys old.requests ∨ k ∈ keys new.requests) ∧ op.IsFor k := by
  rcases List.mem_append.1 h with hdelete | hcreate
  · obtain ⟨request, hrequest, hop⟩ := List.mem_filterMap.1 hdelete
    obtain ⟨hfor, -, howner, hplain⟩ := isFor_of_operation? hop
    have hmem := mem_of_mem_distinct (List.mem_filter.1 hrequest).1
    exact ⟨howner, hplain, _, .inl (mem_keys_iff.2 ⟨request, hmem, rfl⟩), hfor⟩
  · obtain ⟨request, hrequest, hop⟩ := List.mem_filterMap.1 hcreate
    obtain ⟨hfor, -, howner, hplain⟩ := isFor_of_operation? hop
    have hmem := mem_of_mem_distinct (List.mem_filter.1 hrequest).1
    exact ⟨howner, hplain, _, .inr (mem_keys_iff.2 ⟨request, hmem, rfl⟩), hfor⟩

/-- **Every complete binding that an update brings is created.** -/
theorem exists_create {old new : Resource} (hnew : k ∈ keys new.requests)
    (hold : k ∉ keys old.requests) (hcomplete : k.isComplete = true) :
    ∃ op ∈ onUpdate old new, op.IsFor k ∧ op.kind = .create := by
  obtain ⟨request, hrequest, rfl⟩ := mem_keys_iff.1 (distinct_keys.2 hnew)
  obtain ⟨op, hop⟩ := exists_operation? .create new.ref hcomplete
  have hbefore : request.bindingKey ∉ keys (distinct old.requests) := fun h =>
    hold (distinct_keys.1 h)
  have hadded : request ∈ (distinct new.requests).filter fun request =>
      request.bindingKey ∉ keys (distinct old.requests) :=
    List.mem_filter.2 ⟨hrequest, decide_eq_true hbefore⟩
  obtain ⟨hfor, hkind, -, -⟩ := isFor_of_operation? hop
  exact ⟨op, List.mem_append_right _ (List.mem_filterMap.2 ⟨request, hadded, hop⟩), hfor, hkind⟩

end Reconcile

end Ipam
