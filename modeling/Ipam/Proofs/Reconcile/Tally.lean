import Ipam.Proofs.Reconcile
import Mathlib.Data.Finset.Basic
import Mathlib.Data.List.Perm.Basic

/-!
# What the operations for a resource add up to

An operation names a host, a key and a pool.  Read as changes of a set of such triples, the
operations for a new resource lead to the complete bindings that it requests, whatever its status
records, and the operations for an update lead from the complete bindings of the one version to those
of the other.

* `Operation.target`, `Reconcile.tally` — the triple of an operation, and the set that is left when
  creates insert their triples and deletes remove them.
* `Reconcile.operation?_eq`, `Reconcile.difference_eq` — the operation for a request depends on its
  binding key alone, and so do those for a difference.
* `Reconcile.tally_onCreate`, `Reconcile.tally_onUpdate` — what a change adds up to.
* **`Reconcile.batch_onUpdate`** — an update has one operation for a triple, deletes come first, and
  only the sets of binding keys count.
-/

namespace Ipam

/-- The host, the key and the pool that an operation names. -/
def Operation.target (op : Operation) : BindingKey :=
  ⟨op.host, op.key, some op.pool⟩

namespace Reconcile

variable {kind : OperationKind} {owner : ResourceRef} {k : BindingKey} {op : Operation}
  {ops : List Operation} {bindings : Finset BindingKey}

/-! ## Operations and triples -/

/-- The operation of a kind for the binding with a key. -/
def issue (kind : OperationKind) (owner : ResourceRef) (k : BindingKey) : Operation :=
  ⟨owner, kind, k.host, k.key, k.pool.getD "", none⟩

lemma target_issue (h : k.isComplete = true) : (issue kind owner k).target = k := by
  obtain ⟨label, reference, hpool, -⟩ := BindingKey.exists_names h
  simp only [Operation.target, issue, hpool, Option.getD_some]
  rw [← hpool]

/-- The operation for a request depends on its binding key alone. -/
lemma operation?_eq (kind : OperationKind) (owner : ResourceRef) (r : Request) :
    operation? kind owner r
      = if r.bindingKey.isComplete then some (issue kind owner r.bindingKey) else none := by
  by_cases hcomplete : r.bindingKey.isComplete = true
  · obtain ⟨pool, hpool, hidentified⟩ := Request.isComplete_iff.1 hcomplete
    have hsome : r.bindingKey.pool = some pool := r.bindingKey_pool.trans hpool
    rw [if_pos hcomplete, issue, hsome]
    simp only [operation?, hpool, Option.bind_eq_bind, Option.bind_some, hidentified, if_true]
    rfl
  · rw [if_neg hcomplete, Option.eq_none_iff_forall_ne_some]
    intro op hop
    exact hcomplete (isFor_of_operation? hop).1.complete

lemma target_of_operation? {r : Request} (h : operation? kind owner r = some op) :
    op.target = r.bindingKey := by
  have hcomplete := (isFor_of_operation? h).1.complete
  rw [operation?_eq, if_pos hcomplete, Option.some.injEq] at h
  rw [← h, target_issue hcomplete]

/-- A recorded address makes no difference to the triple. -/
lemma target_of_replay? {r : Record} (h : replay? owner r = some op) :
    op.target = r.bindingKey := by
  simp only [replay?, Option.bind_eq_bind, Option.bind_eq_some_iff] at h
  obtain ⟨pool, hpool, h⟩ := h
  split_ifs at h with hidentified
  cases h
  have hplain : operation? .create owner r.toRequest
      = some (.of .create owner r.host r.key pool) := by
    simp [operation?, hpool, hidentified.2]
  have hsame : (Operation.replay owner r.host r.key pool r.ip).target
      = (Operation.of .create owner r.host r.key pool).target := rfl
  rw [hsame, target_of_operation? hplain]

/-- The complete bindings among some requests. -/
def complete (requests : List Request) : Finset BindingKey :=
  ((keys requests).filter BindingKey.isComplete).toFinset

lemma mem_complete {requests : List Request} :
    k ∈ complete requests ↔ k ∈ keys requests ∧ k.isComplete = true := by
  rw [complete, List.mem_toFinset, List.mem_filter]

/-! ## Sets of triples -/

/-- The set of triples after some operations: a create inserts its triple, a delete removes it. -/
def tally (bindings : Finset BindingKey) (ops : List Operation) : Finset BindingKey :=
  ops.foldl (fun bindings op =>
    match op.kind with
    | .create => insert op.target bindings
    | .delete => bindings.erase op.target) bindings

lemma tally_append (bindings : Finset BindingKey) (ops later : List Operation) :
    tally bindings (ops ++ later) = tally (tally bindings ops) later :=
  List.foldl_append

lemma mem_tally_of_creates (h : ∀ op ∈ ops, op.kind = .create) :
    k ∈ tally bindings ops ↔ k ∈ bindings ∨ ∃ op ∈ ops, op.target = k := by
  induction ops generalizing bindings with
  | nil => simp [tally]
  | cons op rest ih =>
      obtain ⟨hop, hrest⟩ := List.forall_mem_cons.1 h
      have hfirst : tally bindings (op :: rest) = tally (insert op.target bindings) rest := by
        simp only [tally, List.foldl_cons, hop]
      rw [hfirst, ih hrest, Finset.mem_insert, List.exists_mem_cons_iff, @eq_comm _ k, or_left_comm,
        or_assoc]

lemma mem_tally_of_deletes (h : ∀ op ∈ ops, op.kind = .delete) :
    k ∈ tally bindings ops ↔ k ∈ bindings ∧ ∀ op ∈ ops, op.target ≠ k := by
  induction ops generalizing bindings with
  | nil => simp [tally]
  | cons op rest ih =>
      obtain ⟨hop, hrest⟩ := List.forall_mem_cons.1 h
      have hfirst : tally bindings (op :: rest) = tally (bindings.erase op.target) rest := by
        simp only [tally, List.foldl_cons, hop]
      rw [hfirst, ih hrest, Finset.mem_erase, List.forall_mem_cons, ne_comm]
      tauto

/-! ## A new resource -/

variable {r : Resource}

lemma exists_stale_target :
    (∃ op ∈ stale r, op.target = k) ↔
      k ∈ r.records.map (·.bindingKey) ∧ k ∉ keys r.requests ∧ k.isComplete = true := by
  constructor
  · rintro ⟨op, hop, rfl⟩
    obtain ⟨record, hrecord, hdelete⟩ := List.mem_filterMap.1 hop
    obtain ⟨hmem, hunwanted⟩ := List.mem_filter.1 hrecord
    have htarget : op.target = record.bindingKey := target_of_operation? hdelete
    rw [htarget]
    exact ⟨List.mem_map.2 ⟨record, hmem, rfl⟩,
      fun hwanted => of_decide_eq_true hunwanted (distinct_keys.2 hwanted),
      (isFor_of_operation? hdelete).1.complete⟩
  · rintro ⟨hmem, hunwanted, hcomplete⟩
    obtain ⟨record, hrecord, rfl⟩ := List.mem_map.1 hmem
    obtain ⟨op, hop⟩ := exists_operation? .delete r.ref hcomplete
    refine ⟨op, List.mem_filterMap.2 ⟨record, List.mem_filter.2 ⟨hrecord, ?_⟩, hop⟩,
      target_of_operation? hop⟩
    exact decide_eq_true fun hwanted => hunwanted (distinct_keys.1 hwanted)

lemma exists_requested_target : (∃ op ∈ requested r, op.target = k) ↔ k ∈ complete r.requests := by
  rw [mem_complete]
  constructor
  · rintro ⟨op, hop, rfl⟩
    obtain ⟨request, hrequest, hcreate⟩ := List.mem_filterMap.1 hop
    rw [target_of_operation? hcreate]
    exact ⟨distinct_keys.1 (mem_keys_iff.2 ⟨request, hrequest, rfl⟩),
      (isFor_of_operation? hcreate).1.complete⟩
  · rintro ⟨hwanted, hcomplete⟩
    obtain ⟨request, hrequest, rfl⟩ := mem_keys_iff.1 (distinct_keys.2 hwanted)
    obtain ⟨op, hop⟩ := exists_operation? .create r.ref hcomplete
    exact ⟨op, List.mem_filterMap.2 ⟨request, hrequest, hop⟩, target_of_operation? hop⟩

/-- **The operations for a new resource add up to the complete bindings that it requests**, whatever
its status records. -/
theorem tally_onCreate (r : Resource) : tally ∅ (onCreate r) = complete r.requests := by
  have hreplays : ∀ op ∈ replays r.ref r.records, op.kind = .create := fun op => kind_of_mem_replays
  have hstale : ∀ op ∈ stale r, op.kind = .delete := fun op hop => (mem_stale hop).2.1
  have hrequested : ∀ op ∈ requested r, op.kind = .create := fun op hop => (mem_requested hop).2.1
  ext k
  rw [onCreate_phases, tally_append, tally_append, mem_tally_of_creates hrequested,
    mem_tally_of_deletes hstale, mem_tally_of_creates hreplays, exists_requested_target,
    or_iff_right_iff_imp]
  -- A recorded binding that no delete removes is a wanted one.
  rintro ⟨hreplayed, hkept⟩
  obtain ⟨op, hop, rfl⟩ := hreplayed.resolve_left (Finset.notMem_empty k)
  obtain ⟨record, hrecord, hreplay⟩ := List.mem_filterMap.1 hop
  have htarget : op.target = record.bindingKey := target_of_replay? hreplay
  have hcomplete : op.target.isComplete = true := by
    rw [htarget]
    exact (isFor_of_replay? hreplay).1.complete
  rw [mem_complete, and_iff_left hcomplete]
  by_contra hunwanted
  have hmem : op.target ∈ r.records.map (·.bindingKey) :=
    htarget ▸ List.mem_map.2 ⟨record, hrecord, rfl⟩
  obtain ⟨delete, hdelete, hsame⟩ := exists_stale_target.2 ⟨hmem, hunwanted, hcomplete⟩
  exact hkept delete hdelete hsame

/-! ## Updates -/

/-- The complete bindings of some requests that are not among others, each of them once. -/
def missing (requests others : List Request) : List BindingKey :=
  (keys (distinct requests)).filter fun k => k ∉ keys others ∧ k.isComplete = true

lemma mem_missing {requests others : List Request} :
    k ∈ missing requests others ↔ k ∈ complete requests ∧ k ∉ complete others := by
  rw [missing, List.mem_filter, decide_eq_true_eq, distinct_keys, mem_complete, mem_complete]
  tauto

lemma nodup_keys_distinct (requests : List Request) : (keys (distinct requests)).Nodup := by
  induction requests with
  | nil => exact List.nodup_nil
  | cons r rest ih =>
      rw [distinct, keys, List.map_cons, List.nodup_cons]
      constructor
      · intro hmem
        obtain ⟨other, hother, hkey⟩ := List.mem_map.1 hmem
        exact of_decide_eq_true (List.mem_filter.1 hother).2 hkey
      · exact ih.sublist (List.filter_sublist.map _)

lemma nodup_missing (requests others : List Request) : (missing requests others).Nodup :=
  (nodup_keys_distinct requests).filter _

/-- The operations for a difference are those for the missing bindings. -/
lemma difference_eq (kind : OperationKind) (owner : ResourceRef) (requests others : List Request) :
    difference kind owner requests others = (missing requests others).map (issue kind owner) := by
  simp only [difference, missing, distinct_keys]
  induction distinct requests with
  | nil => rfl
  | cons r rest ih =>
      have hkeys : keys (r :: rest) = r.bindingKey :: keys rest := rfl
      rw [hkeys]
      by_cases hold : r.bindingKey ∈ keys others
      · simpa [hold] using ih
      · by_cases hcomplete : r.bindingKey.isComplete = true
        · simpa [hold, hcomplete, operation?_eq] using ih
        · simpa [hold, hcomplete, operation?_eq] using ih

lemma map_target_difference (kind : OperationKind) (owner : ResourceRef)
    (requests others : List Request) :
    (difference kind owner requests others).map Operation.target = missing requests others := by
  rw [difference_eq, List.map_map]
  refine List.map_congr_left (fun k hk => ?_) |>.trans (List.map_id _)
  exact target_issue (mem_complete.1 (mem_missing.1 hk).1).2

lemma exists_difference_target (kind : OperationKind) (owner : ResourceRef)
    {requests others : List Request} :
    (∃ op ∈ difference kind owner requests others, op.target = k) ↔
      k ∈ complete requests ∧ k ∉ complete others := by
  rw [← mem_missing, ← map_target_difference kind owner, List.mem_map]

lemma kind_of_mem_difference {requests others : List Request}
    (h : op ∈ difference kind owner requests others) : op.kind = kind := by
  rw [difference_eq] at h
  obtain ⟨k, -, rfl⟩ := List.mem_map.1 h
  rfl

/-- **The operations for an update lead from the complete bindings of the one version to those of
the other.** -/
theorem tally_onUpdate (old new : Resource) :
    tally (complete old.requests) (onUpdate old new) = complete new.requests := by
  ext k
  have hkept : (∀ op ∈ difference .delete new.ref old.requests new.requests, op.target ≠ k) ↔
      ¬ (k ∈ complete old.requests ∧ k ∉ complete new.requests) := by
    rw [← exists_difference_target .delete new.ref]
    push Not
    rfl
  rw [onUpdate_eq_changes, changes, tally_append,
    mem_tally_of_creates fun _ => kind_of_mem_difference,
    mem_tally_of_deletes fun _ => kind_of_mem_difference, exists_difference_target, hkept]
  tauto

/-- What is known of the operations for an update. -/
structure Batch (old new : Resource) : Prop where
  /-- No two operations are for the same triple. -/
  once : ((onUpdate old new).map Operation.target).Nodup
  /-- No delete comes after a create. -/
  deletesFirst : (onUpdate old new).Pairwise fun op later =>
    op.kind = .create → later.kind = .create
  /-- Every operation carries the reference of the resource. -/
  owner : ∀ op ∈ onUpdate old new, op.owner = new.ref
  /-- Other versions of the resource with the same sets of binding keys have the same operations. -/
  determined : ∀ old' new' : Resource, new'.ref = new.ref →
    (∀ k, k ∈ keys old'.requests ↔ k ∈ keys old.requests) →
    (∀ k, k ∈ keys new'.requests ↔ k ∈ keys new.requests) →
    (onUpdate old' new').Perm (onUpdate old new)

lemma perm_difference {requests requests' others others' : List Request}
    (hrequests : ∀ k, k ∈ keys requests' ↔ k ∈ keys requests)
    (hothers : ∀ k, k ∈ keys others' ↔ k ∈ keys others) :
    (difference kind owner requests' others').Perm (difference kind owner requests others) := by
  rw [difference_eq, difference_eq]
  refine List.Perm.map _ ((List.perm_ext_iff_of_nodup (nodup_missing _ _) (nodup_missing _ _)).2 ?_)
  intro k
  simp only [mem_missing, mem_complete, hrequests, hothers]

/-- **The operations for an update are a batch**: one for a triple, deletes first, and in terms of
the two sets of binding keys alone. -/
theorem batch_onUpdate (old new : Resource) : Batch old new where
  once := by
    rw [onUpdate_eq_changes, changes, List.map_append, map_target_difference,
      map_target_difference]
    refine (nodup_missing _ _).append (nodup_missing _ _) fun k hlost hbrought => ?_
    exact (mem_missing.1 hlost).2 (mem_missing.1 hbrought).1
  deletesFirst := by
    rw [onUpdate_eq_changes, changes, List.pairwise_append]
    refine ⟨List.pairwise_of_forall_mem_list ?_, List.pairwise_of_forall_mem_list ?_, ?_⟩
    · intro op hop later _ hkind
      cases (kind_of_mem_difference hop).symm.trans hkind
    · intro op _ later hlater _
      exact kind_of_mem_difference hlater
    · intro op _ later hlater _
      exact kind_of_mem_difference hlater
  owner op hop := (mem_onUpdate hop).1
  determined old' new' href hold hnew := by
    rw [onUpdate_eq_changes, onUpdate_eq_changes, changes, changes, href]
    exact (perm_difference hold hnew).append (perm_difference hnew hold)

end Reconcile

end Ipam
