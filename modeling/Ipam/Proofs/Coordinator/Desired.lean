import Ipam.Proofs.Allocation.Batch
import Ipam.Proofs.Reconcile
import Mathlib

/-!
# What becomes of wanted bindings

The operations for a change are found by comparing binding keys, but a store keeps a binding under a
reference, and different keys of one resource may stand for the same one.  An update that gives up
one of them releases the address, whether or not another still wants it.

* `Reconcile.onCreate_eq_changes` — a resource without records leads to the operations from no
  requests to its own.
* `Reconcile.Brings` — a reference gets a key that was not requested before.
* **`Local.binds_after_changes`** — the bindings after one change.
* `Reconcile.emitted`, `Reconcile.Keeps` — all operations of a history, and the references that are
  bound after them.
* **`Local.bound_iff_keeps`** — after a history a wanted reference is bound exactly if it is kept.
* `Reconcile.keeps_of_separate` — without shared references every wanted one is.
-/

namespace Ipam

open Pool (TokenSource)

namespace Reconcile

variable {kind : OperationKind} {owner : ResourceRef} {label reference : String}

/-! ## Changes of requests -/

/-- Among the new requests is one for a reference whose key is not among the old ones. -/
def Brings (old new : List Request) (label reference : String) : Prop :=
  ∃ k ∈ keys new, k ∉ keys old ∧ k.Names label reference

/-- Some request is for a reference. -/
def Wants (requests : List Request) (label reference : String) : Prop :=
  ∃ k ∈ keys requests, k.Names label reference

lemma onCreate_eq_changes {r : Resource} (h : r.records = []) :
    onCreate r = changes r.ref [] r.requests := by
  simp [onCreate, changes, difference, h, distinct, keys, create?]

lemma mem_difference {requests others : List Request} {op : Operation}
    (h : op ∈ difference kind owner requests others) :
    op.kind = kind ∧ op.recorded = none ∧
      ∃ k ∈ keys requests, k ∉ keys others ∧ op.IsFor k := by
  obtain ⟨r, hr, hop⟩ := List.mem_filterMap.1 h
  obtain ⟨hmem, hnew⟩ := List.mem_filter.1 hr
  obtain ⟨hfor, hkind, -, hplain⟩ := isFor_of_operation? hop
  refine ⟨hkind, hplain, r.bindingKey, ?_, ?_, hfor⟩
  · exact mem_keys_iff.2 ⟨r, mem_of_mem_distinct hmem, rfl⟩
  · intro hold
    exact of_decide_eq_true hnew (distinct_keys.2 hold)

/-- Some operation for a difference names exactly the references that the difference brings. -/
lemma exists_concerns_iff {requests others : List Request} :
    (∃ op ∈ difference kind owner requests others, op.Concerns label reference) ↔
      Brings others requests label reference := by
  constructor
  · rintro ⟨op, hop, hconcerns⟩
    obtain ⟨-, -, k, hk, hnew, hfor⟩ := mem_difference hop
    exact ⟨k, hk, hnew, hfor.concerns_iff.1 hconcerns⟩
  · rintro ⟨k, hk, hnew, hnames⟩
    obtain ⟨r, hr, rfl⟩ := mem_keys_iff.1 (distinct_keys.2 hk)
    obtain ⟨op, hop⟩ := exists_operation? kind owner hnames.isComplete
    have hnew' : r.bindingKey ∉ keys (distinct others) := fun hold => hnew (distinct_keys.1 hold)
    have hmem : op ∈ difference kind owner requests others :=
      List.mem_filterMap.2 ⟨r, List.mem_filter.2 ⟨hr, decide_eq_true hnew'⟩, hop⟩
    exact ⟨op, hmem, (isFor_of_operation? hop).1.concerns_iff.2 hnames⟩

/-! ## Histories -/

/-- All operations for the versions of a resource, newest first, in the order in which they are
issued. -/
def emitted : List Resource → List Operation
  | [] => []
  | [first] => onCreate first
  | new :: old :: past => emitted (old :: past) ++ onUpdate old new

/-- The reference is among the bindings that a history, newest version first, ends with: the last
version that lost a key for it has also brought one. -/
def Keeps (label reference : String) : List Resource → Prop
  | [] => False
  | [first] => Wants first.requests label reference
  | new :: old :: past =>
    Brings old.requests new.requests label reference ∨
      ¬ Brings new.requests old.requests label reference ∧ Keeps label reference (old :: past)

/-- The requests of the last version of a history. -/
def latest : List Resource → List Request
  | [] => []
  | newest :: _ => newest.requests

/-- One step of a history. -/
lemma emitted_cons {new : Resource} {past : List Resource}
    (h : past = [] → new.records = []) :
    emitted (new :: past) = emitted past ++ changes new.ref (latest past) new.requests := by
  cases past with
  | nil => exact onCreate_eq_changes (h rfl)
  | cons old past =>
      rw [emitted, onUpdate_eq_changes]
      rfl

lemma keeps_cons {new : Resource} {past : List Resource} :
    Keeps label reference (new :: past) ↔
      Brings (latest past) new.requests label reference ∨
        ¬ Brings new.requests (latest past) label reference ∧ Keeps label reference past := by
  cases past with
  | nil => simp [Keeps, Wants, Brings, latest, keys]
  | cons old past => rfl

/-- Only what is wanted in the end is kept. -/
lemma Keeps.wants {versions : List Resource} (h : Keeps label reference versions) :
    Wants (latest versions) label reference := by
  induction versions with
  | nil => exact h.elim
  | cons new past ih =>
      rcases keeps_cons.1 h with ⟨k, hk, -, hnames⟩ | ⟨hstays, hkept⟩
      · exact ⟨k, hk, hnames⟩
      · obtain ⟨k, hk, hnames⟩ := ih hkept
        by_contra hnone
        exact hstays ⟨k, hk, fun hnew => hnone ⟨k, hnew, hnames⟩, hnames⟩

/-- If no two keys of a history stand for the same reference, all that is wanted is kept. -/
theorem keeps_of_separate {versions : List Resource}
    (hsep : ∀ r ∈ versions, ∀ other ∈ versions, ∀ k ∈ keys r.requests, ∀ l ∈ keys other.requests,
      k.Names label reference → l.Names label reference → k = l)
    (h : Wants (latest versions) label reference) : Keeps label reference versions := by
  induction versions with
  | nil =>
      obtain ⟨k, hk, -⟩ := h
      cases hk
  | cons new past ih =>
      obtain ⟨k, hk, hnames⟩ := h
      rw [keeps_cons]
      by_cases hold : k ∈ keys (latest past)
      · right
        constructor
        · rintro ⟨l, hl, hlost, hnames'⟩
          cases past with
          | nil => cases hl
          | cons old past =>
              have heq := hsep new List.mem_cons_self old
                (List.mem_cons_of_mem _ List.mem_cons_self) k hk l hl hnames hnames'
              exact hlost (heq ▸ hk)
        · refine ih (fun r hr other hother => ?_) ⟨k, hold, hnames⟩
          exact hsep r (List.mem_cons_of_mem _ hr) other (List.mem_cons_of_mem _ hother)
      · exact .inl ⟨k, hk, hold, hnames⟩

end Reconcile

/-! ## Room -/

namespace Reconcile

/-- The references that requests ask for in a pool. -/
def references (requests : List Request) (label : String) : List String :=
  requests.filterMap fun r =>
    if r.bindingKey.pool = some label then r.bindingKey.reference? else none

/-- The number of complete requests. -/
def demand (requests : List Request) : Nat :=
  requests.countP fun r => r.bindingKey.isComplete

variable {requests : List Request} {label reference : String}

lemma mem_references_iff :
    reference ∈ references requests label ↔ Wants requests label reference := by
  simp only [references, List.mem_filterMap, Option.ite_none_right_eq_some]
  constructor
  · rintro ⟨r, hr, hpool, hreference⟩
    exact ⟨r.bindingKey, mem_keys_iff.2 ⟨r, hr, rfl⟩, hpool, hreference⟩
  · rintro ⟨k, hk, hnames⟩
    obtain ⟨r, hr, rfl⟩ := mem_keys_iff.1 hk
    exact ⟨r, hr, hnames.pool, hnames.reference⟩

lemma length_references_le : (references requests label).length ≤ demand requests := by
  rw [references, List.length_filterMap_eq_countP]
  refine List.countP_mono_left fun r _ hsome => ?_
  obtain ⟨reference, hreference⟩ := Option.isSome_iff_exists.1 hsome
  obtain ⟨hpool, hreference⟩ := Option.ite_none_right_eq_some.1 hreference
  exact BindingKey.Names.isComplete ⟨hpool, hreference⟩

end Reconcile

open Reconcile

/-- Every pool that some requests name has an address for each of them. -/
def Store.Fits (s : Store) (requests : List Request) : Prop :=
  ∀ label reference, Wants requests label reference → demand requests ≤ (s.rows label).length

/-- No complete request is for a reference that is a token. -/
def Reconcile.Avoid (tokens : TokenSource) (requests : List Request) : Prop :=
  ∀ k ∈ keys requests, k.isComplete = true → ∀ i, k.reference? ≠ some (tokens i)

namespace Local

variable {tokens : TokenSource} {s : Store} {old new : List Request} {label reference : String}

lemma avoids_of_isFor {op : Operation} {k : BindingKey} {requests : List Request}
    (h : op.IsFor k) (hk : k ∈ keys requests) (havoid : Avoid tokens requests) :
    op.Avoids tokens := by
  intro reference hreference i heq
  rw [h.reference, ← heq] at hreference
  exact havoid k hk h.complete i hreference

/-! ## One change -/

/-- **After a change of requests** a reference is bound if the change brings it, or if it was bound
and the change does not give up any key for it. -/
theorem binds_after_changes (owner : ResourceRef) (hs : Sound tokens s)
    (hinj : Function.Injective tokens)
    (hheld : ∀ label reference, s.Binds label reference → Wants old label reference)
    (hold : Avoid tokens old) (hnew : Avoid tokens new) (hfits : s.Fits new) :
    (after tokens s (changes owner old new)).Binds label reference ↔
      Brings old new label reference ∨
        ¬ Brings new old label reference ∧ s.Binds label reference := by
  have hdeletes : ∀ op ∈ difference .delete owner old new,
      op.kind = .delete ∧ op.Avoids tokens := by
    intro op hop
    obtain ⟨hkind, -, k, hk, -, hfor⟩ := mem_difference hop
    exact ⟨hkind, avoids_of_isFor hfor hk hold⟩
  have hcreates : ∀ op ∈ difference .create owner new old,
      op.kind = .create ∧ op.recorded = none ∧ op.Avoids tokens := by
    intro op hop
    obtain ⟨hkind, hplain, k, hk, -, hfor⟩ := mem_difference hop
    exact ⟨hkind, hplain, avoids_of_isFor hfor hk hnew⟩
  have hmiddle : ∀ label reference,
      (after tokens s (difference .delete owner old new)).Binds label reference ↔
        s.Binds label reference ∧ ¬ Brings new old label reference := by
    intro label reference
    rw [binds_after_deletes hs hinj hdeletes, ← exists_concerns_iff]
    push Not
    rfl
  rw [changes, after_append, binds_after_creates (hs.after fun op hop => (hdeletes op hop).2)
    hcreates (references new) ?_ ?_, hmiddle, exists_concerns_iff]
  · tauto
  · -- What the deletes leave is wanted before and after.
    intro pool holder hholder
    obtain ⟨hbefore, hstays⟩ := (hmiddle pool holder).1 hholder
    obtain ⟨k, hk, hnames⟩ := hheld pool holder hbefore
    rw [mem_references_iff]
    by_contra hnone
    exact hstays ⟨k, hk, fun hmem => hnone ⟨k, hmem, hnames⟩, hnames⟩
  · intro op hop
    obtain ⟨-, -, k, hk, -, hfor⟩ := mem_difference hop
    obtain ⟨pool, holder, hnames⟩ := BindingKey.exists_names hfor.complete
    have hwanted : Wants new pool holder := ⟨k, hk, hnames⟩
    refine ⟨pool, holder, hfor.concerns_iff.2 hnames, mem_references_iff.2 hwanted, ?_⟩
    rw [length_rows_after hs fun op hop => (hdeletes op hop).2]
    exact length_references_le.trans (hfits pool holder hwanted)

/-! ## Histories -/

/-- The versions of a resource, newest first, that a store can serve: the first one records nothing,
every one fits, and no token is asked for. -/
structure Serves (tokens : TokenSource) (s : Store) (versions : List Resource) : Prop where
  fresh : ∀ first, versions.getLast? = some first → first.records = []
  avoid : ∀ r ∈ versions, Avoid tokens r.requests
  fits : ∀ r ∈ versions, s.Fits r.requests

lemma Serves.tail {newest : Resource} {past : List Resource}
    (h : Serves tokens s (newest :: past)) : Serves tokens s past where
  fresh := by
    intro first hfirst
    refine h.fresh first ?_
    cases past with
    | nil => cases hfirst
    | cons old past => rwa [List.getLast?_cons_cons]
  avoid r hr := h.avoid r (List.mem_cons_of_mem _ hr)
  fits r hr := h.fits r (List.mem_cons_of_mem _ hr)

lemma Serves.emitted_cons {newest : Resource} {past : List Resource}
    (h : Serves tokens s (newest :: past)) :
    emitted (newest :: past)
      = emitted past ++ changes newest.ref (latest past) newest.requests := by
  refine Reconcile.emitted_cons fun hpast => h.fresh newest ?_
  rw [hpast]
  rfl

lemma Serves.avoid_latest {versions : List Resource} (h : Serves tokens s versions) :
    Avoid tokens (latest versions) := by
  cases versions with
  | nil => intro k hk; cases hk
  | cons newest past => exact h.avoid newest List.mem_cons_self

lemma Serves.avoids {versions : List Resource} (h : Serves tokens s versions) :
    ∀ op ∈ emitted versions, op.Avoids tokens := by
  induction versions with
  | nil => simp [emitted]
  | cons newest past ih =>
      intro op hop
      rw [h.emitted_cons] at hop
      rcases List.mem_append.1 hop with hearlier | hchange
      · exact ih h.tail op hearlier
      · rcases List.mem_append.1 hchange with hdelete | hcreate
        · obtain ⟨-, -, k, hk, -, hfor⟩ := mem_difference hdelete
          exact avoids_of_isFor hfor hk h.tail.avoid_latest
        · obtain ⟨-, -, k, hk, -, hfor⟩ := mem_difference hcreate
          exact avoids_of_isFor hfor hk (h.avoid newest List.mem_cons_self)

/-- The bindings after all operations of a history, over a store that had none. -/
theorem binds_iff_keeps {versions : List Resource} (hs : Sound tokens s)
    (hinj : Function.Injective tokens) (hempty : ∀ label reference, ¬ s.Binds label reference)
    (h : Serves tokens s versions) :
    (after tokens s (emitted versions)).Binds label reference ↔
      Keeps label reference versions := by
  induction versions generalizing label reference with
  | nil => exact iff_of_false (hempty label reference) id
  | cons newest past ih =>
      have hsound : Sound tokens (after tokens s (emitted past)) := hs.after h.tail.avoids
      have hfits : (after tokens s (emitted past)).Fits newest.requests := by
        intro pool holder hwanted
        rw [length_rows_after hs h.tail.avoids]
        exact h.fits newest List.mem_cons_self pool holder hwanted
      rw [h.emitted_cons, after_append, binds_after_changes newest.ref hsound hinj
        (fun pool holder hbinds => ((ih h.tail).1 hbinds).wants) h.tail.avoid_latest
        (h.avoid newest List.mem_cons_self) hfits, ih h.tail, keeps_cons]

/-- **A wanted binding has an address of its pool after a history exactly if its reference is
kept**: if no version gave up a key for the reference since the last one that brought one. -/
theorem bound_iff_keeps {config : String} {report : SyncReport} {versions : List Resource}
    (hinj : Function.Injective tokens) (hstart : start tokens config ∅ = .ok (report, s))
    (h : Serves tokens s versions) {k : BindingKey} (hnames : k.Names label reference) :
    (∃ a ∈ (s.rows label).map (·.address),
      (after tokens s (emitted versions)).addressOf k = some a) ↔
        Keeps label reference versions := by
  have hs := sound_of_start hstart
  rw [← binds_iff_keeps hs hinj (not_binds_of_start hstart) h, Store.addressOf_eq _ hnames]
  constructor
  · rintro ⟨a, -, hlookup⟩
    exact ⟨a, hlookup⟩
  · rintro ⟨a, hlookup⟩
    have hrow := (Store.lookup_eq_some_iff (hs.after h.avoids).valid).1 hlookup
    rw [← addresses_after hs h.avoids]
    exact ⟨a, List.mem_map.2 ⟨_, hrow, rfl⟩, hlookup⟩

/-! ## A host and a key of one name -/

/-- A resource that asks for the host `x`. -/
def one : Resource where
  metadata := { name := some "web", ns := some "prod" }
  requests := [{ host := some "x", label := some "lan" }]
  status := none

/-- The resource when it asks for the key `x` too. -/
def both : Resource :=
  { one with requests := one.requests ++ [{ key := some "x", label := some "lan" }] }

lemma names_of_mem_both {k : BindingKey} (h : k ∈ keys both.requests) : k.Names "lan" "x" := by
  simp only [both, one, keys, List.map_cons, List.map_nil, List.cons_append, List.nil_append,
    List.mem_cons, List.not_mem_nil, or_false] at h
  rcases h with rfl | rfl <;> exact ⟨by decide, by decide⟩

lemma serves_one_both {versions : List Resource} (h : ∀ r ∈ versions, r = one ∨ r = both) :
    Serves Pool.Token.dashes pairStore versions := by
  have hsub : ∀ r ∈ versions, ∀ k ∈ keys r.requests, k ∈ keys both.requests := by
    intro r hr k hk
    rcases h r hr with rfl | rfl
    · exact List.mem_append_left _ hk
    · exact hk
  constructor
  · intro first hfirst
    rcases h first (List.mem_of_getLast? hfirst) with rfl | rfl <;> rfl
  · intro r hr k hk _ i heq
    rw [(names_of_mem_both (hsub r hr k hk)).reference] at heq
    exact Pool.Token.dashes_ne (by decide) i (Option.some.inj heq).symm
  · rintro r hr label reference ⟨k, hk, hnames⟩
    have hlabel := hnames.pool.symm.trans (names_of_mem_both (hsub r hr k hk)).pool
    cases hlabel
    rcases h r hr with rfl | rfl <;> decide

/-- Asking for the key as well leaves the host its address. -/
theorem bound_of_both :
    ∃ a ∈ (pairStore.rows "lan").map (·.address), (after Pool.Token.dashes pairStore
      (emitted [both, one])).addressOf ⟨some "x", none, some "lan"⟩ = some a := by
  refine (bound_iff_keeps Pool.Token.dashes_injective start_pairConfig
    (serves_one_both (by simp)) ⟨rfl, rfl⟩).2 ?_
  exact .inl ⟨⟨none, some "x", some "lan"⟩, by decide, by decide, rfl, rfl⟩

/-- **A wanted binding may lose its address.**  When the key is given up again, the host is wanted
before and after the update, but owns nothing any more. -/
theorem not_bound_of_one :
    start Pool.Token.dashes Pool.pairConfig ∅ = .ok (⟨[], [], [], ["lan"]⟩, pairStore) ∧
      Serves Pool.Token.dashes pairStore [one, both] ∧
      ∃ k ∈ keys one.requests, k.isComplete = true ∧
        (after Pool.Token.dashes pairStore (emitted [one, both])).addressOf k = none := by
  have hserves : Serves Pool.Token.dashes pairStore [one, both] := serves_one_both (by simp)
  have hnames : BindingKey.Names ⟨some "x", none, some "lan"⟩ "lan" "x" := ⟨rfl, rfl⟩
  refine ⟨start_pairConfig, hserves, ⟨some "x", none, some "lan"⟩, List.mem_singleton_self _, rfl,
    ?_⟩
  rw [Store.addressOf_eq _ hnames, ← Option.not_isSome_iff_eq_none, Option.isSome_iff_exists]
  intro hbinds
  rcases (binds_iff_keeps (sound_of_start start_pairConfig) Pool.Token.dashes_injective
    (not_binds_of_start start_pairConfig) hserves).1 hbinds with ⟨k, hk, hnew, -⟩ | ⟨hstays, -⟩
  · -- The update brings no key.
    exact hnew (List.mem_append_left _ hk)
  · exact hstays ⟨⟨none, some "x", some "lan"⟩, by decide, by decide, rfl, rfl⟩

end Local

end Ipam
