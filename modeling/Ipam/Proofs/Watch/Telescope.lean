import Ipam.Proofs.Reconcile.Tally
import Ipam.Proofs.Watch.Stream

/-!
# What a watch adds up to

From the first time that a resource is seen, the operations for its changes keep up with what it
requests: as changes of a set of triples they lead to the complete bindings of its last copy.
Between two changes the cache has taken up copies without a change, so every update starts from the
requests where the one before has ended.

* `Watch.operationsFor` — the operations for the changes of one resource.
* `Watch.Cache.KeepsUp`, `Watch.Cache.KeepsUp.take` — the invariant, and that an event keeps it.
* **`Watch.telescopes`** — the operations for a resource add up to its complete bindings.
-/

namespace Ipam.Watch

open Reconcile (Batch complete tally)

variable {c : Cache} {ref : ResourceRef} {event : Event} {events : List Event}
  {others : List Resource} {changes batch : List Change} {ops : List Operation}

/-! ## Operations for one resource -/

/-- Every operation for a change carries the reference of its resource. -/
lemma Change.owner_eq {change : Change} {op : Operation} (h : op ∈ change.operations others) :
    op.owner = change.subject := by
  cases change with
  | created r => exact (Reconcile.mem_onCreate h).1
  | updated old new => exact (Reconcile.mem_onUpdate h).1
  | deleted r =>
      obtain ⟨record, -, hdelete⟩ := List.mem_filterMap.1 h
      exact (Reconcile.isFor_of_operation? hdelete).2.2.1

/-- The operations for those changes that are about a resource. -/
def operationsFor (ref : ResourceRef) (others : List Resource) (changes : List Change) :
    List Operation :=
  (changes.filter fun change => change.subject = ref).flatMap (Change.operations others)

lemma operationsFor_append (changes batch : List Change) :
    operationsFor ref others (changes ++ batch)
      = operationsFor ref others changes ++ operationsFor ref others batch := by
  rw [operationsFor, List.filter_append, List.flatMap_append, ← operationsFor, ← operationsFor]

lemma operationsFor_of_other (h : ∀ change ∈ batch, change.subject ≠ ref) :
    operationsFor ref others batch = [] := by
  have hnone : (batch.filter fun change => change.subject = ref) = [] := by
    rw [List.filter_eq_nil_iff]
    simpa using h
  rw [operationsFor, hnone, List.flatMap_nil]

lemma operationsFor_singleton (change : Change) (h : change.subject = ref) :
    operationsFor ref others [change] = change.operations others := by
  simp [operationsFor, h]

/-! ## The invariant -/

/-- The operations for a resource fit what was seen of it since it was not known. -/
inductive Cache.KeepsUp (c : Cache) (ref : ResourceRef) (events : List Event)
    (ops : List Operation) : Prop where
  /-- Nothing was seen of it. -/
  | unseen (cached : c.find? ref = none)
      (copies : ∀ event ∈ events, ∀ r, event.copy? = some r → r.ref ≠ ref) (issued : ops = [])
  /-- It was seen, and the operations lead to what it requests. -/
  | seen (r : Resource) (cached : c.find? ref = some r) (last : LastSeen r events)
      (issued : tally ∅ ops = complete r.requests)

/-- An event that does not end the resource keeps the invariant. -/
lemma Cache.KeepsUp.take (h : c.KeepsUp ref events ops)
    (hstays : ∀ change ∈ (c.take event).1, change.subject = ref → change.isDeletion = false) :
    (c.take event).2.KeepsUp ref (events ++ [event])
      (ops ++ operationsFor ref others (c.take event).1) := by
  cases c.happens event ref with
  | rests copy found kept =>
      rw [operationsFor_of_other found, List.append_nil]
      cases h with
      | unseen cached copies issued =>
          refine .unseen (kept.trans cached) ?_ issued
          exact List.forall_mem_append.2 ⟨copies, List.forall_mem_singleton.2 copy⟩
      | seen r cached last issued =>
          have href := Cache.ref_of_find? cached
          refine .seen r (kept.trans cached) ?_ issued
          exact (lastSeen_concat_of_other fun s hs => href.symm ▸ copy s hs).2 last
  | first r copy named cached found kept =>
      cases h with
      | unseen _ copies issued =>
          refine .seen r kept (lastSeen_concat copy) ?_
          rw [issued, List.nil_append, found, operationsFor_singleton (.created r) named]
          exact Reconcile.tally_onCreate r
      | seen _ cached' => cases cached.symm.trans cached'
  | again old r copy named cached same found kept =>
      cases h with
      | unseen cached' => cases cached.symm.trans cached'
      | seen s cached' last issued =>
          cases cached.symm.trans cached'
          refine .seen r kept (lastSeen_concat copy) ?_
          rw [found, operationsFor_of_other (by simp), List.append_nil, issued, same]
  | changed old r copy named cached other found kept =>
      cases h with
      | unseen cached' => cases cached.symm.trans cached'
      | seen s cached' last issued =>
          cases cached.symm.trans cached'
          refine .seen r kept (lastSeen_concat copy) ?_
          rw [found, operationsFor_singleton (.updated old r) named, Reconcile.tally_append, issued]
          exact Reconcile.tally_onUpdate old r
  | gone copy only found kept =>
      obtain ⟨change, hchange, hsubject⟩ := found
      cases (hstays change hchange hsubject).symm.trans (only change hchange)

/-- As long as a resource stays, the operations for it keep up with it. -/
lemma Cache.keepsUp (hnew : c.find? ref = none)
    (hstays : ∀ change ∈ c.trace events, change.subject = ref → change.isDeletion = false)
    (others : List Resource) :
    (c.after events).KeepsUp ref events (operationsFor ref others (c.trace events)) := by
  induction events using List.reverseRecOn with
  | nil => exact .unseen hnew (by simp) rfl
  | append_singleton events event ih =>
      rw [Cache.trace_concat] at hstays ⊢
      rw [Cache.after_concat, operationsFor_append]
      obtain ⟨hbefore, hlast⟩ := List.forall_mem_append.1 hstays
      exact (ih hbefore).take hlast

/-- **The operations for a resource add up to its complete bindings**, from the first time that it
is seen until it is gone, whatever its status and whatever else is delivered.  All of them carry its
reference, and those for an update are a batch. -/
theorem telescopes (hnew : c.find? ref = none)
    (hstays : ∀ change ∈ c.trace events, change.subject = ref → change.isDeletion = false)
    (others : List Resource) :
    (∀ r, r.ref = ref → LastSeen r events →
      tally ∅ (operationsFor ref others (c.trace events)) = complete r.requests) ∧
    (∀ op ∈ operationsFor ref others (c.trace events), op.owner = ref) ∧
    ∀ old new, Batch old new := by
  refine ⟨fun r href hlast => ?_, fun op hop => ?_, Reconcile.batch_onUpdate⟩
  · cases Cache.keepsUp hnew hstays others with
    | unseen cached copies issued =>
        obtain ⟨event, hevent, hcopy⟩ := hlast.exists_mem
        exact absurd href (copies event hevent r hcopy)
    | seen s cached last issued =>
        rw [issued, last.unique hlast ((Cache.ref_of_find? cached).trans href.symm)]
  · obtain ⟨change, hchange, hop⟩ := List.mem_flatMap.1 hop
    rw [Change.owner_eq hop]
    exact of_decide_eq_true (List.mem_filter.1 hchange).2

/-- A version of one resource. -/
def version (requests : List Request) (records : List Record) : Resource where
  metadata := { name := some "web", ns := some "prod" }
  requests := requests
  status := some { records }

/-- The last version gives up one request and adds another one, with one that names no pool. -/
def settled : Resource :=
  version [{ host := some "log" }, { key := some "vip", label := some "lan" },
    { host := some "sql", cidr := some "10.0.0.0/8" }] []

/-- The resource comes with a record that is stale. Later its status is written, its requests are
spelled differently and repeated, and it is listed again, before its last version comes. -/
def versions : List Event :=
  let www : Request := { host := some "www", label := some "lan" }
  let first := [www, { host := some "sql", key := some "", cidr := some "10.0.0.0/8" }]
  let second := [{ host := some "sql", label := some "10.0.0.0/8" }, www, www]
  let stale : Record := { host := some "old", label := some "lan", ip := "10.0.0.9" }
  [.began, .listed (version first [stale]), .ended, .applied (version first []),
    .applied (version second []), .began, .listed (version second []), .ended, .applied settled]

theorem telescopes_versions :
    ({} : Cache).find? settled.ref = none ∧
      (∀ change ∈ ({} : Cache).trace versions, change.subject = settled.ref →
        change.isDeletion = false) ∧
      tally ∅ (operationsFor settled.ref [] (({} : Cache).trace versions))
        = {⟨some "sql", none, some "10.0.0.0/8"⟩, ⟨none, some "vip", some "lan"⟩} := by
  have hstays : ∀ change ∈ ({} : Cache).trace versions, change.subject = settled.ref →
      change.isDeletion = false := by
    have hkinds : (({} : Cache).trace versions).map Change.isDeletion = [false, false, false] := by
      cbv
    intro change hchange _
    have hmem : change.isDeletion ∈ [false, false, false] := hkinds ▸ List.mem_map_of_mem hchange
    simpa using hmem
  have hlast : LastSeen settled versions :=
    ⟨versions.dropLast, .applied settled, [], rfl, rfl, by simp⟩
  refine ⟨rfl, hstays, ?_⟩
  rw [(telescopes rfl hstays []).1 settled rfl hlast]
  decide

end Ipam.Watch
