import Ipam.Proofs.Coordinator.Replay
import Ipam.Proofs.Coordinator.Desired
import Ipam.Proofs.Status

/-!
# Resuming a resource

When a controller starts again, it meets resources whose status records addresses.  It asks for
these first, then gives back what is not wanted any more, and only then asks for everything that is
wanted.  This file says when this leaves the resource with the addresses that it had.

* `Record.Asserts` — a record is about an address of a reference in a pool; `Record.Apart` — two
  records share neither an address nor a reference.
* `Local.answer_of_replay`, **`Local.lookup_after_replays`** — a recorded address that the store
  admits is bound, whatever other records come before.
* `Local.Resumable`, `Local.Resumed` — what a status has to be like, and what becomes of it.
* **`Local.onCreate_resumes`** — a resource that can be resumed is resumed.
-/

namespace Ipam

open Pool (TokenSource)

/-! ## Records -/

/-- A record is about an address of a reference in a pool. -/
structure Record.Asserts (record : Record) (label reference : String) (a : Address) : Prop where
  names : record.bindingKey.Names label reference
  address : Address.parse? record.ip = some a

/-- Two records for one pool share neither a reference nor an address. -/
def Record.Apart (x y : Record) : Prop :=
  ∀ label reference other a b, x.Asserts label reference a → y.Asserts label other b →
    reference ≠ other ∧ a ≠ b

lemma Record.Asserts.ip_ne_empty {record : Record} {label reference : String} {a : Address}
    (h : record.Asserts label reference a) : record.ip ≠ "" := by
  intro hempty
  have hparse := h.address
  rw [hempty] at hparse
  cases hparse

lemma Record.Asserts.unique {record : Record} {label reference other name : String} {a b : Address}
    (h : record.Asserts label reference a) (h' : record.Asserts other name b) :
    label = other ∧ reference = name ∧ a = b := by
  obtain ⟨hlabel, hreference⟩ := h.names.unique h'.names
  exact ⟨hlabel, hreference, Option.some.inj (h.address.symm.trans h'.address)⟩

/-- A record with an address leads to an operation. -/
lemma Record.Asserts.exists_replay? {record : Record} {label reference : String} {a : Address}
    (h : record.Asserts label reference a) (owner : ResourceRef) :
    ∃ op, Reconcile.replay? owner record = some op := by
  obtain ⟨pool, hpool, hidentified⟩ := Request.isComplete_iff.1 h.names.isComplete
  simp [Reconcile.replay?, hpool, hidentified, h.ip_ne_empty]

namespace Local

open Coordinator (process)
open Reconcile

variable {tokens : TokenSource} {s t : Store} {owner : ResourceRef} {r : Resource}
  {records : List Record} {record : Record} {op : Operation} {label reference : String} {a : Address}

/-! ## Recorded addresses -/

/-- The operation of a record is answered nothing but what the record asserts. -/
lemma asserts_of_answer (ht : Reachable t) (hop : replay? owner record = some op)
    (hconcerns : op.Concerns label reference)
    (hanswer : (process (backend tokens) op t).1.verdict = .succeeded (some a)) :
    record.Asserts label reference a := by
  obtain ⟨hfor, hkind, -, hrecorded⟩ := isFor_of_replay? hop
  exact ⟨hfor.concerns_iff.1 hconcerns,
    (process_effect tokens ht.valid op).recorded_of_answer hkind hrecorded hanswer⟩

lemma asserts_of_grants (hs : Reachable s) {step : Step}
    (hstep : step ∈ history tokens s ((replays owner records).map .operation))
    (hgrants : step.Grants tokens label reference a) :
    ∃ record ∈ records, record.Asserts label reference a := by
  obtain ⟨earlier, op, later, heq, rfl⟩ := mem_history_iff.1 hstep
  obtain ⟨_, hevent, -, hconcerns, hanswer⟩ := hgrants
  cases hevent
  have hmem : op ∈ replays owner records := heq ▸ List.mem_append_right _ List.mem_cons_self
  obtain ⟨record, hrecord, hop⟩ := List.mem_filterMap.1 hmem
  exact ⟨record, hrecord, asserts_of_answer (hs.after tokens earlier) hop hconcerns hanswer⟩

/-- A recorded address that the store admits is answered: records that are apart from it and come
before are not in its way. -/
lemma answer_of_replay (hs : Reachable s) (hapart : records.Pairwise Record.Apart)
    (hstep : ⟨t, .operation op⟩ ∈ history tokens s ((replays owner records).map .operation))
    (hconcerns : op.Concerns label reference) {text : String} (hrecorded : op.recorded = some text)
    (hparse : Address.parse? text = some a) (hadmits : s.Admits label reference a)
    (huntaken : s.Untaken label reference) :
    (process (backend tokens) op t).1 = .success op (some a) := by
  obtain ⟨earlier, _, later, heq, hmeets⟩ := mem_history_iff.1 hstep
  cases hmeets
  obtain ⟨before, rest, rfl, rfl, hrest⟩ := List.filterMap_eq_append_iff.1 heq
  obtain ⟨skipped, record, more, rfl, -, hop, -⟩ := List.filterMap_eq_cons_iff.1 hrest
  obtain ⟨hfor, hkind, -, hip⟩ := isFor_of_replay? hop
  have hasserts : record.Asserts label reference a := by
    cases hip.symm.trans hrecorded
    exact ⟨hfor.concerns_iff.1 hconcerns, hparse⟩
  have hbefore : ∀ x ∈ before, x.Apart record := fun x hx =>
    (List.pairwise_append.1 hapart).2.2 x hx record
      (List.mem_append_right _ List.mem_cons_self)
  have hkinds : ∀ op ∈ replays owner before, op.kind = .create := fun op => kind_of_mem_replays
  have hstill : (after tokens s (replays owner before)).Admits label reference a := by
    refine (admits_after_creates hs hkinds).2 ⟨hadmits, fun step hmem other b hgrants => ?_⟩
    obtain ⟨x, hx, hother⟩ := asserts_of_grants hs hmem hgrants
    obtain ⟨hne, hne'⟩ := hbefore x hx label other reference b a hother hasserts
    exact iff_of_false hne hne'
  have hstays : (after tokens s (replays owner before)).Untaken label reference := by
    refine untaken_after hs (fun op hmem hdelete => ?_) huntaken
    cases (hkinds op hmem).symm.trans hdelete
  have hreach := hs.after tokens (replays owner before)
  exact (process_effect tokens hreach.valid op).answer_of_admits hreach.labelled hkind hconcerns
    hrecorded hparse hstill hstays

/-- **A recorded address that the store admits is bound once all records have been asked for.** -/
theorem lookup_after_replays (hs : Reachable s) (hapart : records.Pairwise Record.Apart)
    (hrecord : record ∈ records) (hasserts : record.Asserts label reference a)
    (hadmits : s.Admits label reference a) (huntaken : s.Untaken label reference) :
    (after tokens s (replays owner records)).lookup label reference = some a := by
  obtain ⟨op, hop⟩ := hasserts.exists_replay? owner
  obtain ⟨hfor, hkind, -, hrecorded⟩ := isFor_of_replay? hop
  have hconcerns := hfor.concerns_iff.2 hasserts.names
  have hmem : op ∈ replays owner records := List.mem_filterMap.2 ⟨record, hrecord, hop⟩
  obtain ⟨earlier, later, heq⟩ := List.append_of_mem hmem
  have hstep : ⟨after tokens s earlier, .operation op⟩ ∈
      history tokens s ((replays owner records).map .operation) :=
    mem_history_iff.2 ⟨earlier, op, later, heq, rfl⟩
  have hanswer := answer_of_replay hs hapart hstep hconcerns hrecorded hasserts.address hadmits
    huntaken
  refine (lookup_after_creates hs fun op => kind_of_mem_replays).2 (.inr ⟨_, hstep, op, rfl, hkind,
    hconcerns, ?_⟩)
  rw [hanswer]
  rfl

/-! ## One resource -/

/-- What a status has to be like so that its resource can be resumed. -/
structure Resumable (tokens : TokenSource) (s : Store) (r : Resource) : Prop where
  /-- No binding is recorded twice. -/
  distinct : Status.Distinct r.records
  /-- Different bindings have different references, or are in different pools. -/
  separate : ∀ k ∈ bindings r, ∀ l ∈ bindings r, ∀ label reference,
    k.Names label reference → l.Names label reference → k = l
  /-- No address of a pool is recorded twice. -/
  apart : ∀ x ∈ r.records, ∀ y ∈ r.records, ∀ label reference other a,
    x.Asserts label reference a → y.Asserts label other a → x = y
  /-- Every record is complete, and its address is free or bound to its reference. -/
  admitted : ∀ record ∈ r.records, ∃ label reference a,
    record.Asserts label reference a ∧ s.Admits label reference a
  /-- No reference is a token. -/
  untaken : ∀ k ∈ bindings r, ∀ label reference, k.Names label reference →
    s.Untaken label reference ∧ ∀ i, s.drawn ≤ i → tokens i ≠ reference

/-- What becomes of a resource that is resumed. -/
structure Resumed (tokens : TokenSource) (s : Store) (r : Resource) : Prop where
  /-- Every recorded address is asked for. -/
  replayed : ∀ record ∈ r.records, ∃ op ∈ onCreate r,
    op.IsFor record.bindingKey ∧ op.recorded = some record.ip
  /-- Every create for a recorded binding is answered the recorded address; without a recorded
  address of its own it changes nothing. -/
  answered : ∀ record ∈ r.records, ∀ label reference a, record.Asserts label reference a →
    ∀ t op, ⟨t, .operation op⟩ ∈ history tokens s ((onCreate r).map .operation) →
      op.kind = .create → op.Concerns label reference →
        (process (backend tokens) op t).1 = .success op (some a) ∧
          (op.recorded = none → (process (backend tokens) op t).2 = t)
  /-- What is recorded and wanted has the recorded address. -/
  kept : ∀ record ∈ r.records, record.bindingKey ∈ keys r.requests → ∀ label reference a,
    record.Asserts label reference a →
      (after tokens s (onCreate r)).lookup label reference = some a
  /-- What is recorded and not wanted has none. -/
  released : ∀ record ∈ r.records, record.bindingKey ∉ keys r.requests → ∀ label reference,
    record.bindingKey.Names label reference →
      (after tokens s (onCreate r)).lookup label reference = none
  /-- What is wanted has an address, or its pool has none left. -/
  settled : ∀ k ∈ keys r.requests, ∀ label reference, k.Names label reference →
    (∃ a, (after tokens s (onCreate r)).lookup label reference = some a) ∨
      (after tokens s (onCreate r)).Full label
  /-- What is no binding of the resource stays as it is. -/
  others : ∀ label reference, (∀ k ∈ bindings r, ¬ k.Names label reference) →
    (after tokens s (onCreate r)).lookup label reference = s.lookup label reference

namespace Resumable

lemma key_mem (hrecord : record ∈ r.records) : record.bindingKey ∈ bindings r :=
  List.mem_append_left _ (List.mem_map_of_mem hrecord)

lemma eq_of_names (h : Resumable tokens s r) (hrecord : record ∈ r.records) {other : Record}
    (hother : other ∈ r.records) (hnames : record.bindingKey.Names label reference)
    (hnames' : other.bindingKey.Names label reference) : record = other :=
  List.inj_on_of_nodup_map h.distinct hrecord hother
    (h.separate _ (key_mem hrecord) _ (key_mem hother) label reference hnames hnames')

lemma pairwise (h : Resumable tokens s r) : r.records.Pairwise Record.Apart := by
  refine (List.pairwise_map.1 h.distinct).imp_of_mem fun {x y} hx hy hne => ?_
  intro label reference other a b hxa hyb
  constructor
  · rintro rfl
    exact hne (h.eq_of_names hx hy hxa.names hyb.names ▸ rfl)
  · rintro rfl
    exact hne (h.apart x hx y hy label reference other a hxa hyb ▸ rfl)

lemma admits (h : Resumable tokens s r) (hrecord : record ∈ r.records)
    (hasserts : record.Asserts label reference a) : s.Admits label reference a := by
  obtain ⟨pool, name, b, hasserts', hadmits⟩ := h.admitted record hrecord
  obtain ⟨rfl, rfl, rfl⟩ := hasserts.unique hasserts'
  exact hadmits

/-- No delete is for a wanted binding. -/
lemma not_concerns (h : Resumable tokens s r) {k : BindingKey} (hk : k ∈ keys r.requests)
    (hnames : k.Names label reference) (hop : op ∈ onCreate r) (hkind : op.kind = .delete) :
    ¬ op.Concerns label reference := by
  intro hconcerns
  obtain ⟨-, -, -, record, hrecord, hstale, hfor⟩ := mem_stale (mem_stale_of_delete hop hkind)
  have heq := h.separate _ (key_mem hrecord) k (List.mem_append_right _ hk) label reference
    (hfor.concerns_iff.1 hconcerns) hnames
  exact hstale (heq ▸ hk)

section Phases

variable (hs : Reachable s) (h : Resumable tokens s r)

include hs h

/-- After the recorded addresses are asked for, all of them are bound. -/
lemma lookup_replayed (hrecord : record ∈ r.records) (hasserts : record.Asserts label reference a) :
    (after tokens s (replays r.ref r.records)).lookup label reference = some a :=
  lookup_after_replays hs h.pairwise hrecord hasserts (h.admits hrecord hasserts)
    (h.untaken _ (key_mem hrecord) label reference hasserts.names).1

/-- A create with a recorded address for a recorded binding is the one of its record. -/
lemma answered_replay (hrecord : record ∈ r.records) (hasserts : record.Asserts label reference a)
    (hstep : ⟨t, .operation op⟩ ∈ history tokens s ((replays r.ref r.records).map .operation))
    (hconcerns : op.Concerns label reference) :
    (process (backend tokens) op t).1 = .success op (some a) ∧ op.recorded ≠ none := by
  obtain ⟨earlier, _, later, heq, hmeets⟩ := mem_history_iff.1 hstep
  cases hmeets
  have hmem : op ∈ replays r.ref r.records := by
    rw [heq]
    exact List.mem_append_right _ List.mem_cons_self
  obtain ⟨other, hother, hop⟩ := List.mem_filterMap.1 hmem
  obtain ⟨hfor, -, -, hrecorded⟩ := isFor_of_replay? hop
  obtain rfl := h.eq_of_names hrecord hother hasserts.names (hfor.concerns_iff.1 hconcerns)
  have hanswer := answer_of_replay hs h.pairwise hstep hconcerns hrecorded hasserts.address
    (h.admits hrecord hasserts)
    (h.untaken _ (key_mem hrecord) label reference hasserts.names).1
  exact ⟨hanswer, by simp [hrecorded]⟩

/-- A later create for a recorded binding finds it there. -/
lemma answered_plain (hnew : AllNew tokens s (onCreate r)) (hrecord : record ∈ r.records)
    (hasserts : record.Asserts label reference a)
    (hstep : ⟨t, .operation op⟩ ∈ history tokens (after tokens s (replays r.ref r.records))
      ((stale r ++ requested r).map .operation))
    (hkind : op.kind = .create) (hconcerns : op.Concerns label reference) :
    (process (backend tokens) op t).1 = .success op (some a) ∧
      (process (backend tokens) op t).2 = t := by
  obtain ⟨earlier, _, later, heq, hmeets⟩ := mem_history_iff.1 hstep
  cases hmeets
  have hphase : ∀ other ∈ earlier ++ op :: later, other ∈ onCreate r := fun other hother =>
    onCreate_phases r ▸ List.mem_append_right _ (heq ▸ hother)
  have hmem : op ∈ requested r := by
    have hlast : op ∈ stale r ++ requested r := heq ▸ List.mem_append_right _ List.mem_cons_self
    refine (List.mem_append.1 hlast).resolve_left fun hstale => ?_
    cases hkind.symm.trans (mem_stale hstale).2.1
  obtain ⟨-, -, hplain, k, hk, hfor⟩ := mem_requested hmem
  have hreach := hs.after tokens (replays r.ref r.records)
  have hlater : AllNew tokens (after tokens s (replays r.ref r.records))
      (earlier ++ op :: later) := by
    rw [← heq]
    exact (allNew_append.1 (onCreate_phases r ▸ hnew)).2
  have hold : (after tokens (after tokens s (replays r.ref r.records)) earlier).lookup label
      reference = some a :=
    lookup_after_of_kept hreach (allNew_append.1 hlater).1
      (fun other hother => h.not_concerns hk (hfor.concerns_iff.1 hconcerns)
        (hphase other (List.mem_append_left _ hother)))
      (h.lookup_replayed hs hrecord hasserts)
  have hreach' := hreach.after tokens earlier
  exact (process_effect tokens hreach'.valid op).confirmed_of_owned hreach'.labelled hkind hplain
    hconcerns hold

lemma kept (hnew : AllNew tokens s (onCreate r)) (hrecord : record ∈ r.records)
    (hwanted : record.bindingKey ∈ keys r.requests)
    (hasserts : record.Asserts label reference a) :
    (after tokens s (onCreate r)).lookup label reference = some a := by
  rw [onCreate_phases] at hnew ⊢
  rw [after_append]
  refine lookup_after_of_kept (hs.after tokens _) (allNew_append.1 hnew).2
    (fun op hop hkind => ?_) (h.lookup_replayed hs hrecord hasserts)
  exact h.not_concerns hwanted hasserts.names (onCreate_phases r ▸ List.mem_append_right _ hop) hkind

/-- A recorded binding that is not wanted is given back, and no create asks for it again. -/
lemma released (hnew : AllNew tokens s (onCreate r)) (hrecord : record ∈ r.records)
    (hstale : record.bindingKey ∉ keys r.requests)
    (hnames : record.bindingKey.Names label reference) :
    (after tokens s (onCreate r)).lookup label reference = none := by
  rw [onCreate_phases] at hnew ⊢
  obtain ⟨-, hlater⟩ := allNew_append.1 hnew
  obtain ⟨hdeletes, hcreates⟩ := allNew_append.1 hlater
  have hreach := hs.after tokens (replays r.ref r.records)
  obtain ⟨op, hmem, hfor⟩ := exists_stale hrecord hstale hnames.isComplete
  rw [after_append, after_append, lookup_after_of_untouched (hreach.after tokens _) hcreates]
  · rw [Option.eq_none_iff_forall_ne_some]
    intro a hold
    exact ((lookup_after_deletes hreach hdeletes fun op hop => (mem_stale hop).2.1).1 hold).2 op
      hmem (hfor.concerns_iff.2 hnames)
  · intro other hother hconcerns
    obtain ⟨-, -, -, k, hk, hfor'⟩ := mem_requested hother
    have heq := h.separate k (List.mem_append_right _ hk) _ (key_mem hrecord) label reference
      (hfor'.concerns_iff.1 hconcerns) hnames
    exact hstale (heq ▸ hk)

/-- A wanted binding is asked for by one of the last creates: it is answered an address, which stays,
or finds the pool full, which stays so too. -/
lemma settled {k : BindingKey} (hk : k ∈ keys r.requests) (hnames : k.Names label reference) :
    (∃ a, (after tokens s (onCreate r)).lookup label reference = some a) ∨
      (after tokens s (onCreate r)).Full label := by
  obtain ⟨op, hmem, hfor⟩ := exists_requested hk hnames.isComplete
  obtain ⟨-, hkind, hplain, -⟩ := mem_requested hmem
  obtain ⟨earlier, later, heq⟩ := List.append_of_mem hmem
  obtain ⟨huntaken, hdrawn⟩ := h.untaken _ (List.mem_append_right _ hk) label reference hnames
  have hsplit : onCreate r = (replays r.ref r.records ++ stale r ++ earlier) ++ op :: later := by
    rw [onCreate_phases, heq]
    simp only [List.append_assoc]
  have hlater : ∀ other ∈ later, other.kind = .create := fun other hother =>
    (mem_requested (heq ▸ List.mem_append_right _ (List.mem_cons_of_mem _ hother))).2.1
  rw [hsplit, after_append, after_cons]
  have hreach := hs.after tokens (replays r.ref r.records ++ stale r ++ earlier)
  have hstays : (after tokens s (replays r.ref r.records ++ stale r ++ earlier)).Untaken label
      reference := untaken_after hs (fun _ _ _ => hdrawn) huntaken
  have heffect := process_effect tokens hreach.valid op
  have hconcerns := hfor.concerns_iff.2 hnames
  rcases heffect.outcome_eq.2 hkind with hfailed | ⟨a, hanswer⟩
  · right
    have hfull := heffect.full_of_failure hreach.valid hreach.labelled hplain hconcerns hstays hfailed
    refine full_after_creates (hreach.process tokens op) hlater fun b token hrow => ?_
    rcases heffect.free_row hrow with hold | ⟨hdelete, -⟩
    · exact hfull b token hold
    · cases hkind.symm.trans hdelete
  · left
    refine ⟨a, (lookup_after_creates (hreach.process tokens op) hlater).2 (.inl ?_)⟩
    exact heffect.lookup_of_answer hreach.valid hreach.labelled hkind hconcerns hanswer

end Phases

end Resumable

/-- **A resource that can be resumed is resumed**: it gets the addresses that it has recorded and
still wants, it gives back the others, and nobody else is touched. -/
theorem onCreate_resumes (hs : Reachable s) (h : Resumable tokens s r)
    (hnew : AllNew tokens s (onCreate r)) : Resumed tokens s r where
  replayed record hrecord := by
    obtain ⟨label, reference, a, hasserts, -⟩ := h.admitted record hrecord
    obtain ⟨op, hop⟩ := hasserts.exists_replay? r.ref
    obtain ⟨hfor, -, -, hrecorded⟩ := isFor_of_replay? hop
    have hmem : op ∈ replays r.ref r.records := List.mem_filterMap.2 ⟨record, hrecord, hop⟩
    exact ⟨op, onCreate_phases r ▸ List.mem_append_left _ hmem, hfor, hrecorded⟩
  answered record hrecord label reference a hasserts t op hstep hkind hconcerns := by
    rw [onCreate_phases, history_append] at hstep
    rcases List.mem_append.1 hstep with hreplay | hlast
    · obtain ⟨hanswer, hrecorded⟩ := h.answered_replay hs hrecord hasserts hreplay hconcerns
      exact ⟨hanswer, fun hplain => absurd hplain hrecorded⟩
    · obtain ⟨hanswer, hsame⟩ := h.answered_plain hs hnew hrecord hasserts hlast hkind hconcerns
      exact ⟨hanswer, fun _ => hsame⟩
  kept record hrecord hwanted label reference a hasserts :=
    h.kept hs hnew hrecord hwanted hasserts
  released record hrecord hstale label reference hnames :=
    h.released hs hnew hrecord hstale hnames
  settled k hk label reference hnames := h.settled hs hk hnames
  others label reference hnone := by
    refine lookup_after_of_untouched hs hnew fun op hop hconcerns => ?_
    obtain ⟨-, k, hk, hfor⟩ := mem_onCreate hop
    exact hnone k hk (hfor.concerns_iff.1 hconcerns)

/-- A resource that keeps `www`, gives `mail` back, and asks for `ftp` as well. -/
def moving : Resource where
  metadata := { name := some "web", ns := some "prod" }
  requests := [{ host := some "www", label := some "lan" },
    { host := some "ftp", label := some "lan" }]
  status := some
    { records := [{ host := some "www", label := some "lan", ip := "10.0.0.2" },
        { host := some "mail", label := some "lan", ip := "10.0.0.1" }] }

/-- The bindings of the resource are for hosts of one pool. -/
lemma reference_of_moving {k : BindingKey} (hk : k ∈ bindings moving)
    (hnames : k.Names label reference) :
    k = ⟨some reference, none, some label⟩ ∧ reference ∈ ["www", "mail", "ftp"] := by
  have hall : ∀ k ∈ bindings moving, k = ⟨k.reference?, none, k.pool⟩ ∧
      ∀ reference, k.reference? = some reference → reference ∈ ["www", "mail", "ftp"] := by
    have hkeys : bindings moving = [⟨some "www", none, some "lan"⟩, ⟨some "mail", none, some "lan"⟩,
      ⟨some "www", none, some "lan"⟩, ⟨some "ftp", none, some "lan"⟩] := by decide
    simp [hkeys, BindingKey.reference?]
  obtain ⟨heq, hmem⟩ := hall k hk
  rw [hnames.reference, hnames.pool] at heq
  exact ⟨heq, hmem reference hnames.reference⟩

lemma dashes_ne_of_moving {k : BindingKey} (hk : k ∈ bindings moving)
    (hnames : k.Names label reference) (i : Nat) : Pool.Token.dashes i ≠ reference := by
  have hmem := (reference_of_moving hk hnames).2
  simp only [List.mem_cons, List.not_mem_nil, or_false] at hmem
  rcases hmem with rfl | rfl | rfl <;> exact Pool.Token.dashes_ne (by decide) i

lemma resumable_moving : Resumable Pool.Token.dashes pairStore moving where
  distinct := by
    unfold Status.Distinct
    decide
  separate k hk l hl label reference hnames hnames' :=
    (reference_of_moving hk hnames).1.trans (reference_of_moving hl hnames').1.symm
  apart x hx y hy label reference other a hxa hya := by
    have hall : ∀ x ∈ moving.records, ∀ y ∈ moving.records,
        Address.parse? x.ip = Address.parse? y.ip → x = y := by decide +kernel
    exact hall x hx y hy (hxa.address.trans hya.address.symm)
  admitted record hrecord := by
    simp only [moving, Resource.records, List.mem_cons, List.not_mem_nil, or_false] at hrecord
    rcases hrecord with rfl | rfl
    · exact ⟨"lan", "www", .ofNat 0x0A000002, ⟨⟨by decide, by decide⟩, by decide +kernel⟩,
        .inr ⟨rfl, _, List.mem_cons_of_mem _ List.mem_cons_self⟩⟩
    · exact ⟨"lan", "mail", .ofNat 0x0A000001, ⟨⟨by decide, by decide⟩, by decide +kernel⟩,
        .inr ⟨rfl, _, List.mem_cons_self⟩⟩
  untaken k hk label reference hnames := by
    have hne := dashes_ne_of_moving hk hnames
    exact ⟨(sound_of_start start_pairConfig).supplied.untaken hne, fun i _ => hne i⟩

/-- `www` gets its address back, `mail` has none any more, and `ftp` has one unless there is none
left. -/
theorem resumed_of_moving :
    Resumable Pool.Token.dashes pairStore moving ∧
      AllNew Pool.Token.dashes pairStore (onCreate moving) ∧
      (after Pool.Token.dashes pairStore (onCreate moving)).lookup "lan" "www"
        = some (.ofNat 0x0A000002) ∧
      (after Pool.Token.dashes pairStore (onCreate moving)).lookup "lan" "mail" = none ∧
      ((∃ a, (after Pool.Token.dashes pairStore (onCreate moving)).lookup "lan" "ftp" = some a) ∨
        (after Pool.Token.dashes pairStore (onCreate moving)).Full "lan") := by
  have hnew : AllNew Pool.Token.dashes pairStore (onCreate moving) := by
    refine (sound_of_start start_pairConfig).allNew Pool.Token.dashes_injective
      fun op hop reference hreference => ?_
    obtain ⟨-, k, hk, hfor⟩ := mem_onCreate hop
    exact dashes_ne_of_moving hk (hfor.concerns_iff.1 ⟨rfl, hreference⟩)
  have hresumed := onCreate_resumes (reachable_of_start start_pairConfig) resumable_moving hnew
  refine ⟨resumable_moving, hnew, ?_, ?_, ?_⟩
  · exact hresumed.kept _ List.mem_cons_self (by decide) "lan" "www" _
      ⟨⟨by decide, by decide⟩, by decide +kernel⟩
  · exact hresumed.released _ (List.mem_cons_of_mem _ List.mem_cons_self) (by decide) "lan" "mail"
      ⟨by decide, by decide⟩
  · exact hresumed.settled ⟨some "ftp", none, some "lan"⟩ (by decide) "lan" "ftp"
      ⟨by decide, by decide⟩

end Local

end Ipam
