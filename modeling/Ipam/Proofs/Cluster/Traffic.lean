import Ipam.Proofs.Cluster.Losses
import Ipam.Proofs.Cluster.Server
import Ipam.Proofs.Watch.Cache

/-!
# What is on its way in a cluster

Users create, edit and remove resources while changes, operations and outcomes of earlier ones are
still under way.  `Traffic` is what then counts for the bindings: the statuses, the three queues in
the order in which the controller goes through them, and the store.  Since statuses lag behind the
store, they are compared with the store as it was when the last outcome was written.

* `Traffic`, `Traffic.Moves` — the state, and what can happen to it.
* `Traffic.Sound` — the invariant: all that is on its way is about complete bindings and records no
  address, and the outcomes that are not written yet lead to the store as it is.
* **`Traffic.Sound.move`** — whatever happens keeps it.

A resource may come back under the name of one that was removed.  Then the outcomes of the old one
are written into the status of the new one, and the invariant covers this as well.  Nor is anything
asked of what the users want: several resources may share a binding, and one resource may ask for
two that stand for the same reference.
-/

namespace Ipam

open Pool (TokenSource)

namespace Cluster

open Watch (Change)

variable {tokens : TokenSource}

/-! ## Changes and operations -/

/-- An operation is for some binding of a resource that can be reached, and records no address. -/
structure Plain (op : Operation) : Prop where
  binding : ∃ k, op.IsFor k
  recorded : op.recorded = none
  addressable : Addressable op.owner.name

/-- A change is about a resource that can be reached, whose status is empty if it is new. -/
structure Proper (change : Change) : Prop where
  addressable : Addressable change.subject.name
  blank : ∀ r, change = .created r → r.records = []

/-- The operations for a change are plain. -/
lemma Proper.plain {change : Change} (h : Proper change) {others : List Resource} {op : Operation}
    (hop : op ∈ change.operations others) : Plain op := by
  have haddressable := h.addressable
  cases change with
  | created r =>
      have hrequested : op ∈ Reconcile.requested r := by
        have hphases := Reconcile.onCreate_phases r
        rw [h.blank r rfl] at hphases
        simpa [Change.operations, hphases, Reconcile.replays, Reconcile.settling, Reconcile.stale,
          h.blank r rfl] using hop
      obtain ⟨howner, -, hplain, k, -, hfor⟩ := Reconcile.mem_requested hrequested
      exact ⟨⟨k, hfor⟩, hplain, howner ▸ haddressable⟩
  | updated old new =>
      obtain ⟨howner, hplain, k, -, hfor⟩ := Reconcile.mem_onUpdate hop
      exact ⟨⟨k, hfor⟩, hplain, howner ▸ haddressable⟩
  | deleted r =>
      obtain ⟨record, -, hdelete⟩ := List.mem_filterMap.1 hop
      obtain ⟨hfor, -, howner, hplain⟩ := Reconcile.isFor_of_operation? hdelete
      exact ⟨⟨_, hfor⟩, hplain, howner ▸ haddressable⟩

/-! ## Statuses -/

/-- The statuses after an outcome was folded into that of its resource. -/
def foldInto (outcome : Outcome) (status : String → Option (List Record)) :
    String → Option (List Record) :=
  Function.update status outcome.operation.owner.name
    ((status outcome.operation.owner.name).map (Status.fold outcome))

lemma foldInto_apply (outcome : Outcome) (status : String → Option (List Record)) (name : String) :
    foldInto outcome status name
      = if name = outcome.operation.owner.name then (status name).map (Status.fold outcome)
        else status name := by
  rw [foldInto, Function.update_apply]
  split_ifs with hname
  · rw [hname]
  · rfl

/-- The statuses after an outcome record the same of all bindings that it is not for. -/
lemma recorded?_foldInto {outcome : Outcome} (hplain : Plain outcome.operation)
    {status : String → Option (List Record)}
    (hdistinct : ∀ name records, status name = some records → Status.Distinct records)
    {k : BindingKey} (hother : ¬ outcome.operation.IsFor k) (name : String) :
    (foldInto outcome status name).bind (Status.recorded? k)
      = (status name).bind (Status.recorded? k) := by
  obtain ⟨l, hfor⟩ := hplain.binding
  have hne : k ≠ outcome.operation.bindingKey := by
    rintro rfl
    exact hother (hfor.bindingKey ▸ hfor)
  rw [foldInto_apply]
  split_ifs
  · cases hrecords : status name with
    | none => rfl
    | some records =>
        have hfold := Status.recorded?_fold (hdistinct name records hrecords) outcome k
        rwa [if_neg hne] at hfold
  · rfl

/-! ## Outcomes in a row -/

/-- Some outcomes lead from one store to another. -/
inductive Leads (tokens : TokenSource) : Store → List Outcome → Store → Prop where
  | nil (s : Store) : Leads tokens s [] s
  | cons {s s' last : Store} {outcome : Outcome} {rest : List Outcome}
      (effect : Local.Effect tokens s outcome.operation outcome s')
      (new : Local.DrawsNew tokens s outcome.operation) (later : Leads tokens s' rest last) :
      Leads tokens s (outcome :: rest) last

lemma Leads.concat {s s' last : Store} {outcomes : List Outcome} {op : Operation}
    {outcome : Outcome} (h : Leads tokens s outcomes s')
    (heffect : Local.Effect tokens s' op outcome last)
    (hnew : Local.DrawsNew tokens s' op) : Leads tokens s (outcomes ++ [outcome]) last := by
  have hoperation := heffect.outcome_eq.1
  induction h with
  | nil s => exact .cons (hoperation ▸ heffect) (hoperation ▸ hnew) (.nil _)
  | cons effect new later ih => exact .cons effect new (ih heffect hnew)

lemma Leads.intact {s s' : Store} {outcomes : List Outcome} (h : Leads tokens s outcomes s')
    (hs : s.Valid) (hl : s.Labelled) : s'.Valid ∧ s'.Labelled := by
  induction h with
  | nil s => exact ⟨hs, hl⟩
  | cons effect new later ih => exact ih (effect.valid hs) (effect.labelled hl)

/-! ## Traffic -/

/-- What is on its way between the resources and the store. -/
structure Traffic where
  /-- The recorded bindings of the resources that are there. -/
  status : String → Option (List Record)
  /-- The changes whose operations are still to be found, oldest first. -/
  changes : List Change
  /-- The operations that are still to be carried out, oldest first. -/
  queued : List Operation
  store : Store
  /-- The outcomes that are still to be written, oldest first. -/
  outcomes : List Outcome
  /-- The store that the last written outcome has left. -/
  written : Store
  lost : Losses

namespace Traffic

/-- What can happen.  Users create, edit and remove resources; the controller finds the operations
for a change, carries out an operation, and writes an outcome, unless its resource is gone. -/
inductive Moves (tokens : TokenSource) (t : Traffic) : Traffic → Prop where
  | rests : Moves tokens t t
  | creates {r : Resource} (absent : t.status r.ref.name = none) (proper : Proper (.created r)) :
      Moves tokens t { t with
        status := Function.update t.status r.ref.name (some [])
        changes := t.changes ++ [.created r] }
  | updates {old new : Resource} (proper : Proper (.updated old new)) :
      Moves tokens t { t with changes := t.changes ++ [.updated old new] }
  | removes {r : Resource} (present : t.status r.ref.name = some r.records)
      (proper : Proper (.deleted r)) :
      Moves tokens t { t with
        status := Function.update t.status r.ref.name none
        changes := t.changes ++ [.deleted r] }
  | dispatches {change : Change} {rest : List Change} {others : List Resource}
      (changes : t.changes = change :: rest)
      (present : ∀ other ∈ others, t.status other.ref.name = some other.records) :
      Moves tokens t { t with
        changes := rest
        queued := t.queued ++ change.operations others
        lost := t.lost.dispatch change others }
  | works {op : Operation} {rest : List Operation} {outcome : Outcome} {store : Store}
      (queued : t.queued = op :: rest) (effect : Local.Effect tokens t.store op outcome store)
      (new : Local.DrawsNew tokens t.store op) :
      Moves tokens t { t with
        queued := rest
        store := store
        outcomes := t.outcomes ++ [outcome] }
  | writes {outcome : Outcome} {rest : List Outcome} {written : Store}
      (outcomes : t.outcomes = outcome :: rest)
      (effect : Local.Effect tokens t.written outcome.operation outcome written)
      (new : Local.DrawsNew tokens t.written outcome.operation)
      (later : Leads tokens written rest t.store) :
      Moves tokens t { t with
        status := foldInto outcome t.status
        outcomes := rest
        written := written
        lost := t.lost.write outcome (t.status outcome.operation.owner.name).isNone }

/-- The invariant. -/
structure Sound (tokens : TokenSource) (t : Traffic) : Prop where
  valid : t.written.Valid
  labelled : t.written.Labelled
  leads : Leads tokens t.written t.outcomes t.store
  changes : ∀ change ∈ t.changes, Proper change
  queued : ∀ op ∈ t.queued, Plain op
  outcomes : ∀ outcome ∈ t.outcomes, Plain outcome.operation
  distinct : ∀ name records, t.status name = some records → Status.Distinct records

variable {t t' : Traffic}

/-! ## The invariant is kept -/

/-- A change keeps the invariant that leaves every status as it is, removes it or empties it. -/
lemma Sound.announce (h : t.Sound tokens) {change : Change} (hproper : Proper change)
    {status : String → Option (List Record)} (hstatus : ∀ name records, status name = some records →
      records = [] ∨ t.status name = some records) :
    Sound tokens { t with status := status, changes := t.changes ++ [change] } where
  valid := h.valid
  labelled := h.labelled
  leads := h.leads
  changes other hother := by
    rcases List.mem_append.1 hother with hold | hadded
    · exact h.changes other hold
    · exact List.mem_singleton.1 hadded ▸ hproper
  queued := h.queued
  outcomes := h.outcomes
  distinct name records hrecords := by
    rcases hstatus name records hrecords with rfl | hsame
    · exact List.nodup_nil
    · exact h.distinct name records hsame

/-- Writing an outcome keeps the invariant. -/
lemma Sound.write (h : t.Sound tokens) {outcome : Outcome} {rest : List Outcome} {written : Store}
    (houtcomes : t.outcomes = outcome :: rest)
    (heffect : Local.Effect tokens t.written outcome.operation outcome written)
    (hlater : Leads tokens written rest t.store) (lost : Losses) :
    Sound tokens { t with
      status := foldInto outcome t.status
      outcomes := rest
      written := written
      lost := lost } where
  valid := heffect.valid h.valid
  labelled := heffect.labelled h.labelled
  leads := hlater
  changes := h.changes
  queued := h.queued
  outcomes other hother := h.outcomes other (houtcomes ▸ List.mem_cons_of_mem _ hother)
  distinct name records hrecords := by
    change foldInto outcome t.status name = some records at hrecords
    rw [foldInto_apply] at hrecords
    split_ifs at hrecords
    · obtain ⟨before, hbefore, rfl⟩ := Option.map_eq_some_iff.1 hrecords
      exact Status.distinct_fold (h.distinct _ _ hbefore) outcome
    · exact h.distinct name records hrecords

/-- **Whatever happens keeps the invariant.** -/
theorem Sound.move (h : t.Sound tokens) (hmove : t.Moves tokens t') : t'.Sound tokens := by
  cases hmove with
  | rests => exact h
  | @creates r absent proper =>
      refine h.announce proper fun name records hrecords => ?_
      by_cases hname : name = r.ref.name
      · rw [hname, Function.update_self, Option.some.injEq] at hrecords
        exact .inl hrecords.symm
      · rw [Function.update_of_ne hname] at hrecords
        exact .inr hrecords
  | updates proper => exact h.announce proper fun _ _ => .inr
  | @removes r present proper =>
      refine h.announce proper fun name records hrecords => .inr ?_
      by_cases hname : name = r.ref.name
      · rw [hname, Function.update_self] at hrecords
        cases hrecords
      · rwa [Function.update_of_ne hname] at hrecords
  | @dispatches change rest others changes =>
      have hproper := h.changes change (changes ▸ List.mem_cons_self)
      refine ⟨h.valid, h.labelled, h.leads, fun other hother => ?_, fun op hop => ?_, h.outcomes,
        h.distinct⟩
      · exact h.changes other (changes ▸ List.mem_cons_of_mem _ hother)
      · exact (List.mem_append.1 hop).elim (h.queued op) hproper.plain
  | @works op rest outcome store queued effect new =>
      have hplain := h.queued op (queued ▸ List.mem_cons_self)
      refine ⟨h.valid, h.labelled, h.leads.concat effect new, h.changes, fun other hother => ?_,
        fun other hother => ?_, h.distinct⟩
      · exact h.queued other (queued ▸ List.mem_cons_of_mem _ hother)
      · rcases List.mem_append.1 hother with hold | hadded
        · exact h.outcomes other hold
        · rw [List.mem_singleton.1 hadded, effect.outcome_eq.1]
          exact hplain
  | writes outcomes effect new later => exact h.write outcomes effect later _

end Traffic

end Cluster

end Ipam
