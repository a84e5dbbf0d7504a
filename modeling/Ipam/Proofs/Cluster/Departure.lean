import Ipam.Proofs.Cluster.Traffic

/-!
# What a removed resource leaves behind

A removed resource is cleaned up from its status.  This works as long as all that the store keeps is
recorded in some status or about to be looked after.

* `Traffic.Expected`, `Traffic.Recorded` — something that is on its way will settle a binding, or a
  status records it.
* `Traffic.Accounted` — the invariant: every binding that the store keeps is expected, recorded or
  lost.
* **`Traffic.Accounted.move`** — whatever happens keeps it.
* **`Traffic.free_or_lost`** — once all resources are gone and nothing is on its way, every row is
  free or lost.

An outcome settles its binding whatever was true of it before: after a delete and after a failed
create the store keeps nothing for it, and the answer to a create is recorded by the resource, if
that is there, and lost otherwise.
-/

namespace Ipam

open Pool (TokenSource)

namespace Cluster

open Watch (Change)

namespace Traffic

/-- Something that is on its way will settle a binding: the removal of a resource that records it,
an operation or an outcome. -/
def Expected (t : Traffic) (label reference : String) : Prop :=
  (∃ r, .deleted r ∈ t.changes ∧ ∃ text, r.Holds label reference text) ∨
    (∃ op ∈ t.queued, op.Concerns label reference) ∨
    ∃ outcome ∈ t.outcomes, outcome.operation.Concerns label reference

/-- The status of a resource that is there records a binding. -/
def Recorded (t : Traffic) (label reference : String) : Prop :=
  ∃ name records, t.status name = some records ∧
    ∃ record ∈ records, record.bindingKey.Names label reference

/-- The invariant: somebody looks after every binding that the store keeps, unless it is lost. -/
def Accounted (t : Traffic) : Prop :=
  ∀ label reference a, t.written.lookup label reference = some a →
    t.Expected label reference ∨ t.Recorded label reference ∨ t.lost.Loses label reference

variable {tokens : TokenSource} {t t' : Traffic} {label reference : String}

/-! ## Users -/

/-- A change that users make keeps the invariant, if the statuses go on recording what they do. -/
lemma Accounted.announce (h : t.Accounted) (change : Change)
    {status : String → Option (List Record)}
    (hstatus : ∀ name records, t.status name = some records → status name = some records) :
    Accounted { t with status := status, changes := t.changes ++ [change] } := by
  intro label reference a hlookup
  rcases h label reference a hlookup with (⟨r, hr, hholds⟩ | hpassing) | hrecorded | hlost
  · exact .inl (.inl ⟨r, List.mem_append_left _ hr, hholds⟩)
  · exact .inl (.inr hpassing)
  · obtain ⟨name, records, hrecords, hrecord⟩ := hrecorded
    exact .inr (.inl ⟨name, records, hstatus name records hrecords, hrecord⟩)
  · exact .inr (.inr hlost)

/-- What a removed resource has recorded is expected to be released. -/
lemma Accounted.remove (h : t.Accounted) {r : Resource}
    (hpresent : t.status r.ref.name = some r.records) :
    Accounted { t with
      status := Function.update t.status r.ref.name none
      changes := t.changes ++ [.deleted r] } := by
  intro label reference a hlookup
  rcases h label reference a hlookup with (⟨other, hother, hholds⟩ | hpassing) | hrecorded | hlost
  · exact .inl (.inl ⟨other, List.mem_append_left _ hother, hholds⟩)
  · exact .inl (.inr hpassing)
  · obtain ⟨name, records, hrecords, record, hrecord, hnames⟩ := hrecorded
    by_cases hname : name = r.ref.name
    · rw [hname, hpresent, Option.some.injEq] at hrecords
      exact .inl (.inl ⟨r, List.mem_append_right _ (List.mem_singleton_self _), record.ip, record,
        hrecords ▸ hrecord, hnames, rfl⟩)
    · exact .inr (.inl ⟨name, records, (Function.update_of_ne hname _ _).trans hrecords, record,
        hrecord, hnames⟩)
  · exact .inr (.inr hlost)

/-! ## The watcher -/

/-- The operations for a removal release what the resource records, unless another resource records
it or it is lost. -/
lemma release {r : Resource} {others : List Resource} {text : String}
    (hothers : ∀ other ∈ others, t.status other.ref.name = some other.records)
    (hholds : r.Holds label reference text) :
    (∃ op ∈ Reconcile.onDelete r others, op.Concerns label reference) ∨
      t.Recorded label reference ∨ (t.lost.dispatch (.deleted r) others).Loses label reference := by
  by_cases hreleased : ∃ op ∈ Reconcile.onDelete r others, op.Concerns label reference
  · exact .inl hreleased
  by_cases halone : ∀ other ∈ others, (label, reference) ∉ other.places
  · exact .inr (.inr (Losses.loses_of_not_released hholds hreleased halone))
  · push Not at halone
    obtain ⟨other, hother, hplace⟩ := halone
    obtain ⟨_, record, hrecord, hnames, -⟩ := Resource.mem_places.1 hplace
    exact .inr (.inl ⟨_, _, hothers other hother, record, hrecord, hnames⟩)

/-- Finding the operations for a change keeps the invariant. -/
lemma Accounted.dispatch (h : t.Accounted) {change : Change} {rest : List Change}
    {others : List Resource} (hchanges : t.changes = change :: rest)
    (hothers : ∀ other ∈ others, t.status other.ref.name = some other.records) :
    Accounted { t with
      changes := rest
      queued := t.queued ++ change.operations others
      lost := t.lost.dispatch change others } := by
  intro label reference a hlookup
  rcases h label reference a hlookup with
    (⟨r, hr, text, hholds⟩ | ⟨op, hop, hconcerns⟩ | houtcome) | hrecorded | hlost
  · rcases List.mem_cons.1 (hchanges ▸ hr) with rfl | hleft
    · rcases release hothers hholds with ⟨op, hop, hconcerns⟩ | hrecorded | hlost
      · exact .inl (.inr (.inl ⟨op, List.mem_append_right _ hop, hconcerns⟩))
      · exact .inr (.inl hrecorded)
      · exact .inr (.inr hlost)
    · exact .inl (.inl ⟨r, hleft, text, hholds⟩)
  · exact .inl (.inr (.inl ⟨op, List.mem_append_left _ hop, hconcerns⟩))
  · exact .inl (.inr (.inr houtcome))
  · exact .inr (.inl hrecorded)
  · exact .inr (.inr (hlost.dispatch change others))

/-! ## The coordinator and the status writer -/

/-- Carrying out an operation keeps the invariant. -/
lemma Accounted.work (h : t.Accounted) {op : Operation} {rest : List Operation} {outcome : Outcome}
    {store : Store} (hqueued : t.queued = op :: rest) (hoperation : outcome.operation = op) :
    Accounted { t with
      queued := rest
      store := store
      outcomes := t.outcomes ++ [outcome] } := by
  intro label reference a hlookup
  rcases h label reference a hlookup with
    (hremoval | ⟨other, hother, hconcerns⟩ | ⟨other, hother, hconcerns⟩) | hkept
  · exact .inl (.inl hremoval)
  · rcases List.mem_cons.1 (hqueued ▸ hother) with rfl | hleft
    · refine .inl (.inr (.inr ⟨outcome, List.mem_append_right _ (List.mem_singleton_self _), ?_⟩))
      rwa [hoperation]
    · exact .inl (.inr (.inl ⟨other, hleft, hconcerns⟩))
  · exact .inl (.inr (.inr ⟨other, List.mem_append_left _ hother, hconcerns⟩))
  · exact .inr hkept

section Write

variable {outcome : Outcome} {rest : List Outcome} {written : Store}

/-- An outcome settles its binding: what the store keeps then was answered, and is recorded, or lost
if the resource is gone. -/
lemma Sound.settle (h : t.Sound tokens) (hplain : Plain outcome.operation)
    (heffect : Local.Effect tokens t.written outcome.operation outcome written)
    (hnew : Local.DrawsNew tokens t.written outcome.operation)
    (hconcerns : outcome.operation.Concerns label reference) {a : Address}
    (hlookup : written.lookup label reference = some a) :
    (∃ records, foldInto outcome t.status outcome.operation.owner.name = some records ∧
        ∃ record ∈ records, record.bindingKey.Names label reference) ∨
      outcome.address?.isSome = true ∧ t.status outcome.operation.owner.name = none := by
  cases hkind : outcome.operation.kind with
  | delete =>
      rw [heffect.lookup_of_delete h.valid h.labelled hnew hkind hconcerns] at hlookup
      cases hlookup
  | create =>
      rcases heffect.outcome_eq.2 hkind with hfailed | ⟨b, hanswer⟩
      · rw [heffect.lookup_of_failure h.labelled hplain.recorded hconcerns hfailed] at hlookup
        cases hlookup
      cases hstatus : t.status outcome.operation.owner.name with
      | none => exact .inr ⟨by rw [Outcome.address?, hanswer]; rfl, rfl⟩
      | some records =>
          obtain ⟨k, hfor⟩ := hplain.binding
          have hrecorded :
              Status.recorded? k (Status.fold outcome records) = some (toString b) := by
            rw [Status.recorded?_fold (h.distinct _ _ hstatus), hfor.bindingKey, if_pos rfl]
            simp [Status.recordedBy, hkind, hanswer]
          obtain ⟨record, hrecord, rfl, -⟩ := Status.exists_of_recorded? hrecorded
          refine .inl ⟨_, ?_, record, hrecord, hfor.concerns_iff.1 hconcerns⟩
          rw [foldInto_apply, if_pos rfl, hstatus, Option.map_some]

/-- An outcome leaves all other bindings recorded. -/
lemma Sound.recorded_of_not_concerns (h : t.Sound tokens) (hplain : Plain outcome.operation)
    (hother : ¬ outcome.operation.Concerns label reference) (hrecorded : t.Recorded label reference)
    {t' : Traffic} (ht : t'.status = foldInto outcome t.status) : t'.Recorded label reference := by
  obtain ⟨name, records, hrecords, record, hrecord, hnames⟩ := hrecorded
  have hnot : ¬ outcome.operation.IsFor record.bindingKey := fun hfor =>
    hother (hfor.concerns_iff.2 hnames)
  have hsame := recorded?_foldInto hplain h.distinct hnot name
  rw [hrecords, Option.bind_some, Status.recorded?_of_mem (h.distinct _ _ hrecords) hrecord,
    Option.bind_eq_some_iff] at hsame
  obtain ⟨after, hafter, hfound⟩ := hsame
  obtain ⟨found, hmem, hkey, -⟩ := Status.exists_of_recorded? hfound
  exact ⟨name, after, ht ▸ hafter, found, hmem, hkey ▸ hnames⟩

/-- Writing an outcome keeps the invariant. -/
lemma Accounted.write (h : t.Accounted) (hs : t.Sound tokens)
    (houtcomes : t.outcomes = outcome :: rest)
    (heffect : Local.Effect tokens t.written outcome.operation outcome written)
    (hnew : Local.DrawsNew tokens t.written outcome.operation) :
    Accounted { t with
      status := foldInto outcome t.status
      outcomes := rest
      written := written
      lost := t.lost.write outcome (t.status outcome.operation.owner.name).isNone } := by
  intro label reference a hlookup
  have hplain := hs.outcomes outcome (houtcomes ▸ List.mem_cons_self)
  by_cases hconcerns : outcome.operation.Concerns label reference
  · right
    rcases hs.settle hplain heffect hnew hconcerns hlookup with
      ⟨records, hrecorded⟩ | ⟨hanswer, hgone⟩
    · exact .inl ⟨_, records, hrecorded⟩
    · rw [hgone]
      exact .inr (Losses.loses_of_gone hconcerns hanswer)
  · have hsame := heffect.lookup_of_not_concerns hs.valid hs.labelled hnew hconcerns
    rcases h label reference a (hsame ▸ hlookup) with
      (hremoval | hqueued | ⟨other, hother, hotherConcerns⟩) | hrecorded | hlost
    · exact .inl (.inl hremoval)
    · exact .inl (.inr (.inl hqueued))
    · rcases List.mem_cons.1 (houtcomes ▸ hother) with rfl | hleft
      · exact absurd hotherConcerns hconcerns
      · exact .inl (.inr (.inr ⟨other, hleft, hotherConcerns⟩))
    · exact .inr (.inl (hs.recorded_of_not_concerns hplain hconcerns hrecorded rfl))
    · exact .inr (.inr (hlost.write hconcerns _))

end Write

/-! ## All moves -/

/-- **Whatever happens, all that the store keeps is accounted for.** -/
theorem Accounted.move (h : t.Accounted) (hs : t.Sound tokens) (hmove : t.Moves tokens t') :
    t'.Accounted := by
  cases hmove with
  | rests => exact h
  | @creates r absent =>
      refine h.announce _ fun name records hrecords => ?_
      have hname : name ≠ r.ref.name := by
        rintro rfl
        rw [absent] at hrecords
        cases hrecords
      rwa [Function.update_of_ne hname]
  | updates => exact h.announce _ fun _ _ => id
  | removes present => exact h.remove present
  | dispatches changes present => exact h.dispatch changes present
  | works queued effect => exact h.work queued effect.outcome_eq.1
  | writes outcomes effect new => exact h.write hs outcomes effect new

/-! ## When everything is over -/

/-- **Once all resources are gone and nothing is on its way, every row is free or lost.** -/
theorem free_or_lost (hs : t.Sound tokens) (h : t.Accounted)
    (hgone : ∀ name, t.status name = none) (hchanges : t.changes = []) (hqueued : t.queued = [])
    (houtcomes : t.outcomes = []) {row : Pool.Row} (hrow : row ∈ t.store.rows label) :
    row.holder.isFree = true ∨
      ∃ reference, row.holder = .bound reference ∧ t.lost.Loses label reference := by
  have hstore : t.store = t.written := by
    have hleads := hs.leads
    rw [houtcomes] at hleads
    generalize t.store = last at hleads
    cases hleads
    rfl
  obtain ⟨a, holder⟩ := row
  cases holder with
  | free token => exact .inl rfl
  | bound reference =>
      have hlookup := (Store.lookup_eq_some_iff hs.valid).2 (hstore ▸ hrow)
      rcases h label reference a hlookup with hexpected | ⟨name, records, hrecords, -⟩ | hlost
      · simp [Expected, hchanges, hqueued, houtcomes] at hexpected
      · rw [hgone] at hrecords
        cases hrecords
      · exact .inr ⟨reference, rfl, hlost⟩

end Traffic

end Cluster

end Ipam
