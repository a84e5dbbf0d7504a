import Ipam.Proofs.Coordinator.Removal
import Ipam.Watch.Cache

/-!
# Bindings that nobody will release

What a controller binds it releases from what a status records.  There are two ways in which a
binding is left out, and `Losses` keeps account of them in a list each.

* `Losses.dropped` — a create is answered when its resource is gone.  The outcome is dropped, so
  that no status records the address.
* `Losses.skipped` — a removal skips a binding, since other resources record its address by text,
  though none of them records this binding (`skips`).

Both are kept up along a run, by `Losses.dispatch` and `Losses.write`.  An outcome says anew what
becomes of its binding, and whatever was lost of it before is forgotten.
-/

namespace Ipam

/-! ## Pools and references -/

/-- The pool and the reference that an operation names. -/
def Operation.place? (op : Operation) : Option (String × String) :=
  op.reference?.map fun reference => (op.pool, reference)

/-- The pool and the reference that a key stands for. -/
def BindingKey.place? (k : BindingKey) : Option (String × String) := do
  return (← k.pool, ← k.reference?)

/-- The pools and the references of the bindings that a resource records. -/
def Resource.places (r : Resource) : List (String × String) :=
  r.records.filterMap fun record => record.bindingKey.place?

section Places

variable {label reference : String}

lemma Operation.place?_eq_some {op : Operation} :
    op.place? = some (label, reference) ↔ op.Concerns label reference := by
  rw [place?, Option.map_eq_some_iff]
  constructor
  · rintro ⟨name, hname, heq⟩
    cases heq
    exact ⟨rfl, hname⟩
  · rintro ⟨rfl, hname⟩
    exact ⟨reference, hname, rfl⟩

lemma BindingKey.place?_eq_some {k : BindingKey} :
    k.place? = some (label, reference) ↔ k.Names label reference := by
  simp only [place?, Option.bind_eq_bind, Option.bind_eq_some_iff, Option.pure_def,
    Option.some.injEq, Prod.mk.injEq]
  constructor
  · rintro ⟨_, hpool, _, hreference, rfl, rfl⟩
    exact ⟨hpool, hreference⟩
  · rintro ⟨hpool, hreference⟩
    exact ⟨label, hpool, reference, hreference, rfl, rfl⟩

lemma Resource.mem_places {r : Resource} :
    (label, reference) ∈ r.places ↔ ∃ text, r.Holds label reference text := by
  simp only [places, List.mem_filterMap, BindingKey.place?_eq_some]
  constructor
  · rintro ⟨record, hrecord, hnames⟩
    exact ⟨_, record, hrecord, hnames, rfl⟩
  · rintro ⟨_, record, hrecord, hnames, -⟩
    exact ⟨record, hrecord, hnames⟩

end Places

namespace Cluster

open Watch (Change)

/-! ## Losses -/

instance (r : Resource) (text : String) : Decidable (r.Mentions text) :=
  inferInstanceAs (Decidable (∃ record ∈ r.records, record.ip = text))

/-- The bindings that the removal of a resource skips: whatever address it has recorded for them is
recorded by another resource, too, though none of the others records the binding itself. -/
def skips (r : Resource) (others : List Resource) : List (String × String) :=
  r.places.filter fun place =>
    (∀ record ∈ r.records, record.bindingKey.place? = some place →
      ∃ other ∈ others, other.ref ≠ r.ref ∧ other.Mentions record.ip) ∧
    ∀ other ∈ others, place ∉ other.places

/-- The bindings that nobody will release, by pool and reference. -/
structure Losses where
  /-- The last outcome for the binding was the answer to a create, dropped since its resource was
  gone. -/
  dropped : List (String × String) := []
  /-- A removal has skipped the binding, and no outcome for it was written since. -/
  skipped : List (String × String) := []

namespace Losses

/-- The losses after the operations for a change were found. -/
def dispatch (lost : Losses) (change : Change) (others : List Resource) : Losses :=
  match change with
  | .created _ | .updated .. => lost
  | .deleted r => { lost with skipped := skips r others ++ lost.skipped }

/-- The losses after an outcome was written, or dropped if its resource is gone. -/
def write (lost : Losses) (outcome : Outcome) (gone : Bool) : Losses where
  dropped :=
    (if outcome.address?.isSome && gone then outcome.operation.place?.toList else [])
      ++ lost.dropped.filter fun place => outcome.operation.place? ≠ some place
  skipped := lost.skipped.filter fun place => outcome.operation.place? ≠ some place

/-- A binding is lost in one way or the other. -/
def Loses (lost : Losses) (label reference : String) : Prop :=
  (label, reference) ∈ lost.dropped ∨ (label, reference) ∈ lost.skipped

variable {lost : Losses} {outcome : Outcome} {label reference : String}

/-- What is lost stays so when the operations for a change are found. -/
lemma Loses.dispatch (h : lost.Loses label reference) (change : Change) (others : List Resource) :
    (lost.dispatch change others).Loses label reference := by
  cases change with
  | created | updated => exact h
  | deleted r => exact h.imp_right (List.mem_append_right _)

/-- What is lost stays so when an outcome for another binding is written. -/
lemma Loses.write (h : lost.Loses label reference)
    (hother : ¬ outcome.operation.Concerns label reference) (gone : Bool) :
    (lost.write outcome gone).Loses label reference := by
  have hplace : decide (outcome.operation.place? ≠ some (label, reference)) = true :=
    decide_eq_true fun heq => hother (Operation.place?_eq_some.1 heq)
  rcases h with hdropped | hskipped
  · exact .inl (List.mem_append_right _ (List.mem_filter.2 ⟨hdropped, hplace⟩))
  · exact .inr (List.mem_filter.2 ⟨hskipped, hplace⟩)

/-- The answer to a create is lost if its resource is gone. -/
lemma loses_of_gone (hconcerns : outcome.operation.Concerns label reference)
    (hanswer : outcome.address?.isSome = true) :
    (lost.write outcome true).Loses label reference := by
  refine .inl (List.mem_append_left _ ?_)
  rw [hanswer, Bool.and_self, if_pos rfl, Operation.place?_eq_some.2 hconcerns]
  exact List.mem_singleton_self _

/-- A removal skips what the resource records, unless it releases the binding or another resource
records it. -/
lemma loses_of_not_released {r : Resource} {others : List Resource} {text : String}
    (hholds : r.Holds label reference text)
    (hkept : ¬ ∃ op ∈ Reconcile.onDelete r others, op.Concerns label reference)
    (halone : ∀ other ∈ others, (label, reference) ∉ other.places) :
    (lost.dispatch (.deleted r) others).Loses label reference := by
  refine .inr (List.mem_append_left _ (List.mem_filter.2 ⟨Resource.mem_places.2 ⟨_, hholds⟩, ?_⟩))
  refine decide_eq_true ⟨fun record hrecord hplace => ?_, halone⟩
  have hnames := BindingKey.place?_eq_some.1 hplace
  have hshared : record.ip ∈ Reconcile.sharedAddresses r others := by
    by_contra hown
    exact hkept (Reconcile.exists_onDelete_concerns_iff.2
      ⟨_, ⟨record, hrecord, hnames, rfl⟩, hown⟩)
  exact (Reconcile.mem_sharedAddresses.1 hshared).2

end Losses

end Cluster

end Ipam
