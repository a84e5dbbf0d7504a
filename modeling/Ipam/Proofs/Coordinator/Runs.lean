import Ipam.Proofs.Allocation.Batch
import Ipam.Proofs.Coordinator.Ownership

/-!
# Operations over a reachable store

What a list of operations does to one binding, or to one row, depends on the operations that name it
and on nothing else.

* `Local.Reachable` — the stores that operations and starts lead to, from a new one.
* `Local.mem_history_iff` — the steps of a run, each with the store that it meets.
* `Local.AllNew` — every token that is drawn on the way is carried by no row of its pool.
* **`Local.lookup_after_of_kept`**, **`Local.lookup_after_of_untouched`** — a binding outlives
  everything but a delete for it, and nothing changes what no operation names.
* **`Local.lookup_after_deletes`**, **`Local.lookup_after_creates`** — the bindings after deletes
  alone, and after creates alone.
* **`Local.row_after_deletes`** — deletes leave every row alone whose owner none of them names.
-/

namespace Ipam

open Pool (Holder TokenSource)

namespace Local

open Coordinator (process)

variable {tokens : TokenSource} {s s' : Store} {op : Operation} {outcome : Outcome}

/-- A delete changes no row but that of the reference that it names. -/
lemma Effect.row_of_delete (h : Effect tokens s op outcome s') (hkind : op.kind = .delete)
    {label : String} {a : Address}
    (hother : ∀ reference, op.Concerns label reference → s.lookup label reference ≠ some a) :
    s'.entry? label a = s.entry? label a := by
  cases h with
  | refused kind | confirmed kind | bound kind => cases hkind.symm.trans kind
  | absent => rfl
  | stuck => exact Store.entry?_congr (by rw [Store.pools_withdrawn]) a
  | @freed p reference b _ names owned new =>
      have hafter : ∀ other, (({ s.setPool op.pool (p.setHolder b (.free (tokens s.drawn))) with
          drawn := s.drawn + 1 } : Store).withdrawn op b).pools.get? other
            = if op.pool = other then some (p.setHolder b (.free (tokens s.drawn)))
              else s.pools.get? other := by
        intro other
        rw [Store.pools_withdrawn]
        exact Store.pools_setPool ..
      by_cases hlabel : op.pool = label
      · subst hlabel
        have hne : a ≠ b := by
          rintro rfl
          exact hother reference names.concerns (names.lookup.trans owned)
        exact Store.entry?_setHolder_of_ne names.pool ((hafter _).trans (if_pos rfl)) hne
      · exact Store.entry?_congr ((hafter _).trans (if_neg hlabel)) a

/-! ## Reachable stores -/

/-- A store that events have led to, from a new one.  Every event may draw its tokens from a supply
of its own. -/
inductive Reachable : Store → Prop where
  | new : Reachable ∅
  | event {s : Store} (tokens : TokenSource) (event : Event) (before : Reachable s) :
      Reachable (event.apply tokens s)

lemma Reachable.intact (h : Reachable s) : s.Valid ∧ s.Labelled := by
  induction h with
  | new => exact ⟨Store.valid_empty, Store.labelled_empty⟩
  | event tokens event _ ih =>
      exact ⟨event.apply_valid tokens ih.1, event.apply_labelled tokens ih.1 ih.2⟩

lemma Reachable.valid (h : Reachable s) : s.Valid := h.intact.1

lemma Reachable.labelled (h : Reachable s) : s.Labelled := h.intact.2

lemma Reachable.process (h : Reachable s) (tokens : TokenSource) (op : Operation) :
    Reachable (process (backend tokens) op s).2 :=
  .event tokens (.operation op) h

lemma Reachable.after (h : Reachable s) (tokens : TokenSource) (ops : List Operation) :
    Reachable (Local.after tokens s ops) := by
  induction ops generalizing s with
  | nil => exact h
  | cons op ops ih =>
      rw [after_cons]
      exact ih (h.process tokens op)

lemma reachable_of_start {config : String} {report : SyncReport}
    (h : start tokens config ∅ = .ok (report, s)) : Reachable s :=
  Event.apply_of_start h ▸ .event tokens (.restart config) .new

/-! ## Steps of a run -/

lemma history_append {ops more : List Operation} :
    history tokens s ((ops ++ more).map .operation)
      = history tokens s (ops.map .operation)
        ++ history tokens (after tokens s ops) (more.map .operation) := by
  induction ops generalizing s with
  | nil => rfl
  | cons op ops ih =>
      rw [after_cons, List.cons_append, List.map_cons, List.map_cons, history, history,
        List.cons_append]
      exact congrArg _ ih

/-- A step of a run is an operation with the store that all earlier ones have led to. -/
lemma mem_history_iff {ops : List Operation} {step : Step} :
    step ∈ history tokens s (ops.map .operation) ↔
      ∃ earlier op later, ops = earlier ++ op :: later ∧
        step = ⟨after tokens s earlier, .operation op⟩ := by
  constructor
  · intro hstep
    induction ops generalizing s with
    | nil => cases hstep
    | cons op ops ih =>
        rcases List.mem_cons.1 hstep with rfl | hmem
        · exact ⟨[], op, ops, rfl, rfl⟩
        · obtain ⟨earlier, other, later, rfl, rfl⟩ := ih hmem
          exact ⟨op :: earlier, other, later, rfl, by rw [after_cons]; rfl⟩
  · rintro ⟨earlier, op, later, rfl, rfl⟩
    rw [history_append]
    exact List.mem_append_right _ List.mem_cons_self

/-! ## New tokens -/

/-- Every token that is drawn in the course of some operations is new in its pool. -/
def AllNew (tokens : TokenSource) (s : Store) (ops : List Operation) : Prop :=
  ∀ step ∈ history tokens s (ops.map .operation), step.DrawsNew tokens

lemma allNew_cons {ops : List Operation} :
    AllNew tokens s (op :: ops) ↔
      DrawsNew tokens s op ∧ AllNew tokens (process (backend tokens) op s).2 ops :=
  List.forall_mem_cons

lemma allNew_append {ops more : List Operation} :
    AllNew tokens s (ops ++ more) ↔
      AllNew tokens s ops ∧ AllNew tokens (after tokens s ops) more := by
  rw [AllNew, history_append]
  exact List.forall_mem_append

/-- A create draws no token. -/
lemma drawsNew_of_create (hkind : op.kind = .create) : DrawsNew tokens s op := by
  intro hdelete
  rw [hkind] at hdelete
  cases hdelete

/-- A supply that never repeats, and whose tokens nobody asks for, draws new tokens only. -/
lemma Sound.allNew (hs : Sound tokens s) (hinj : Function.Injective tokens)
    {ops : List Operation} (hops : ∀ op ∈ ops, op.Avoids tokens) : AllNew tokens s ops := by
  refine history_drawsNew hinj (fun op hop => ?_) hs.valid hs.supplied
  obtain ⟨other, hother, heq⟩ := List.mem_map.1 hop
  cases heq
  exact hops op hother

/-! ## One binding -/

section Binding

variable {ops : List Operation} {label reference : String} {a : Address}

/-- **A binding outlives everything but a delete for it.** -/
theorem lookup_after_of_kept (hs : Reachable s) (hnew : AllNew tokens s ops)
    (hkept : ∀ op ∈ ops, op.kind = .delete → ¬ op.Concerns label reference)
    (hold : s.lookup label reference = some a) :
    (after tokens s ops).lookup label reference = some a := by
  induction ops generalizing s with
  | nil => exact hold
  | cons op ops ih =>
      obtain ⟨hthis, hrest⟩ := List.forall_mem_cons.1 hkept
      obtain ⟨hdraws, hnew⟩ := allNew_cons.1 hnew
      rw [after_cons]
      refine ih (hs.process tokens op) hnew hrest ?_
      refine ((process_effect tokens hs.valid op).lookup_eq_some_iff hs.valid hs.labelled
        hdraws).2 (.inr ⟨hold, ?_⟩)
      rintro ⟨hkind, hconcerns⟩
      exact hthis hkind hconcerns

/-- **What no operation names stays as it is.** -/
theorem lookup_after_of_untouched (hs : Reachable s) (hnew : AllNew tokens s ops)
    (hother : ∀ op ∈ ops, ¬ op.Concerns label reference) :
    (after tokens s ops).lookup label reference = s.lookup label reference := by
  induction ops generalizing s with
  | nil => rfl
  | cons op ops ih =>
      obtain ⟨hthis, hrest⟩ := List.forall_mem_cons.1 hother
      obtain ⟨hdraws, hnew⟩ := allNew_cons.1 hnew
      rw [after_cons, ih (hs.process tokens op) hnew hrest]
      exact (process_effect tokens hs.valid op).lookup_of_not_concerns hs.valid hs.labelled hdraws
        hthis

/-- **After deletes** the bindings are those from before that no delete names. -/
theorem lookup_after_deletes (hs : Reachable s) (hnew : AllNew tokens s ops)
    (hops : ∀ op ∈ ops, op.kind = .delete) :
    (after tokens s ops).lookup label reference = some a ↔
      s.lookup label reference = some a ∧ ∀ op ∈ ops, ¬ op.Concerns label reference := by
  induction ops generalizing s with
  | nil => simp [after]
  | cons op ops ih =>
      obtain ⟨hkind, hrest⟩ := List.forall_mem_cons.1 hops
      obtain ⟨hdraws, hnew⟩ := allNew_cons.1 hnew
      have heffect := process_effect tokens hs.valid op
      rw [after_cons, ih (hs.process tokens op) hnew hrest,
        heffect.lookup_eq_some_iff hs.valid hs.labelled hdraws, List.forall_mem_cons]
      simp [hkind, and_assoc]

/-- **After creates** the bindings are those from before and all that were answered. -/
theorem lookup_after_creates (hs : Reachable s) (hops : ∀ op ∈ ops, op.kind = .create) :
    (after tokens s ops).lookup label reference = some a ↔
      s.lookup label reference = some a ∨
        ∃ step ∈ history tokens s (ops.map .operation), step.Grants tokens label reference a := by
  induction ops generalizing s with
  | nil => simp [after, history]
  | cons op ops ih =>
      obtain ⟨hkind, hrest⟩ := List.forall_mem_cons.1 hops
      have heffect := process_effect tokens hs.valid op
      have hgrants : Step.Grants tokens label reference a ⟨s, .operation op⟩ ↔
          op.kind = .create ∧ op.Concerns label reference ∧
            (process (backend tokens) op s).1.verdict = .succeeded (some a) := by
        simp [Step.Grants]
      rw [after_cons, ih (hs.process tokens op) hrest,
        heffect.lookup_eq_some_iff hs.valid hs.labelled (drawsNew_of_create hkind), List.map_cons,
        history]
      simp only [List.mem_cons, exists_eq_or_imp, hgrants, hkind, reduceCtorEq, false_and,
        not_false_eq_true, and_true, true_and]
      rw [or_assoc, or_left_comm]
      rfl

end Binding

/-! ## One row under deletes -/

/-- **Deletes leave every row alone whose owner none of them names.** -/
theorem row_after_deletes {ops : List Operation} {label : String} {a : Address}
    (hs : Reachable s) (hnew : AllNew tokens s ops) (hops : ∀ op ∈ ops, op.kind = .delete)
    (hother : ∀ op ∈ ops, ∀ reference, op.Concerns label reference →
      s.lookup label reference ≠ some a) :
    Store.entry? (after tokens s ops) label a = s.entry? label a := by
  induction ops generalizing s with
  | nil => rfl
  | cons op ops ih =>
      obtain ⟨hkind, hrest⟩ := List.forall_mem_cons.1 hops
      obtain ⟨hthis, hothers⟩ := List.forall_mem_cons.1 hother
      obtain ⟨hdraws, hnew⟩ := allNew_cons.1 hnew
      have heffect := process_effect tokens hs.valid op
      rw [after_cons, ih (hs.process tokens op) hnew hrest, heffect.row_of_delete hkind hthis]
      intro other hmem reference hconcerns hafter
      rw [heffect.lookup_eq_some_iff hs.valid hs.labelled hdraws] at hafter
      simp only [hkind, reduceCtorEq, false_and, false_or] at hafter
      exact hothers other hmem reference hconcerns hafter.1

end Local

end Ipam
