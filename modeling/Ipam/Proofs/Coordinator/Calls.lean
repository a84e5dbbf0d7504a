import Ipam.Coordinator
import Mathlib.Tactic

/-!
# What the coordinator calls, and in what order

Every operation is a short chain of calls to the backend.  This file runs that chain on a state:
`process_plain`, `process_recorded` and `process_delete` say which call is made next after every
answer, for any backend, and `processAll_cons` takes a list of operations apart.  What follows needs
to know what the calls of its backend do and nothing about monads.

A call is run by applying it to a state.  It answers a value or an error, and the state that it
leaves; calls that fail may have changed the state before they failed.
-/

namespace Ipam

variable {σ α β ε : Type}

/-! ## Running calls -/

namespace Call

lemma bind_apply (x : ExceptT ε (StateM σ) α) (f : α → ExceptT ε (StateM σ) β) (s : σ) :
    (x >>= f) s = match x s with
      | (.ok value, s) => f value s
      | (.error e, s) => (.error e, s) := by
  simp only [bind, ExceptT.bind, ExceptT.mk, StateT.bind]
  rcases x s with ⟨_ | _, s⟩ <;> rfl

/-- A chain that succeeds has succeeded link by link. -/
lemma bind_eq_ok {x : ExceptT ε (StateM σ) α} {f : α → ExceptT ε (StateM σ) β} {s s' : σ}
    {answer : β} (h : (x >>= f) s = (.ok answer, s')) :
    ∃ value between, x s = (.ok value, between) ∧ f value between = (.ok answer, s') := by
  rw [bind_apply] at h
  generalize x s = first at h ⊢
  obtain ⟨_ | value, between⟩ := first
  · cases h
  · exact ⟨value, between, rfl, h⟩

lemma map_apply (f : α → β) (x : ExceptT ε (StateM σ) α) (s : σ) :
    (f <$> x) s = match x s with
      | (.ok value, s) => (.ok (f value), s)
      | (.error e, s) => (.error e, s) := by
  simp only [Functor.map, ExceptT.map, ExceptT.mk, bind, StateT.bind]
  rcases x s with ⟨_ | _, s⟩ <;> rfl

@[simp] lemma pure_apply (value : α) (s : σ) :
    (pure value : ExceptT ε (StateM σ) α) s = (.ok value, s) := rfl

@[simp] lemma throw_apply (e : ε) (s : σ) :
    (throw e : ExceptT ε (StateM σ) α) s = (.error e, s) := rfl

@[simp] lemma get_apply (s : σ) : (get : AllocationM σ σ) s = (.ok s, s) := rfl

lemma liftM_apply (x : StateM σ α) (s : σ) :
    (liftM x : ExceptT ε (StateM σ) α) s = (.ok (x s).1, (x s).2) := rfl

/-- Calls one after the other fail as the first of them that fails, if those before change nothing.
-/
lemma forM_of_error {f : α → ExceptT ε (StateM σ) Unit} {s : σ} {before after : List α} {value : α}
    {e : ε} (hbefore : ∀ value ∈ before, f value s = (.ok (), s))
    (hvalue : f value s = (.error e, s)) :
    (before ++ value :: after).forM f s = (.error e, s) := by
  induction before with
  | nil =>
      show (f value >>= fun _ => after.forM f) s = _
      rw [bind_apply, hvalue]
  | cons first rest ih =>
      obtain ⟨hfirst, hrest⟩ := List.forall_mem_cons.1 hbefore
      show (f first >>= fun _ => (rest ++ value :: after).forM f) s = _
      rw [bind_apply, hfirst]
      exact ih hrest

/-- Calls that all succeed and change nothing succeed and change nothing one after the other. -/
lemma forM_apply {f : α → ExceptT ε (StateM σ) Unit} {s : σ} {values : List α}
    (h : ∀ value ∈ values, f value s = (.ok (), s)) : values.forM f s = (.ok (), s) := by
  induction values with
  | nil => rfl
  | cons value rest ih =>
      obtain ⟨hvalue, hrest⟩ := List.forall_mem_cons.1 h
      show (f value >>= fun _ => rest.forM f) s = _
      rw [bind_apply, hvalue]
      exact ih hrest

end Call

namespace Coordinator

lemma bind_apply (x : StateM σ α) (f : α → StateM σ β) (s : σ) :
    (x >>= f) s = f (x s).1 (x s).2 := rfl

@[simp] lemma pure_apply (value : α) (s : σ) : (pure value : StateM σ α) s = (value, s) := rfl

lemma attempt_apply (call : AllocationM σ α) (s : σ) : attempt call s = ((), (call s).2) := rfl

/-! ## One operation -/

variable (backend : Backend σ) (op : Operation) (s : σ)

/-- The state after an address was published for an operation. -/
def published (a : Address) : σ :=
  if op.host.isSome then (backend.createDns op a s).2 else s

/-- The state after an address was released and its host name withdrawn. -/
def released (a : Address) : σ :=
  let s := (backend.release op a s).2
  if op.host.isSome then (backend.deleteDns op a s).2 else s

lemma publish_apply (a : Address) : publish backend op a s = ((), published backend op s a) := by
  rw [publish, published]
  split_ifs <;> rfl

/-- A create without a recorded address confirms the binding that is there; without one it binds
the next free address. -/
theorem process_plain (hkind : op.kind = .create) (hplain : op.recorded = none) :
    process backend op s = match backend.lookup op s with
      | (.error _, s) => (.failure op, s)
      | (.ok (some a), s) => (.success op (some a), s)
      | (.ok none, s) => match backend.allocateNext op s with
        | (.error _, s) => (.failure op, s)
        | (.ok a, s) => (.success op (some a), published backend op s a) := by
  simp only [process, hkind, create, hplain, bind_apply, ExceptT.run, Call.bind_apply]
  rcases backend.lookup op s with ⟨_ | _ | _, s⟩
  · rfl
  · simp only [Call.bind_apply, Call.liftM_apply, publish_apply]
    rcases backend.allocateNext op s with ⟨_ | _, s⟩ <;> rfl
  · rfl

/-- A create with a recorded text binds the address of the text. -/
theorem process_recorded (hkind : op.kind = .create) {text : String}
    (hrecorded : op.recorded = some text) :
    process backend op s = match Address.parse? text with
      | none => (.failure op, s)
      | some a => match backend.allocate op a s with
        | (.error _, s) => (.failure op, s)
        | (.ok (), s) => (.success op (some a), published backend op s a) := by
  simp only [process, hkind, create, hrecorded, bind_apply, ExceptT.run]
  rcases Address.parse? text with _ | a
  · rfl
  · simp only [Call.bind_apply, Call.liftM_apply, publish_apply]
    rcases backend.allocate op a s with ⟨_ | _, s⟩ <;> rfl

/-- A delete releases what is bound, if anything is, and succeeds in any case. -/
theorem process_delete (hkind : op.kind = .delete) :
    process backend op s = match backend.lookup op s with
      | (.error _, s) => (.success op none, s)
      | (.ok none, s) => (.success op none, s)
      | (.ok (some a), s) => (.success op none, released backend op s a) := by
  simp only [process, hkind, delete, bind_apply, ExceptT.run]
  rcases backend.lookup op s with ⟨_ | _ | a, s⟩
  · rfl
  · rfl
  · simp only [released, bind_apply, attempt_apply]
    split_ifs <;> rfl

/-! ## Lists of operations -/

@[simp] lemma processAll_nil (backend : Backend σ) (s : σ) :
    processAll backend [] s = ([], s) := rfl

lemma processAll_cons (backend : Backend σ) (op : Operation) (ops : List Operation) (s : σ) :
    processAll backend (op :: ops) s =
      let first := process backend op s
      let rest := processAll backend ops first.2
      (first.1 :: rest.1, rest.2) := by
  simp only [processAll, List.mapM_cons]
  rfl

lemma processAll_append (backend : Backend σ) (ops more : List Operation) (s : σ) :
    (processAll backend (ops ++ more) s).2
      = (processAll backend more (processAll backend ops s).2).2 := by
  induction ops generalizing s with
  | nil => rfl
  | cons op ops ih => simp only [List.cons_append, processAll_cons, ih]

/-- One more operation has one more outcome. -/
lemma processAll_concat (backend : Backend σ) (ops : List Operation) (op : Operation) (s : σ) :
    processAll backend (ops ++ [op]) s =
      let first := processAll backend ops s
      let last := process backend op first.2
      (first.1 ++ [last.1], last.2) := by
  induction ops generalizing s with
  | nil => rfl
  | cons other ops ih => simp only [List.cons_append, processAll_cons, ih]

end Coordinator

end Ipam
