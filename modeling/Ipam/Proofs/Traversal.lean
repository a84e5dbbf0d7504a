import Mathlib.Tactic
import Mathlib.Data.List.Forall2

/-!
# Steps that are taken in order until one fails

A list is read by reading its items, and a table of labels is set up label by label.

* `Traversal.mapM_eq_some` — values that were written one by one are read back.
* `Traversal.forall_or_split` — a property of all items, or a first item without it.
* **`Traversal.mapM_eq_ok_iff`** — the steps all succeed, and answer in order.
* **`Traversal.mapM_eq_error_iff`** — the failure is that of the first step that fails.
-/

namespace Ipam.Traversal

variable {α β ε : Type} {f : α → Except ε β} {items : List α} {answers : List β} {e : ε}

/-- Values are read back one by one. -/
lemma mapM_eq_some {read : β → Option α} {write : α → β} {values : List α}
    (h : ∀ value ∈ values, read (write value) = some value) :
    (values.map write).mapM read = some values := by
  induction values with
  | nil => rfl
  | cons value rest ih =>
      obtain ⟨hvalue, hrest⟩ := List.forall_mem_cons.1 h
      rw [List.map_cons, List.mapM_cons, hvalue, ih hrest]
      rfl

lemma forall_or_split (p : α → Prop) (items : List α) :
    (∀ item ∈ items, p item) ∨ ∃ before item after, items = before ++ item :: after ∧
      (∀ earlier ∈ before, p earlier) ∧ ¬ p item := by
  induction items with
  | nil => exact .inl (by simp)
  | cons item rest ih =>
      by_cases hitem : p item
      · rcases ih with hall | ⟨before, other, after, rfl, hbefore, hother⟩
        · exact .inl (List.forall_mem_cons.2 ⟨hitem, hall⟩)
        · exact .inr ⟨item :: before, other, after, rfl,
            List.forall_mem_cons.2 ⟨hitem, hbefore⟩, hother⟩
      · exact .inr ⟨[], item, rest, rfl, by simp, hitem⟩

lemma mapM_cons_of_error {item : α} (h : f item = .error e) (rest : List α) :
    (item :: rest).mapM f = .error e := by
  rw [List.mapM_cons, h]
  rfl

lemma mapM_cons_of_ok {item : α} {answer : β} (h : f item = .ok answer) (rest : List α) :
    (item :: rest).mapM f = (rest.mapM f).map (answer :: ·) := by
  rw [List.mapM_cons, h]
  cases rest.mapM f <;> rfl

/-- **A traversal succeeds if all its steps do,** and answers what they answer, in order. -/
theorem mapM_eq_ok_iff :
    items.mapM f = .ok answers ↔
      List.Forall₂ (fun item answer => f item = .ok answer) items answers := by
  induction items generalizing answers with
  | nil =>
      rw [List.forall₂_nil_left_iff, List.mapM_nil]
      exact ⟨fun h => (Except.ok.inj h).symm, fun h => congrArg Except.ok h.symm⟩
  | cons item rest ih =>
      cases hitem : f item with
      | error e =>
          rw [mapM_cons_of_error hitem]
          cases answers <;> simp [hitem]
      | ok answer =>
          rw [mapM_cons_of_ok hitem]
          cases answers with
          | nil => cases rest.mapM f <;> simp [Except.map]
          | cons first others =>
              rw [List.forall₂_cons, hitem, ← ih]
              cases rest.mapM f <;> simp [Except.map]

/-- **A traversal fails as its first step that fails.** -/
theorem mapM_eq_error_iff : items.mapM f = .error e ↔
    ∃ before item after, items = before ++ item :: after ∧
      (∀ earlier ∈ before, ∃ answer, f earlier = .ok answer) ∧ f item = .error e := by
  induction items with
  | nil => simp [pure, Except.pure]
  | cons item rest ih =>
      cases hitem : f item with
      | error e' =>
          rw [mapM_cons_of_error hitem]
          constructor
          · intro h
            exact ⟨[], item, rest, rfl, by simp, hitem.trans (congrArg _ (Except.error.inj h))⟩
          · rintro ⟨before, other, after, hsplit, hbefore, hother⟩
            cases before with
            | nil =>
                cases hsplit
                exact congrArg _ (Except.error.inj (hitem.symm.trans hother))
            | cons first before =>
                cases hsplit
                obtain ⟨answer, hanswer⟩ := hbefore item List.mem_cons_self
                rw [hitem] at hanswer
                cases hanswer
      | ok answer =>
          have hmap : (rest.mapM f).map (answer :: ·) = .error e ↔ rest.mapM f = .error e := by
            cases rest.mapM f <;> simp [Except.map]
          rw [mapM_cons_of_ok hitem, hmap, ih]
          constructor
          · rintro ⟨before, other, after, rfl, hbefore, hother⟩
            exact ⟨item :: before, other, after, rfl,
              List.forall_mem_cons.2 ⟨⟨answer, hitem⟩, hbefore⟩, hother⟩
          · rintro ⟨before, other, after, hsplit, hbefore, hother⟩
            cases before with
            | nil =>
                cases hsplit
                rw [hitem] at hother
                cases hother
            | cons first before =>
                cases hsplit
                exact ⟨before, other, after, rfl, (List.forall_mem_cons.1 hbefore).2, hother⟩

end Ipam.Traversal
