import Ipam.Status
import Mathlib.Tactic

/-!
# The status as a map from bindings to addresses

A status is a list of records, searched by binding key.  As long as no key occurs twice, folding an
outcome into it is an update of a finite map at one key.

* `Status.recorded?` — the text of the address that is recorded for a key.
* `Status.Distinct` — no key occurs twice; `Status.distinct_fold`, no outcome breaks this.
* **`Status.find?_fold`** — the record of every key after an outcome, and
  **`Status.recorded?_fold`**, the address in it.
-/

namespace Ipam.Status

variable {records : List Record} {key other : BindingKey} {op : Operation} {ip : String}

/-- The text of the address that is recorded for a binding. -/
def recorded? (key : BindingKey) (records : List Record) : Option String :=
  (find? key records).map (·.ip)

/-- No two records are about one binding. -/
def Distinct (records : List Record) : Prop :=
  (records.map (·.bindingKey)).Nodup

/-- A pool is the same whether it is recorded as a network or as a label. -/
lemma pool_ofOperation (op : Operation) (ip : String) :
    (Record.ofOperation op ip).pool = Text.nonEmpty (some op.pool) := by
  by_cases hslash : op.pool.toList.contains '/' = true
  · simp only [Record.ofOperation, Request.pool, if_pos hslash]
    rfl
  · simp only [Record.ofOperation, Request.pool, if_neg hslash]
    cases Text.nonEmpty (some op.pool) <;> rfl

/-- The record of an operation is about the binding of the operation. -/
lemma bindingKey_ofOperation (op : Operation) (ip : String) :
    (Record.ofOperation op ip).bindingKey = op.bindingKey := by
  rw [Request.bindingKey, pool_ofOperation, BindingKey.of, Text.nonEmpty_nonEmpty]
  rfl

lemma find?_eq_none_iff : find? key records = none ↔ key ∉ records.map (·.bindingKey) := by
  simp [find?]

/-- What is recorded for a binding is the address of one of the records. -/
lemma exists_of_recorded? {text : String} (h : recorded? key records = some text) :
    ∃ record ∈ records, record.bindingKey = key ∧ record.ip = text := by
  rw [recorded?, Option.map_eq_some_iff] at h
  obtain ⟨record, hfind, rfl⟩ := h
  exact ⟨record, List.mem_of_find?_eq_some hfind, by simpa using List.find?_some hfind, rfl⟩

/-- If no two records are about one binding, every record is found under its key. -/
lemma find?_of_mem (h : Distinct records) {record : Record} (hrecord : record ∈ records) :
    find? record.bindingKey records = some record := by
  cases hfind : find? record.bindingKey records with
  | none =>
      have hmem : record.bindingKey ∈ records.map (·.bindingKey) :=
        List.mem_map.2 ⟨record, hrecord, rfl⟩
      exact absurd hmem (find?_eq_none_iff.1 hfind)
  | some found =>
      have hfound := List.mem_of_find?_eq_some hfind
      have hkey : found.bindingKey = record.bindingKey := by simpa using List.find?_some hfind
      rw [List.inj_on_of_nodup_map h hfound hrecord hkey]

lemma recorded?_of_mem (h : Distinct records) {record : Record} (hrecord : record ∈ records) :
    recorded? record.bindingKey records = some record.ip := by
  rw [recorded?, find?_of_mem h hrecord]
  rfl

/-! ## Setting an address -/

lemma keys_setAddress (key : BindingKey) (ip : String) (records : List Record) :
    (setAddress key ip records).map (·.bindingKey) = records.map (·.bindingKey) := by
  induction records with
  | nil => rfl
  | cons r rest ih =>
      rw [setAddress]
      split_ifs
      · rfl
      · rw [List.map_cons, List.map_cons, ih]

lemma find?_setAddress {r : Record} (h : find? key records = some r) :
    find? other (setAddress key ip records)
      = if other = key then some { r with ip } else find? other records := by
  induction records with
  | nil => cases h
  | cons first rest ih =>
      rw [find?, List.find?_cons] at h
      rw [setAddress]
      by_cases hfirst : first.bindingKey = key
      · rw [if_pos hfirst]
        simp only [hfirst, decide_true, Option.some.injEq] at h
        subst h hfirst
        by_cases hother : other = first.bindingKey
        · subst hother
          simp [find?, Request.bindingKey, Request.pool]
        · have hne : ¬ first.bindingKey = other := fun heq => hother heq.symm
          simp only [find?, List.find?_cons, hne, decide_false, if_neg hother]
      · rw [if_neg hfirst]
        simp only [hfirst, decide_false] at h
        by_cases hthis : first.bindingKey = other
        · have hother : ¬ other = key := fun heq => hfirst (hthis.trans heq)
          simp only [find?, List.find?_cons, hthis, decide_true, if_neg hother]
        · simpa [find?, List.find?_cons, hthis] using ih h

/-! ## Removing a record -/

lemma keys_remove (key : BindingKey) (records : List Record) :
    (remove key records).map (·.bindingKey) = (records.map (·.bindingKey)).erase key := by
  induction records with
  | nil => rfl
  | cons r rest ih =>
      rw [remove, List.eraseP_cons, List.map_cons, List.erase_cons]
      by_cases hr : r.bindingKey = key
      · simp [hr]
      · rw [remove] at ih
        simp [hr, ih]

lemma find?_remove (h : Distinct records) :
    find? other (remove key records)
      = if other = key then none else find? other records := by
  split_ifs with heq
  · subst heq
    rw [find?_eq_none_iff, keys_remove]
    exact List.Nodup.not_mem_erase h
  · induction records with
    | nil => rfl
    | cons r rest ih =>
        rw [remove, List.eraseP_cons]
        by_cases hr : r.bindingKey = key
        · subst hr
          have hne : ¬ r.bindingKey = other := fun heq' => heq heq'.symm
          simp [find?, hne]
        · have hcons := ih (List.nodup_cons.1 h).2
          rw [remove] at hcons
          simp only [hr, decide_false, cond_false]
          by_cases hthis : r.bindingKey = other
          · simp [find?, hthis]
          · simpa [find?, hthis] using hcons

/-! ## Folding an outcome -/

lemma fold_upsert {a : Address} (hkind : op.kind = .create) :
    fold (.success op (some a)) records = (upsert? op (toString a) records).getD records := by
  simp [fold, fold?, Outcome.success, hkind]

lemma fold_remove {outcome : Outcome}
    (h : outcome.operation.kind = .delete ∨ outcome.verdict = .failed) :
    fold outcome records
      = (remove? outcome.operation.bindingKey records).getD records := by
  obtain ⟨op, verdict⟩ := outcome
  cases hkind : op.kind with
  | delete => simp [fold, fold?, hkind]
  | create =>
      simp only [hkind, reduceCtorEq, false_or] at h
      subst h
      simp [fold, fold?, hkind]

/-- The record of a binding that got an address, given the record that it had before. -/
def entryOf (op : Operation) (ip : String) : Option Record → Record
  | none => Record.ofOperation op ip
  | some r => { r with ip }

lemma find?_upsert :
    find? other ((upsert? op ip records).getD records)
      = if other = op.bindingKey then some (entryOf op ip (find? other records))
        else find? other records := by
  rw [upsert?]
  cases hfind : find? op.bindingKey records with
  | none =>
      have hkey := bindingKey_ofOperation op ip
      simp only [Option.getD_some]
      split_ifs with hother
      · subst hother
        rw [hfind, entryOf]
        rw [find?] at hfind ⊢
        rw [List.find?_append, hfind, List.find?_cons, hkey]
        simp
      · have hne : ¬ op.bindingKey = other := fun heq => hother heq.symm
        simp [find?, hkey, hne]
  | some r =>
      simp only
      split_ifs with hip hother hother
      · subst hother hip
        rw [Option.getD_none, hfind, entryOf]
      · rfl
      · subst hother
        rw [Option.getD_some, find?_setAddress hfind, if_pos rfl, hfind, entryOf]
      · rw [Option.getD_some, find?_setAddress hfind, if_neg hother]

lemma find?_remove? (h : Distinct records) :
    find? other ((remove? key records).getD records)
      = if other = key then none else find? other records := by
  rw [remove?]
  split_ifs with hfind hother hother
  · rw [Option.getD_some, find?_remove h, if_pos hother]
  · rw [Option.getD_some, find?_remove h, if_neg hother]
  · subst hother
    rwa [Option.not_isSome_iff_eq_none] at hfind
  · rfl

/-- The record of the binding of an outcome, given the record that it had before. -/
def entryBy (outcome : Outcome) (before : Option Record) : Option Record :=
  match outcome.operation.kind, outcome.verdict with
  | .create, .succeeded (some a) => some (entryOf outcome.operation (toString a) before)
  | .create, .succeeded none => before
  | _, _ => none

/-- **An outcome updates the records at one key.** -/
theorem find?_fold (h : Distinct records) (outcome : Outcome) (other : BindingKey) :
    find? other (fold outcome records)
      = if other = outcome.operation.bindingKey then entryBy outcome (find? other records)
        else find? other records := by
  obtain ⟨op, verdict⟩ := outcome
  cases hkind : op.kind with
  | delete =>
      rw [fold_remove (.inl hkind), find?_remove? h]
      simp [entryBy, hkind]
  | create =>
      cases verdict with
      | failed =>
          rw [fold_remove (.inr rfl), find?_remove? h]
          simp [entryBy, hkind]
      | succeeded address =>
          cases address with
          | none => simp [fold, fold?, entryBy, hkind]
          | some a =>
              have hfold : fold ⟨op, .succeeded (some a)⟩ records = _ := fold_upsert hkind
              rw [hfold, find?_upsert]
              simp [entryBy, hkind]

/-- What is recorded for the binding of an outcome, given what was recorded before. -/
def recordedBy (outcome : Outcome) (before : Option String) : Option String :=
  match outcome.operation.kind, outcome.verdict with
  | .create, .succeeded (some a) => some (toString a)
  | .create, .succeeded none => before
  | _, _ => none

lemma map_entryBy (outcome : Outcome) (before : Option Record) :
    (entryBy outcome before).map (·.ip) = recordedBy outcome (before.map (·.ip)) := by
  obtain ⟨op, verdict⟩ := outcome
  rw [entryBy, recordedBy]
  cases hkind : op.kind with
  | delete => rfl
  | create =>
      rcases verdict with (_ | a) | _
      · rfl
      · cases before <;> rfl
      · rfl

/-- **An outcome updates the recorded addresses at one key.** -/
theorem recorded?_fold (h : Distinct records) (outcome : Outcome) (other : BindingKey) :
    recorded? other (fold outcome records)
      = if other = outcome.operation.bindingKey then recordedBy outcome (recorded? other records)
        else recorded? other records := by
  rw [recorded?, find?_fold h]
  split_ifs
  · exact map_entryBy _ _
  · rfl

/-! ## What becomes of the list -/

/-- An outcome sets the address in the record of its binding, adds a record, removes one, or does
nothing. -/
lemma fold_cases (outcome : Outcome) (records : List Record) :
    fold outcome records = records ∨
      (∃ ip, fold outcome records = setAddress outcome.operation.bindingKey ip records) ∨
      (find? outcome.operation.bindingKey records = none ∧
        ∃ ip, fold outcome records = records ++ [Record.ofOperation outcome.operation ip]) ∨
      fold outcome records = remove outcome.operation.bindingKey records := by
  obtain ⟨op, verdict⟩ := outcome
  have hremoved : (remove? op.bindingKey records).getD records = records ∨
      (remove? op.bindingKey records).getD records = remove op.bindingKey records := by
    rw [remove?]
    split_ifs
    · exact .inr rfl
    · exact .inl rfl
  cases hkind : op.kind with
  | delete =>
      rw [fold_remove (.inl hkind)]
      exact hremoved.imp_right (.inr <| .inr ·)
  | create =>
      cases verdict with
      | failed =>
          rw [fold_remove (.inr rfl)]
          exact hremoved.imp_right (.inr <| .inr ·)
      | succeeded address =>
          cases address with
          | none => simp [fold, fold?, hkind]
          | some a =>
              have hfold : fold ⟨op, .succeeded (some a)⟩ records = _ := fold_upsert hkind
              rw [hfold, upsert?]
              cases hfind : find? op.bindingKey records with
              | none => exact .inr (.inr (.inl ⟨rfl, _, rfl⟩))
              | some r =>
                  simp only
                  split_ifs
                  · exact .inl rfl
                  · exact .inr (.inl ⟨_, rfl⟩)

/-- **No outcome makes a key occur twice.** -/
theorem distinct_fold (h : Distinct records) (outcome : Outcome) :
    Distinct (fold outcome records) := by
  rcases fold_cases outcome records with hfold | ⟨ip, hfold⟩ | ⟨hnone, ip, hfold⟩ | hfold <;>
    rw [hfold]
  · exact h
  · rw [Distinct, keys_setAddress]
    exact h
  · rw [find?_eq_none_iff] at hnone
    rw [Distinct, List.map_append, List.map_singleton, bindingKey_ofOperation]
    exact List.nodup_append.2 ⟨h, List.nodup_singleton _, by
      intro a ha b hb heq
      rw [List.mem_singleton] at hb
      exact hnone (hb ▸ heq ▸ ha)⟩
  · rw [Distinct, keys_remove]
    exact List.Nodup.erase _ h

end Ipam.Status
