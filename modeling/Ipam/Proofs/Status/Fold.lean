import Ipam.Proofs.Status
import Ipam.Proofs.Watch.Stream

/-!
# Folding outcomes into a status, one after the other

From the empty status on, outcomes in any order and for any bindings keep the status a finite map,
and for every key the last outcome that says something about it counts.

* `Status.foldAll` — the records after some outcomes.
* `Status.Tells`, `Status.Grants` — an outcome that says something about a key, and one that says
  which address it has.
* `Status.fold?_eq_none_iff` — when a status reflects an outcome already.
* `Status.perm_of_find?` — a status is determined, up to order, by what is found in it.
* **`Status.foldAll_isMap`** — what is known of the records after any outcomes.

Records are found by their keys and never by their texts: an empty host name is no host name, and a
pool is the same whether it is recorded as a network or as a label.
-/

namespace Ipam.Status

open Watch (Since since_concat_iff not_since_nil)

variable {records others : List Record} {key : BindingKey} {text : String} {outcome : Outcome}

/-! ## Sequences of outcomes -/

/-- The records after some outcomes, from none on. -/
def foldAll (outcomes : List Outcome) : List Record :=
  outcomes.foldl (fun records outcome => fold outcome records) []

/-- The outcome is about the binding, and is not a create that succeeded without an address. -/
def Tells (key : BindingKey) (outcome : Outcome) : Prop :=
  outcome.operation.bindingKey = key ∧
    ¬ (outcome.operation.kind = .create ∧ outcome.verdict = .succeeded none)

/-- The outcome is a create of the binding that succeeded with the address of this text. -/
def Grants (key : BindingKey) (text : String) (outcome : Outcome) : Prop :=
  outcome.operation.bindingKey = key ∧ outcome.operation.kind = .create ∧
    ∃ a, outcome.verdict = .succeeded (some a) ∧ toString a = text

lemma foldAll_concat (outcomes : List Outcome) (outcome : Outcome) :
    foldAll (outcomes ++ [outcome]) = fold outcome (foldAll outcomes) :=
  List.foldl_concat ..

lemma distinct_foldAll (outcomes : List Outcome) : Distinct (foldAll outcomes) := by
  induction outcomes using List.reverseRecOn with
  | nil => exact List.nodup_nil
  | append_singleton outcomes outcome ih =>
      rw [foldAll_concat]
      exact distinct_fold ih outcome

/-! ## What is recorded -/

/-- An outcome sets the address of its binding, removes it, or leaves it. -/
lemma recordedBy_eq_some_iff {before : Option String} :
    recordedBy outcome before = some text ↔
      Grants outcome.operation.bindingKey text outcome ∨
        before = some text ∧ ¬ Tells outcome.operation.bindingKey outcome := by
  obtain ⟨op, verdict⟩ := outcome
  cases hkind : op.kind with
  | delete => simp [recordedBy, Grants, Tells, hkind]
  | create =>
      rcases verdict with (_ | a) | _
      · simp [recordedBy, Grants, Tells, hkind]
      · simp [recordedBy, Grants, Tells, hkind]
      · simp [recordedBy, Grants, Tells, hkind]

/-- **The last outcome that tells about a binding counts.** -/
theorem recorded?_foldAll_eq_some_iff (outcomes : List Outcome) :
    recorded? key (foldAll outcomes) = some text ↔
      Since (Grants key text) (Tells key) outcomes := by
  induction outcomes using List.reverseRecOn with
  | nil => simp [foldAll, recorded?, find?]
  | append_singleton outcomes outcome ih =>
      rw [foldAll_concat, recorded?_fold (distinct_foldAll outcomes), since_concat_iff]
      split_ifs with hkey
      · rw [hkey] at ih ⊢
        rw [recordedBy_eq_some_iff, ih]
      · have hgrants : ¬ Grants key text outcome := fun h => hkey h.1.symm
        have htells : ¬ Tells key outcome := fun h => hkey h.1.symm
        simp [hgrants, htells, ih]

lemma recorded?_eq_some_iff (h : Distinct records) :
    recorded? key records = some text ↔
      ∃ record ∈ records, record.bindingKey = key ∧ record.ip = text := by
  refine ⟨exists_of_recorded?, ?_⟩
  rintro ⟨record, hrecord, rfl, rfl⟩
  exact recorded?_of_mem h hrecord

/-! ## Records of other bindings -/

/-- The records of all bindings but one, in order. -/
def othersOf (key : BindingKey) (records : List Record) : List Record :=
  records.filter fun r => r.bindingKey ≠ key

lemma othersOf_cons_of_eq {r : Record} (h : r.bindingKey = key) :
    othersOf key (r :: records) = othersOf key records := by
  simp [othersOf, h]

lemma othersOf_cons_of_ne {r : Record} (h : r.bindingKey ≠ key) :
    othersOf key (r :: records) = r :: othersOf key records := by
  simp [othersOf, h]

lemma othersOf_setAddress (key : BindingKey) (ip : String) (records : List Record) :
    othersOf key (setAddress key ip records) = othersOf key records := by
  induction records with
  | nil => rfl
  | cons r rest ih =>
      rw [setAddress]
      split_ifs with hr
      · have hset : ({ r with ip } : Record).bindingKey = key := hr
        rw [othersOf_cons_of_eq hset, othersOf_cons_of_eq hr]
      · rw [othersOf_cons_of_ne hr, othersOf_cons_of_ne hr, ih]

lemma othersOf_remove (key : BindingKey) (records : List Record) :
    othersOf key (remove key records) = othersOf key records := by
  induction records with
  | nil => rfl
  | cons r rest ih =>
      rw [remove] at ih ⊢
      rw [List.eraseP_cons]
      by_cases hr : r.bindingKey = key
      · rw [othersOf_cons_of_eq hr]
        simp [hr]
      · rw [othersOf_cons_of_ne hr, ← ih]
        simp [hr, othersOf_cons_of_ne]

/-- **An outcome leaves the records of other bindings as they are, and in their order.** -/
theorem othersOf_fold (outcome : Outcome) (records : List Record) :
    othersOf outcome.operation.bindingKey (fold outcome records)
      = othersOf outcome.operation.bindingKey records := by
  rcases fold_cases outcome records with hfold | ⟨ip, hfold⟩ | ⟨-, ip, hfold⟩ | hfold <;>
    rw [hfold]
  · exact othersOf_setAddress _ ip records
  · have hkey := bindingKey_ofOperation outcome.operation ip
    rw [othersOf, List.filter_append, ← othersOf, ← othersOf, othersOf_cons_of_eq hkey]
    exact List.append_nil _
  · exact othersOf_remove _ records

/-! ## Outcomes that are reflected already -/

/-- A status reflects an outcome when what is recorded for its binding is what it says. -/
lemma fold?_eq_none_iff :
    fold? outcome records = none ↔
      recordedBy outcome (recorded? outcome.operation.bindingKey records)
        = recorded? outcome.operation.bindingKey records := by
  obtain ⟨op, verdict⟩ := outcome
  have hremoved : remove? op.bindingKey records = none ↔
      none = recorded? op.bindingKey records := by
    rw [remove?, recorded?]
    cases find? op.bindingKey records <;> simp
  cases hkind : op.kind with
  | delete => simpa [fold?, recordedBy, hkind] using hremoved
  | create =>
      rcases verdict with (_ | a) | _
      · simp [fold?, recordedBy, hkind]
      · simp only [fold?, recordedBy, hkind, upsert?, recorded?]
        cases find? op.bindingKey records with
        | none => simp
        | some r => simp [eq_comm]
      · simpa [fold?, recordedBy, hkind] using hremoved

lemma fold_of_fold?_eq_none (h : fold? outcome records = none) :
    fold outcome records = records := by
  rw [fold, h]
  rfl

/-- **The records change exactly when the outcome is not reflected yet.** -/
theorem isSome_fold?_iff (h : Distinct records) :
    (fold? outcome records).isSome = true ↔ fold outcome records ≠ records := by
  rw [Option.isSome_iff_ne_none, not_iff_not]
  refine ⟨fold_of_fold?_eq_none, fun hsame => ?_⟩
  have hrecorded := recorded?_fold h outcome outcome.operation.bindingKey
  rw [hsame, if_pos rfl] at hrecorded
  exact fold?_eq_none_iff.2 hrecorded.symm

lemma recordedBy_recordedBy (outcome : Outcome) (before : Option String) :
    recordedBy outcome (recordedBy outcome before) = recordedBy outcome before := by
  obtain ⟨op, verdict⟩ := outcome
  cases hkind : op.kind with
  | delete => simp [recordedBy, hkind]
  | create => rcases verdict with (_ | a) | _ <;> simp [recordedBy, hkind]

/-- **An outcome that was folded is reflected.** -/
theorem fold_fold (h : Distinct records) (outcome : Outcome) :
    fold outcome (fold outcome records) = fold outcome records := by
  apply fold_of_fold?_eq_none
  rw [fold?_eq_none_iff, recorded?_fold h, if_pos rfl, recordedBy_recordedBy]

/-! ## Order -/

/-- Two statuses in which the same is found have the same records. -/
lemma perm_of_find? (h : Distinct records) (h' : Distinct others)
    (hfind : ∀ key, find? key records = find? key others) : records.Perm others := by
  rw [List.perm_ext_iff_of_nodup h.of_map h'.of_map]
  have hmem : ∀ {list : List Record}, Distinct list → ∀ record,
      record ∈ list ↔ find? record.bindingKey list = some record := fun hlist record =>
    ⟨find?_of_mem hlist, List.mem_of_find?_eq_some⟩
  intro record
  rw [hmem h, hmem h', hfind]

/-- Where the same was found before, the same outcomes leave the same records, up to order. -/
lemma perm_foldl (later : List Outcome) :
    ∀ {records others : List Record}, Distinct records → Distinct others →
      (∀ key, find? key records = find? key others) →
      (later.foldl (fun records outcome => fold outcome records) records).Perm
        (later.foldl (fun records outcome => fold outcome records) others) := by
  induction later with
  | nil => exact perm_of_find?
  | cons outcome later ih =>
      intro records others h h' hfind
      refine ih (distinct_fold h outcome) (distinct_fold h' outcome) fun key => ?_
      rw [find?_fold h, find?_fold h', hfind]

/-- Outcomes for different bindings may come in either order. -/
lemma find?_fold_comm (h : Distinct records) {first second : Outcome}
    (hne : first.operation.bindingKey ≠ second.operation.bindingKey) (key : BindingKey) :
    find? key (fold second (fold first records))
      = find? key (fold first (fold second records)) := by
  rw [find?_fold (distinct_fold h first), find?_fold h, find?_fold (distinct_fold h second),
    find?_fold h]
  split_ifs with hsecond hfirst
  · exact absurd (hfirst.symm.trans hsecond) hne
  · rfl
  · rfl
  · rfl

/-! ## The status as a map -/

/-- What is known of the records after some outcomes. -/
structure IsMap (outcomes : List Outcome) : Prop where
  /-- No two records are about one binding. -/
  distinct : Distinct (foldAll outcomes)
  /-- A binding is recorded with an address if and only if the last outcome that tells about it is a
  create that got this address. -/
  lastWins : ∀ key text,
    (∃ record ∈ foldAll outcomes, record.bindingKey = key ∧ record.ip = text) ↔
      Since (Grants key text) (Tells key) outcomes
  /-- One more outcome neither changes nor moves the records of other bindings. -/
  others : ∀ outcome, othersOf outcome.operation.bindingKey (foldAll (outcomes ++ [outcome]))
    = othersOf outcome.operation.bindingKey (foldAll outcomes)
  /-- It is answered whether one more outcome changes the records. -/
  changed_iff : ∀ outcome, (fold? outcome (foldAll outcomes)).isSome = true ↔
    foldAll (outcomes ++ [outcome]) ≠ foldAll outcomes
  /-- An outcome that comes twice counts once. -/
  repeated : ∀ outcome, foldAll (outcomes ++ [outcome, outcome]) = foldAll (outcomes ++ [outcome])
  /-- Two outcomes for different bindings may be exchanged, whatever comes after them. -/
  exchanged : ∀ first second later,
    first.operation.bindingKey ≠ second.operation.bindingKey →
      (foldAll (outcomes ++ first :: second :: later)).Perm
        (foldAll (outcomes ++ second :: first :: later))

/-- **Folding outcomes updates a finite map, in which the last writer wins.** -/
theorem foldAll_isMap (outcomes : List Outcome) : IsMap outcomes where
  distinct := distinct_foldAll outcomes
  lastWins key text := by
    rw [← recorded?_eq_some_iff (distinct_foldAll outcomes), recorded?_foldAll_eq_some_iff]
  others outcome := by
    rw [foldAll_concat]
    exact othersOf_fold outcome _
  changed_iff outcome := by
    rw [foldAll_concat]
    exact isSome_fold?_iff (distinct_foldAll outcomes)
  repeated outcome := by
    rw [List.append_cons, foldAll_concat, foldAll_concat]
    exact fold_fold (distinct_foldAll outcomes) outcome
  exchanged first second later hne := by
    have h := distinct_foldAll outcomes
    simp only [foldAll, List.foldl_append, List.foldl_cons]
    exact perm_foldl later (distinct_fold (distinct_fold h first) second)
      (distinct_fold (distinct_fold h second) first) (find?_fold_comm h hne)

end Ipam.Status
