import Ipam.Table
import Mathlib.Tactic

/-!
# Tables, seen through look-ups

A table is a list of entries in order; everything that later proofs say about one they say through
`Table.get?`.  This file moves between the two: an entry is in the list exactly if a look-up finds
it, and every operation has one equation that says what a look-up finds afterwards.
-/

namespace Ipam.Table

variable {α β : Type}

/-! ## Entries and look-ups -/

lemma get?_of_mem {t : Table α} {name : String} {value : α} (h : (name, value) ∈ t.entries) :
    t.get? name = some value := by
  obtain ⟨entries, ascending⟩ := t
  simp only [get?] at h ⊢
  induction entries with
  | nil => simp at h
  | cons head rest ih =>
      obtain ⟨hhead, hrest⟩ := List.pairwise_cons.1 ascending
      rcases List.mem_cons.1 h with rfl | hmem
      · simp [lookupIn]
      · have hlt : head.1 < name := hhead _ hmem
        have hne : head.1 ≠ name := fun heq => String.lt_irrefl name (by rwa [heq] at hlt)
        rw [lookupIn, if_neg hne]
        exact ih hrest hmem

lemma mem_of_get? {t : Table α} {name : String} {value : α} (h : t.get? name = some value) :
    (name, value) ∈ t.entries := by
  obtain ⟨entries, ascending⟩ := t
  simp only [get?] at h ⊢
  clear ascending
  induction entries with
  | nil => simp [lookupIn] at h
  | cons head rest ih =>
      obtain ⟨key, held⟩ := head
      rw [lookupIn] at h
      split_ifs at h with heq
      · cases h
        exact heq ▸ List.mem_cons_self
      · exact List.mem_cons_of_mem _ (ih h)

/-- **An entry is listed exactly if a look-up finds it.** -/
theorem mem_entries_iff {t : Table α} {name : String} {value : α} :
    (name, value) ∈ t.entries ↔ t.get? name = some value :=
  ⟨get?_of_mem, mem_of_get?⟩

lemma contains_iff {t : Table α} {name : String} :
    t.contains name = true ↔ ∃ value, t.get? name = some value :=
  Option.isSome_iff_exists

lemma mem_names_iff {t : Table α} {name : String} :
    name ∈ t.names ↔ ∃ value, t.get? name = some value := by
  simp only [names, List.mem_map, Prod.exists, exists_and_right, exists_eq_right, mem_entries_iff]

lemma pairwise_names (t : Table α) : t.names.Pairwise (· < ·) :=
  List.pairwise_map.2 t.ascending

/-- No name has two entries. -/
lemma nodup_names (t : Table α) : t.names.Nodup := by
  refine (List.pairwise_map.2 t.ascending).imp ?_
  rintro a b hlt rfl
  exact String.lt_irrefl a hlt

/-- Two tables with the same look-ups are equal up to the order of their entries, and that order is
fixed. -/
theorem ext_get? {s t : Table α} (h : ∀ name, s.get? name = t.get? name) : s = t := by
  have hmem : ∀ entry, entry ∈ s.entries ↔ entry ∈ t.entries := by
    rintro ⟨name, value⟩
    rw [mem_entries_iff, mem_entries_iff, h]
  have hnodup : ∀ u : Table α, u.entries.Nodup := fun u => u.nodup_names.of_map _
  refine ext (List.Perm.eq_of_pairwise ?_ s.ascending t.ascending
    ((List.perm_ext_iff_of_nodup (hnodup s) (hnodup t)).2 hmem))
  intro a b _ _ hab hba
  exact absurd (String.lt_trans hab hba) (String.lt_irrefl _)

/-! ## Operations -/

@[simp] lemma get?_filter (t : Table α) (keep : String → α → Bool) (name : String) :
    (t.filter keep).get? name = (t.get? name).filter (keep name) := by
  apply Option.ext
  intro value
  rw [Option.filter_eq_some_iff, ← mem_entries_iff, ← mem_entries_iff, filter, List.mem_filter]

lemma mem_names_filter {t : Table α} {keep : String → α → Bool} {name : String} :
    name ∈ (t.filter keep).names ↔ ∃ value, t.get? name = some value ∧ keep name value = true := by
  simp only [mem_names_iff, get?_filter, Option.filter_eq_some_iff]

@[simp] lemma get?_erase (t : Table α) (name other : String) :
    (t.erase name).get? other = if other = name then none else t.get? other := by
  rw [erase, get?_filter]
  split_ifs with heq
  · simp [heq]
  · cases t.get? other <;> simp [heq]

/-- What is found after a value was set was there before, or is this value. -/
lemma get?_insert_cases {t : Table α} {name other : String} {value held : α}
    (h : (t.insert name value).get? other = some held) :
    t.get? other = some held ∨ (name = other ∧ value = held) := by
  rw [get?_insert] at h
  split_ifs at h with heq
  · exact .inr ⟨heq, Option.some.inj h⟩
  · exact .inl h

lemma get?_of_erase {t : Table α} {name other : String} {held : α}
    (h : (t.erase name).get? other = some held) : t.get? other = some held := by
  rw [get?_erase] at h
  split_ifs at h
  exact h

@[simp] lemma get?_map (f : String → α → β) (t : Table α) (name : String) :
    (t.map f).get? name = (t.get? name).map (f name) := by
  apply Option.ext
  intro value
  rw [Option.map_eq_some_iff, ← mem_entries_iff, map, List.mem_map]
  constructor
  · rintro ⟨⟨key, held⟩, hmem, heq⟩
    cases heq
    exact ⟨held, mem_entries_iff.1 hmem, rfl⟩
  · rintro ⟨held, hheld, rfl⟩
    exact ⟨(name, held), mem_entries_iff.2 hheld, rfl⟩

lemma get?_single_iff {name other : String} {value found : α} :
    (empty.insert name value).get? other = some found ↔ name = other ∧ value = found := by
  rw [get?_insert]
  split_ifs with heq
  · simp [heq]
  · simp [heq]

/-! ## Some entry -/

/-- A new entry is one more candidate. -/
lemma exists_insert_iff {t : Table α} {name : String} {value : α} (h : t.get? name = none)
    (P : α → Prop) :
    (∃ other held, (t.insert name value).get? other = some held ∧ P held) ↔
      (∃ other held, t.get? other = some held ∧ P held) ∨ P value := by
  simp only [get?_insert]
  constructor
  · rintro ⟨other, held, hheld, hP⟩
    split_ifs at hheld with heq
    · cases hheld
      exact .inr hP
    · exact .inl ⟨other, held, hheld, hP⟩
  · rintro (⟨other, held, hheld, hP⟩ | hP)
    · have hne : name ≠ other := by
        rintro rfl
        rw [h] at hheld
        cases hheld
      exact ⟨other, held, by rw [if_neg hne, hheld], hP⟩
    · exact ⟨name, value, if_pos rfl, hP⟩

/-- Without some names, the candidates are the entries with other names. -/
lemma exists_filter_iff {t : Table α} {names : List String} (P : α → Prop) :
    (∃ other held, (t.filter fun other _ => other ∉ names).get? other = some held ∧ P held) ↔
      ∃ other held, t.get? other = some held ∧ other ∉ names ∧ P held := by
  refine exists_congr fun other => exists_congr fun held => ?_
  rw [get?_filter, Option.filter_eq_some_iff, decide_eq_true_eq, and_assoc]

/-! ## Without some names -/

lemma get?_filter_notMem (t : Table α) (names : List String) (name : String) :
    (t.filter fun other _ => other ∉ names).get? name
      = if name ∈ names then none else t.get? name := by
  rw [get?_filter]
  split_ifs with hmem <;> cases t.get? name <;> simp [hmem]

lemma filter_notMem_nil (t : Table α) : (t.filter fun other _ => other ∉ ([] : List String)) = t := by
  apply ext_get?
  intro name
  rw [get?_filter_notMem, if_neg List.not_mem_nil]

/-- Names may be taken away one after the other. -/
lemma filter_notMem_cons (t : Table α) (name : String) (names : List String) :
    (t.filter fun other _ => other ∉ name :: names)
      = (t.filter fun other _ => other ∉ [name]).filter fun other _ => other ∉ names := by
  apply ext_get?
  intro other
  simp only [get?_filter_notMem, List.mem_cons, List.not_mem_nil, or_false]
  by_cases hmem : other ∈ names
  · simp [hmem]
  · simp [hmem]

lemma erase_eq_filter (t : Table α) (name : String) :
    t.erase name = t.filter fun other _ => other ∉ [name] := by
  apply ext_get?
  intro other
  rw [get?_erase, get?_filter_notMem]
  simp only [List.mem_singleton]

lemma erase_of_get?_eq_none {t : Table α} {name : String} (h : t.get? name = none) :
    t.erase name = t := by
  apply ext_get?
  intro other
  rw [get?_erase]
  split_ifs with heq
  · rw [heq, h]
  · rfl

/-! ## Whole tables -/

/-- Objects that are kept under their own references have different references. -/
lemma nodup_references {t : Table α} {reference : α → String}
    (h : ∀ name value, t.get? name = some value → reference value = name) (keep : α → Bool) :
    (((t.entries.map Prod.snd).filter keep).map reference).Nodup := by
  have hnames : t.entries.map (fun entry => reference entry.2) = t.names := by
    refine List.map_congr_left fun entry hentry => ?_
    exact h entry.1 entry.2 (mem_entries_iff.1 hentry)
  have hall : ((t.entries.map Prod.snd).map reference).Nodup := by
    rw [List.map_map]
    exact hnames ▸ t.nodup_names
  exact hall.sublist (List.filter_sublist.map _)

/-- A traversal of the entries whose steps all succeed succeeds. -/
lemma mapM_entries {ε : Type} {f : String × α → Except ε β} {g : String × α → β} (t : Table α)
    (h : ∀ name value, t.get? name = some value → f (name, value) = .ok (g (name, value))) :
    t.entries.mapM f = .ok (t.entries.map g) := by
  have hall : ∀ entry ∈ t.entries, f entry = .ok (g entry) :=
    fun entry hentry => h entry.1 entry.2 (mem_entries_iff.1 hentry)
  generalize t.entries = entries at hall ⊢
  induction entries with
  | nil => rfl
  | cons entry rest ih =>
      obtain ⟨hentry, hrest⟩ := List.forall_mem_cons.1 hall
      rw [List.mapM_cons, hentry, ih hrest]
      rfl

/-- Whatever a traversal answers is the answer of one of its steps. -/
lemma exists_of_mapM {ε γ : Type} {f : γ → Except ε β} {values : List γ} {answers : List β}
    (h : values.mapM f = .ok answers) :
    ∀ answer ∈ answers, ∃ value ∈ values, f value = .ok answer := by
  induction values generalizing answers with
  | nil =>
      cases h
      simp
  | cons value rest ih =>
      rw [List.mapM_cons] at h
      cases hvalue : f value with
      | error e =>
          rw [hvalue] at h
          cases h
      | ok first =>
          cases hrest : rest.mapM f with
          | error e =>
              rw [hvalue, hrest] at h
              cases h
          | ok others =>
              rw [hvalue, hrest] at h
              cases h
              intro answer hanswer
              rcases List.mem_cons.1 hanswer with rfl | hmem
              · exact ⟨value, List.mem_cons_self, hvalue⟩
              · obtain ⟨other, hother, heq⟩ := ih hrest answer hmem
                exact ⟨other, List.mem_cons_of_mem _ hother, heq⟩

/-- What is found in a table is one of the entries that it was built from. -/
lemma mem_of_get?_ofList {entries : List (String × α)} {name : String} {value : α}
    (h : (ofList entries).get? name = some value) : (name, value) ∈ entries := by
  have hfold : ∀ (entries : List (String × α)) (t : Table α),
      (entries.foldl (fun t entry => t.insert entry.1 entry.2) t).get? name = some value →
        (name, value) ∈ entries ∨ t.get? name = some value := by
    intro entries
    induction entries with
    | nil => exact fun t ht => .inr ht
    | cons entry rest ih =>
        intro t ht
        rcases ih _ ht with hmem | hinserted
        · exact .inl (List.mem_cons_of_mem _ hmem)
        · rw [get?_insert] at hinserted
          split_ifs at hinserted with heq
          · cases hinserted
            exact .inl (heq ▸ List.mem_cons_self)
          · exact .inr hinserted
  exact (hfold entries empty h).resolve_right (by simp)

/-- A table is built again from its entries. -/
lemma ofList_entries (t : Table α) : ofList t.entries = t := by
  have hfold : ∀ (entries : List (String × α)) (u : Table α),
      entries.Pairwise (fun x y => x.1 < y.1) → ∀ name,
      (entries.foldl (fun t entry => t.insert entry.1 entry.2) u).get? name
        = (lookupIn name entries).or (u.get? name) := by
    intro entries
    induction entries with
    | nil => intro u _ name; rfl
    | cons entry rest ih =>
        intro u hascending name
        obtain ⟨hentry, hrest⟩ := List.pairwise_cons.1 hascending
        rw [List.foldl_cons, ih _ hrest, get?_insert, lookupIn]
        split_ifs with heq
        · subst heq
          rw [lookupIn_eq_none_of_lt hentry]
          rfl
        · rfl
  apply ext_get?
  intro name
  rw [ofList, hfold t.entries empty t.ascending, get?_empty, Option.or_none]
  rfl

end Ipam.Table
