import Ipam.Proofs.Grid.Memory

/-!
# Grids that reserve every address once

* `Memory.Orderly` — a tidy grid in which no two fixed addresses reserve the same address of a view,
  which is `Memory.Exclusive` by itself.
* `Memory.orderly_new`, `Memory.Orderly.insertFixed` and their companions — every change of a grid
  leaves an orderly grid.
* `Memory.Differs` — the fixed addresses that are in one of two grids only.
* **`Memory.selectFixed_congr`** — a selection that passes over all of them answers the same in both
  grids.
-/

namespace Ipam.Grid.Memory

/-- A tidy grid in which every address of a view is reserved once at most. -/
structure Orderly (g : Memory) : Prop where
  tidy : g.Tidy
  exclusive : ∀ key key' o o', g.fixed.get? key = some o → g.fixed.get? key' = some o' →
    o.view = o'.view → o.address = o'.address → key = key'

variable {g g' : Memory}

/-! ## Changes -/

lemma orderly_new : Orderly {} where
  tidy := ⟨fun _ _ ho => (by cases ho), fun _ _ ho => (by cases ho)⟩
  exclusive _ _ _ _ ho := by cases ho

/-- A change that concerns neither fixed addresses nor host records. -/
lemma Orderly.of_same (hg : g.Orderly) (hfixed : g'.fixed = g.fixed)
    (hrecords : g'.records = g.records) (hnext : g.nextNumber ≤ g'.nextNumber) : g'.Orderly where
  tidy := by
    constructor
    · intro key o ho
      obtain ⟨hreference, hnumber, haddress⟩ := hg.tidy.fixed key o (hfixed ▸ ho)
      exact ⟨hreference, hnumber.mono hnext, haddress⟩
    · intro key o ho
      obtain ⟨hreference, hnumber, haddress⟩ := hg.tidy.records key o (hrecords ▸ ho)
      exact ⟨hreference, hnumber.mono hnext, haddress⟩
  exclusive := hfixed ▸ hg.exclusive

lemma Orderly.addView (hg : g.Orderly) (name : String) : (g.addView name).Orderly := by
  rw [Memory.addView]
  split_ifs
  · exact hg
  · exact hg.of_same rfl rfl (Nat.le_refl _)

lemma Orderly.insertAttribute (hg : g.Orderly) (definition : AttributeDefinition) :
    (g.insertAttribute definition).2.Orderly :=
  hg.of_same rfl rfl (Nat.le_succ _)

/-- One more fixed address is kept under a reference that no other has. -/
lemma Tidy.get?_insertFixed (hg : g.Tidy) (view : String) (a : Address) (name : String) :
    ∃ new, g.fixed.get? new = none ∧ ∀ key,
      (g.insertFixed view a name).2.fixed.get? key
        = if new = key then some ⟨new, toString a, name, view⟩ else g.fixed.get? key := by
  refine ⟨s!"fixedaddress/{g.nextNumber}:{a}/{view}", ?_, fun key => Table.get?_insert ..⟩
  rw [insertFixed_reference]
  exact hg.fixed_new _

/-- No two fixed addresses reserve the same address of a view. -/
def Exclusive (g : Memory) : Prop :=
  ∀ key key' o o', g.fixed.get? key = some o → g.fixed.get? key' = some o' →
    o.view = o'.view → o.address = o'.address → key = key'

/-- It stays so where fixed addresses are only deleted. -/
lemma Exclusive.of_subset (hg : g.Exclusive)
    (h : ∀ key o, g'.fixed.get? key = some o → g.fixed.get? key = some o) : g'.Exclusive :=
  fun key key' o o' ho ho' => hg key key' o o' (h key o ho) (h key' o' ho')

lemma isTaken_of_get? {key : String} {o : FixedAddress} (h : g.fixed.get? key = some o) :
    g.isTaken o.view o.address = true := by
  rw [isTaken, List.any_eq_true]
  exact ⟨(key, o), Table.mem_entries_iff.2 h, by simp⟩

/-- An address that is not taken may be reserved. -/
lemma Exclusive.insertFixed (hg : g.Exclusive) {view : String} {a : Address}
    (hfree : g.isTaken view (toString a) = false) (name : String) :
    (g.insertFixed view a name).2.Exclusive := by
  have hother : ∀ key o, g.fixed.get? key = some o → o.view = view → o.address ≠ toString a := by
    intro key o ho hview haddress
    have htaken := isTaken_of_get? ho
    rw [hview, haddress, hfree] at htaken
    cases htaken
  intro key key' o o' ho ho' hview haddress
  rcases Table.get?_insert_cases ho with ho | ⟨hkey, rfl⟩ <;>
    rcases Table.get?_insert_cases ho' with ho' | ⟨hkey', rfl⟩
  · exact hg key key' o o' ho ho' hview haddress
  · exact absurd haddress (hother key o ho hview)
  · exact absurd haddress.symm (hother key' o' ho' hview.symm)
  · exact hkey.symm.trans hkey'

lemma Orderly.insertFixed (hg : g.Orderly) {view : String} {a : Address}
    (hfree : g.isTaken view (toString a) = false) (name : String) :
    (g.insertFixed view a name).2.Orderly where
  tidy := (hg.tidy.insertFixed view a name).tidy
  exclusive := Exclusive.insertFixed hg.exclusive hfree name

lemma Orderly.insertRecord (hg : g.Orderly) (host : String) (a : Address) :
    (g.insertRecord host (toString a)).2.Orderly where
  tidy := (hg.tidy.insertRecord host a).tidy
  exclusive := hg.exclusive

lemma Orderly.without (hg : g.Orderly) (keys : List String) : (g.without keys).Orderly where
  tidy := hg.tidy.without keys
  exclusive := by
    refine Exclusive.of_subset hg.exclusive fun key o ho => ?_
    rw [get?_fixed_without] at ho
    split_ifs at ho
    exact ho

/-! ## Differences -/

/-- A fixed address is in one of two grids only, under some reference. -/
def Differs (g g' : Memory) (o : FixedAddress) : Prop :=
  ∃ key, g.fixed.get? key ≠ g'.fixed.get? key ∧
    (g.fixed.get? key = some o ∨ g'.fixed.get? key = some o)

lemma selectFixed_eq (g : Memory) (filters : List Filter) :
    g.selectFixed filters = ((g.fixed.filter fun _ o =>
      filters.all fun f => passesFixed f o).entries.map Prod.snd) := by
  rw [selectFixed, List.filter_map]
  rfl

/-- **A selection sees no difference that does not pass its filters.** -/
theorem selectFixed_congr {filters : List Filter}
    (h : ∀ o, Differs g g' o → ∃ f ∈ filters, passesFixed f o = false) :
    g'.selectFixed filters = g.selectFixed filters := by
  have hnot : ∀ o, Differs g g' o → (filters.all fun f => passesFixed f o) = false := by
    intro o ho
    obtain ⟨f, hf, hfails⟩ := h o ho
    exact List.all_eq_false.2 ⟨f, hf, by simp [hfails]⟩
  have htable : (g'.fixed.filter fun _ o => filters.all fun f => passesFixed f o)
      = g.fixed.filter fun _ o => filters.all fun f => passesFixed f o := by
    apply Table.ext_get?
    intro key
    rw [Table.get?_filter, Table.get?_filter]
    by_cases hsame : g.fixed.get? key = g'.fixed.get? key
    · rw [hsame]
    · have hnone : ∀ found : Option FixedAddress, (∀ o, found = some o → Differs g g' o) →
          found.filter (fun o => filters.all fun f => passesFixed f o) = none := by
        intro found hfound
        cases found with
        | none => rfl
        | some o => simp [Option.filter, hnot o (hfound o rfl)]
      rw [hnone _ fun o ho => ⟨key, hsame, .inr ho⟩, hnone _ fun o ho => ⟨key, hsame, .inl ho⟩]
  rw [selectFixed_eq, selectFixed_eq, htable]

lemma differs_insertFixed (hg : g.Tidy) {view name : String} {a : Address} {o : FixedAddress}
    (h : Differs g (g.insertFixed view a name).2 o) :
    o.view = view ∧ o.address = toString a ∧ o.name = name := by
  obtain ⟨new, hnone, hget⟩ := hg.get?_insertFixed view a name
  obtain ⟨key, hne, ho⟩ := h
  rw [hget] at hne ho
  split_ifs at hne ho with hkey
  · subst hkey
    rw [hnone] at ho
    rcases ho with ho | ho
    · cases ho
    · cases ho
      exact ⟨rfl, rfl, rfl⟩
  · exact absurd rfl hne

lemma differs_without {keys : List String} {o : FixedAddress}
    (h : Differs g (g.without keys) o) : ∃ key ∈ keys, g.fixed.get? key = some o := by
  obtain ⟨key, hne, ho⟩ := h
  rw [get?_fixed_without] at hne ho
  split_ifs at hne ho with hkey
  · exact ⟨key, hkey, ho.resolve_right (by simp)⟩
  · exact absurd rfl hne

end Ipam.Grid.Memory
