/-!
# Tables

A finite map from names to values, kept in increasing order of the names.  The order is that of code
points, which is also that of UTF-8 bytes.  Everything that lists names (reports, messages about the
first faulty label, the resources of a cluster) lists them in this order.

* `Table` — entries in strictly increasing order of their names.
* `Table.get?`, `Table.insert`, `Table.erase`, `Table.ofList`.
* `Table.get?_insert` — what a look-up finds after a value was set.
-/

namespace Ipam

/-- Entries in strictly increasing order of their names. -/
structure Table (α : Type) where
  /-- The entries, in order. -/
  entries : List (String × α)
  /-- No name occurs twice and the names increase. -/
  ascending : entries.Pairwise (fun a b => a.1 < b.1)

namespace Table

variable {α β : Type}

/-! ## Entries -/

/-- The value under a name in an ordered list of entries. -/
def lookupIn (name : String) : List (String × α) → Option α
  | [] => none
  | (key, value) :: rest => if key = name then some value else lookupIn name rest

/-- An ordered list of entries with the value under `name` set. -/
def insertIn (name : String) (value : α) : List (String × α) → List (String × α)
  | [] => [(name, value)]
  | entry :: rest =>
    if name < entry.1 then (name, value) :: entry :: rest
    else if entry.1 = name then (name, value) :: rest
    else entry :: insertIn name value rest

theorem mem_insertIn {name : String} {value : α} {entries : List (String × α)}
    {entry : String × α} (h : entry ∈ insertIn name value entries) :
    entry = (name, value) ∨ entry ∈ entries := by
  induction entries with
  | nil => simpa [insertIn] using h
  | cons head rest ih =>
    rw [insertIn] at h
    split at h
    · simpa using h
    · split at h
      · rcases List.mem_cons.1 h with h | h
        · exact .inl h
        · exact .inr (List.mem_cons_of_mem _ h)
      · rcases List.mem_cons.1 h with h | h
        · exact .inr (h ▸ List.mem_cons_self)
        · exact (ih h).imp_right (List.mem_cons_of_mem _)

theorem ascending_insertIn (name : String) (value : α) {entries : List (String × α)}
    (h : entries.Pairwise (fun a b => a.1 < b.1)) :
    (insertIn name value entries).Pairwise (fun a b => a.1 < b.1) := by
  induction entries with
  | nil => simp [insertIn]
  | cons head rest ih =>
    obtain ⟨hhead, hrest⟩ := List.pairwise_cons.1 h
    rw [insertIn]
    split
    · rename_i hlt
      refine List.pairwise_cons.2 ⟨fun entry hentry => ?_, h⟩
      rcases List.mem_cons.1 hentry with rfl | hentry
      · exact hlt
      · exact String.lt_trans hlt (hhead _ hentry)
    · rename_i hnlt
      split
      · rename_i heq
        exact List.pairwise_cons.2 ⟨fun entry hentry => heq ▸ hhead _ hentry, hrest⟩
      · rename_i hne
        refine List.pairwise_cons.2 ⟨fun entry hentry => ?_, ih hrest⟩
        rcases mem_insertIn hentry with rfl | hentry
        · rcases Decidable.em (head.1 < name) with hlt | hge
          · exact hlt
          · exact absurd (String.le_antisymm (String.not_lt.1 hnlt) (String.not_lt.1 hge)) hne
        · exact hhead _ hentry

/-! ## Operations -/

/-- The table without entries. -/
def empty : Table α :=
  ⟨[], .nil⟩

instance : EmptyCollection (Table α) := ⟨empty⟩
instance : Inhabited (Table α) := ⟨empty⟩

/-- The value under a name. -/
def get? (t : Table α) (name : String) : Option α :=
  lookupIn name t.entries

/-- Whether a name has a value. -/
def contains (t : Table α) (name : String) : Bool :=
  (t.get? name).isSome

/-- The table with the value under `name` set. -/
def insert (t : Table α) (name : String) (value : α) : Table α :=
  ⟨insertIn name value t.entries, ascending_insertIn name value t.ascending⟩

/-- The table without the entries that fail a test. -/
def filter (t : Table α) (keep : String → α → Bool) : Table α :=
  ⟨t.entries.filter fun entry => keep entry.1 entry.2, t.ascending.filter _⟩

/-- The table without the entry under `name`. -/
def erase (t : Table α) (name : String) : Table α :=
  t.filter fun key _ => key ≠ name

/-- The names of the table, in order. -/
def names (t : Table α) : List String :=
  t.entries.map Prod.fst

/-- Whether the table has no entries. -/
def isEmpty (t : Table α) : Bool :=
  t.entries.isEmpty

/-- The table of a list of entries; of two entries with one name the later counts. -/
def ofList (entries : List (String × α)) : Table α :=
  entries.foldl (fun t entry => t.insert entry.1 entry.2) empty

/-- The table with a function applied to every value. -/
def map (f : String → α → β) (t : Table α) : Table β where
  entries := t.entries.map fun entry => (entry.1, f entry.1 entry.2)
  ascending := List.pairwise_map.2 t.ascending

/-! ## Look-ups -/

theorem ext {s t : Table α} (h : s.entries = t.entries) : s = t := by
  cases s
  cases t
  cases h
  rfl

theorem lookupIn_eq_none_of_lt {name : String} {entries : List (String × α)}
    (h : ∀ entry ∈ entries, name < entry.1) : lookupIn name entries = none := by
  induction entries with
  | nil => rfl
  | cons head rest ih =>
    have hlt := h head List.mem_cons_self
    have hne : head.1 ≠ name := fun heq => String.lt_irrefl name (heq ▸ hlt)
    obtain ⟨key, value⟩ := head
    simp only [lookupIn]
    rw [if_neg hne]
    exact ih fun entry hentry => h entry (List.mem_cons_of_mem _ hentry)

theorem lookupIn_insertIn (name : String) (value : α) (entries : List (String × α))
    (other : String) :
    lookupIn other (insertIn name value entries)
      = if name = other then some value else lookupIn other entries := by
  induction entries with
  | nil => simp [insertIn, lookupIn]
  | cons head rest ih =>
    obtain ⟨key, held⟩ := head
    rw [insertIn]
    split
    · simp [lookupIn]
    · split
      · rename_i heq
        simp only at heq
        subst heq
        by_cases h : key = other <;> simp [lookupIn, h]
      · rename_i hne
        simp only at hne
        by_cases h : key = other
        · subst h
          simp [lookupIn, Ne.symm hne]
        · simp [lookupIn, h, ih]

@[simp] theorem get?_empty (name : String) : (empty : Table α).get? name = none := rfl

@[simp] theorem get?_insert (t : Table α) (name other : String) (value : α) :
    (t.insert name value).get? other = if name = other then some value else t.get? other :=
  lookupIn_insertIn name value t.entries other

end Table

end Ipam
