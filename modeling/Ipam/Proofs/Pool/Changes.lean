import Ipam.Proofs.Allocation.Start

/-!
# Sequences of calls to the store

A store is kept right by every call, whatever its arguments and whether or not it succeeds.

* `Store.Change`, `Store.Change.apply` — the calls that may change a store, and what they leave.
* `Store.Rewrites` — at most one row gets another holder, and no other row of its pool carries the
  same reference; this is all that allocations and releases do.
* `Store.Reachable` — the stores that calls lead to, from a new one.
* `Store.Consistent` — what the three tables of a store say about each other, in terms of what the
  store answers when it is asked.
* **`Store.consistent_of_changes`** — every sequence of calls leaves a consistent store.
-/

namespace Ipam.Store

open Pool (Holder TokenSource)

variable {s s' : Store}

/-! ## Calls -/

/-- A call that may change the store.  Tokens are drawn at random, so every call that draws some has
a supply of its own, and the supply may repeat tokens or references. -/
inductive Change where
  /-- The pools are adjusted to a configuration. -/
  | sync (tokens : TokenSource) (desired : Table String)
  /-- The lowest free address is bound. -/
  | allocateNext (pool reference : String)
  /-- A particular address is bound. -/
  | allocateExact (pool : String) (a : Address) (reference : String)
  /-- An address is freed. -/
  | release (tokens : TokenSource) (pool : String) (a : Address)
  /-- A host name is recorded. -/
  | createDns (pool host : String) (a : Address)
  /-- A host name is forgotten. -/
  | deleteDns (pool host : String) (a : Address)
  /-- The file of the store is closed and opened again. -/
  | reopen

/-- What a call leaves: the store that it answers, or the old one if it fails. -/
def orSame {α : Type} (s : Store) : Except StoreError (α × Store) → Store
  | .ok (_, s') => s'
  | .error _ => s

/-- The store after a call. -/
def Change.apply (s : Store) : Change → Store
  | .sync tokens desired => s.orSame (s.sync tokens desired)
  | .allocateNext pool reference => s.orSame (s.allocateNext pool reference)
  | .allocateExact pool a reference => s.orSame (s.allocateExact pool a reference)
  | .release tokens pool a => s.orSame (s.release tokens pool a)
  | .createDns pool host a => s.createDns pool host a
  | .deleteDns pool host a => (s.deleteDns pool host a).2
  | .reopen => s

/-- A call that fails leaves the store as it is. -/
lemma valid_orSame {α : Type} {answer : Except StoreError (α × Store)} (hs : s.Valid)
    (h : ∀ value s', answer = .ok (value, s') → s'.Valid) : (s.orSame answer).Valid := by
  obtain _ | ⟨value, s'⟩ := answer
  · exact hs
  · exact h value s' rfl

/-! ## One row -/

/-- At most one row of one pool gets another holder, and the holder is new to the pool. -/
def Rewrites (s s' : Store) : Prop :=
  s'.pools = s.pools ∨ ∃ label p a holder, s.pools.get? label = some p ∧
    p.carriesElsewhere a holder.reference = false ∧
    s'.pools = (s.setPool label (p.setHolder a holder)).pools

lemma Rewrites.refl (s : Store) : s.Rewrites s := .inl rfl

/-- A row whose pool lets it have another holder is rewritten. -/
lemma rewrites_of_hold {label : String} {p q : Pool} {a : Address} {holder : Holder}
    (hp : s.pools.get? label = some p) (hold : p.hold a holder = .ok q)
    (hs' : s'.pools = (s.setPool label q).pools) : s.Rewrites s' := by
  cases hclash : p.carriesElsewhere a holder.reference with
  | true =>
      rw [hold_of_clash holder hclash] at hold
      cases hold
  | false =>
      rw [hold_of_new holder hclash] at hold
      cases hold
      exact .inr ⟨label, p, a, holder, hp, hclash, hs'⟩

lemma Rewrites.valid (h : s.Rewrites s') (hs : s.Valid) : s'.Valid := by
  rcases h with hsame | ⟨label, p, a, holder, hp, hnew, hset⟩
  · intro label p hp
    exact hs label p (hsame ▸ hp)
  · intro other q hq
    rw [hset] at hq
    exact valid_setPool hs (Pool.setHolder_valid (hs _ _ hp) holder hnew) other q hq

lemma rewrites_allocateNext {pool reference : String} {answer : Option Address}
    (h : s.allocateNext pool reference = .ok (answer, s')) : s.Rewrites s' := by
  rw [allocateNext] at h
  cases hp : s.pools.get? pool with
  | none =>
      rw [hp] at h
      cases h
      exact .refl s
  | some p =>
      simp only [hp] at h
      cases howned : p.owned? reference with
      | some a =>
          rw [howned] at h
          cases h
          exact .refl s
      | none =>
          simp only [howned] at h
          cases hlowest : p.lowestFree? with
          | none =>
              rw [hlowest] at h
              cases h
              exact .refl s
          | some a =>
              simp only [hlowest] at h
              cases hold : p.hold a (.bound reference) with
              | error e =>
                  rw [hold] at h
                  cases h
              | ok q =>
                  rw [hold] at h
                  cases h
                  exact rewrites_of_hold hp hold rfl

lemma rewrites_allocateExact {pool reference : String} {a : Address} {answer : ExactAllocation}
    (h : s.allocateExact pool a reference = .ok (answer, s')) : s.Rewrites s' := by
  rw [allocateExact] at h
  cases hp : s.pools.get? pool with
  | none =>
      rw [hp] at h
      cases h
      exact .refl s
  | some p =>
      simp only [hp] at h
      rcases hrow : p.row? a with _ | ⟨b, token | owner⟩
      · rw [hrow] at h
        cases h
        exact .refl s
      · simp only [hrow] at h
        cases howned : p.owned? reference with
        | some b =>
            rw [howned] at h
            cases h
            exact .refl s
        | none =>
            simp only [howned] at h
            cases hold : p.hold a (.bound reference) with
            | error e =>
                rw [hold] at h
                cases h
            | ok q =>
                rw [hold] at h
                cases h
                exact rewrites_of_hold hp hold rfl
      · rw [hrow] at h
        cases h
        exact .refl s

lemma rewrites_release {tokens : TokenSource} {pool : String} {a : Address} {answer : Bool}
    (h : s.release tokens pool a = .ok (answer, s')) : s.Rewrites s' := by
  rw [release] at h
  cases hp : s.pools.get? pool with
  | none =>
      rw [hp] at h
      cases h
      exact .refl s
  | some p =>
      simp only [hp] at h
      rcases hrow : p.row? a with _ | ⟨b, token | owner⟩
      · rw [hrow] at h
        cases h
        exact .refl s
      · rw [hrow] at h
        cases h
        exact .refl s
      · simp only [hrow] at h
        cases hold : p.hold a (.free (tokens s.drawn)) with
        | error e =>
            rw [hold] at h
            cases h
        | ok q =>
            rw [hold] at h
            cases h
            exact rewrites_of_hold hp hold rfl

lemma rewrites_createDns (s : Store) (pool host : String) (a : Address) :
    s.Rewrites (s.createDns pool host a) := by
  rw [createDns]
  split_ifs
  · exact .refl s
  · exact .inl rfl

/-! ## All rows -/

/-- **Every call keeps every pool valid.** -/
theorem Valid.apply (hs : s.Valid) (change : Change) : (change.apply s).Valid := by
  cases change with
  | sync tokens desired => exact valid_orSame hs fun _ _ hok => (synced_of_sync hok).valid hs
  | allocateNext pool reference =>
      exact valid_orSame hs fun _ _ hok => (rewrites_allocateNext hok).valid hs
  | allocateExact pool a reference =>
      exact valid_orSame hs fun _ _ hok => (rewrites_allocateExact hok).valid hs
  | release tokens pool a => exact valid_orSame hs fun _ _ hok => (rewrites_release hok).valid hs
  | createDns pool host a => exact (rewrites_createDns s pool host a).valid hs
  | deleteDns pool host a => exact hs
  | reopen => exact hs

/-- What every call keeps, every sequence of calls keeps. -/
lemma Valid.foldl_apply (hs : s.Valid) (changes : List Change) :
    (changes.foldl Change.apply s).Valid := by
  induction changes generalizing s with
  | nil => exact hs
  | cons change changes ih => exact ih (hs.apply change)

/-! ## Reachable stores -/

/-- A store that calls have led to, from a new one. -/
def Reachable (s : Store) : Prop :=
  ∃ changes : List Change, changes.foldl Change.apply ∅ = s

lemma Reachable.valid (h : s.Reachable) : s.Valid := by
  obtain ⟨changes, rfl⟩ := h
  exact valid_empty.foldl_apply changes

lemma Reachable.apply (h : s.Reachable) (change : Change) : (change.apply s).Reachable := by
  obtain ⟨changes, rfl⟩ := h
  exact ⟨changes ++ [change], List.foldl_concat ..⟩

lemma reachable_empty : Reachable ∅ :=
  ⟨[], rfl⟩

/-- A controller that starts over a store adjusts its pools. -/
lemma Reachable.start {tokens : TokenSource} {config : String} {report : SyncReport}
    (h : s.Reachable) (hstart : Local.start tokens config s = .ok (report, s')) :
    s'.Reachable := by
  obtain ⟨desired, -, hsync⟩ := Local.start_eq_ok hstart
  have happly : (Change.sync tokens desired).apply s = s' := by
    rw [Change.apply, hsync]
    rfl
  exact happly ▸ h.apply _

/-! ## Views -/

/-- What the tables of a store say about each other. -/
structure Consistent (s : Store) : Prop where
  /-- Rows are listed for configured labels only. -/
  configured : ∀ label, s.entries label ≠ [] → ∃ range, s.ranges.get? label = some range
  /-- The range text of every configured label can be expanded, and its rows are exactly the
  addresses to which it expands. -/
  covers : ∀ label range, s.ranges.get? label = some range →
    Range.expand range = .ok ((s.entries label).map (·.row.address))
  /-- Rows are listed by address, and each address once. -/
  ascending : ∀ label, ((s.entries label).map (·.row.address)).Pairwise (· < ·)
  /-- All references of a label are different, owners of bound rows and tokens of free ones. -/
  distinct : ∀ label, ((s.entries label).map (·.row.holder.reference)).Nodup
  /-- The row of an address is the one that is listed. -/
  entry : ∀ label a entry, s.entry? label a = some entry ↔
    entry ∈ s.entries label ∧ entry.row.address = a
  /-- A look-up finds an address exactly if its row is bound to the reference. -/
  lookup : ∀ label reference a, s.lookup label reference = some a ↔
    s.entry? label a = some ⟨label, ⟨a, .bound reference⟩⟩

lemma entries_eq {label : String} {p : Pool} (h : s.pools.get? label = some p) :
    s.entries label = p.rows.map fun row => ⟨label, row⟩ := by
  rw [entries, rows_eq h]

lemma entries_of_no_pool {label : String} (h : s.pools.get? label = none) :
    s.entries label = [] := by
  rw [entries, rows, h]
  rfl

/-- **A store of valid pools is consistent.** -/
theorem Valid.consistent (hs : s.Valid) : s.Consistent where
  configured label hrows := by
    rw [get?_ranges]
    cases hp : s.pools.get? label with
    | none => exact absurd (entries_of_no_pool hp) hrows
    | some p => exact ⟨p.range, rfl⟩
  covers label range hrange := by
    rw [get?_ranges, Option.map_eq_some_iff] at hrange
    obtain ⟨p, hp, rfl⟩ := hrange
    rw [entries_eq hp, List.map_map]
    exact (hs _ _ hp).covers
  ascending label := by
    cases hp : s.pools.get? label with
    | none =>
        rw [entries_of_no_pool hp]
        exact .nil
    | some p =>
        rw [entries_eq hp, List.map_map]
        exact (hs _ _ hp).ascending
  distinct label := by
    cases hp : s.pools.get? label with
    | none =>
        rw [entries_of_no_pool hp]
        exact .nil
    | some p =>
        rw [entries_eq hp, List.map_map]
        exact (hs _ _ hp).distinct
  entry label a entry := by
    cases hp : s.pools.get? label with
    | none => simp [entry?_of_no_pool hp, entries_of_no_pool hp]
    | some p =>
        rw [entry?_eq hp, entries_eq hp, Option.map_eq_some_iff, List.mem_map]
        constructor
        · rintro ⟨row, hrow, rfl⟩
          obtain ⟨hmem, haddress⟩ := (Pool.row?_eq_some_iff (hs _ _ hp)).1 hrow
          exact ⟨⟨row, hmem, rfl⟩, haddress⟩
        · rintro ⟨⟨row, hmem, rfl⟩, haddress⟩
          exact ⟨row, (Pool.row?_eq_some_iff (hs _ _ hp)).2 ⟨hmem, haddress⟩, rfl⟩
  lookup label reference a := by
    cases hp : s.pools.get? label with
    | none => simp [lookup_of_no_pool hp, entry?_of_no_pool hp]
    | some p =>
        rw [lookup_eq hp, Pool.owned?_eq_some_iff (hs _ _ hp), entry?_eq hp]
        simp [Pool.row?_eq_some_iff (hs _ _ hp)]

/-- **Every sequence of calls leaves a consistent store,** whatever the arguments and the tokens,
and whether the calls succeed or fail. -/
theorem consistent_of_changes (changes : List Change) :
    (changes.foldl Change.apply ∅).Consistent :=
  (valid_empty.foldl_apply changes).consistent

end Ipam.Store
