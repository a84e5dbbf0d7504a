import Ipam.Proofs.Allocation.Tokens
import Ipam.Proofs.Pool.Changes

/-!
# The lowest free address

An allocation without a particular address takes the numerically lowest free one of the pool.

* `Store.IsBound`, `Store.IsFree`, `Store.IsToken` — who holds the row of an address.
* `Store.Exhausted`, `Store.IsLowest` — no address of a range text is left; the first one that is.
* `Store.Takes` — one row gets an owner, and nothing else changes.
* **`Store.allocateNext_lowest`** — what an allocation answers and leaves, for every reachable
  store.

The first three notions speak of the range text of a pool and of its rows; that both have the same
addresses is the validity of the pool.
-/

namespace Ipam.Store

open Pool (Holder Row TokenSource)

variable {s s' : Store} {label reference : String} {a : Address}

/-! ## Addresses of a pool -/

/-- The address is bound to the reference. -/
def IsBound (s : Store) (label : String) (a : Address) (reference : String) : Prop :=
  s.entry? label a = some ⟨label, ⟨a, .bound reference⟩⟩

/-- The address is free, and the text is its placeholder token. -/
def IsToken (s : Store) (label : String) (a : Address) (token : String) : Prop :=
  s.entry? label a = some ⟨label, ⟨a, .free token⟩⟩

/-- The address is free. -/
def IsFree (s : Store) (label : String) (a : Address) : Prop :=
  ∃ token, s.IsToken label a token

/-- The addresses to which the range text of a configured pool expands. -/
def Spans (s : Store) (label : String) (addresses : List Address) : Prop :=
  ∃ range, s.ranges.get? label = some range ∧ Range.expand range = .ok addresses

/-- The pool is not configured, or every address of its range text is bound. -/
def Exhausted (s : Store) (label : String) : Prop :=
  s.ranges.get? label = none ∨
    ∃ addresses, s.Spans label addresses ∧ ∀ a ∈ addresses, ∃ owner, s.IsBound label a owner

/-- The numerically lowest free address of the range text of a pool. -/
def IsLowest (s : Store) (label : String) (a : Address) : Prop :=
  s.IsFree label a ∧
    ∃ addresses, s.Spans label addresses ∧ a ∈ addresses ∧
      ∀ b ∈ addresses, s.IsFree label b → a ≤ b

/-- Exactly the row of one address gets an owner: `s'` is `s` but for this row. -/
structure Takes (s : Store) (label : String) (a : Address) (reference : String) (s' : Store) :
    Prop where
  row : s'.IsBound label a reference
  others : ∀ other b, other ≠ label ∨ b ≠ a → s'.entry? other b = s.entry? other b
  ranges : s'.ranges = s.ranges
  dns : s'.dns = s.dns

/-! ## Addresses and rows -/

section Rows

variable {p : Pool}

lemma entry?_iff (hpool : s.pools.get? label = some p) (hp : p.Valid) {holder : Holder} :
    s.entry? label a = some ⟨label, ⟨a, holder⟩⟩ ↔ ⟨a, holder⟩ ∈ p.rows := by
  rw [entry?_eq hpool]
  simp [Pool.row?_eq_some_iff hp]

lemma spans_iff (hpool : s.pools.get? label = some p) (hp : p.Valid) {addresses : List Address} :
    s.Spans label addresses ↔ addresses = p.rows.map (·.address) := by
  simp only [Spans, get?_ranges, hpool, Option.map_some, Option.some.injEq, exists_eq_left',
    hp.covers, Except.ok.injEq]
  exact eq_comm

/-- A pool is exhausted when it has no free row. -/
lemma exhausted_iff (hpool : s.pools.get? label = some p) (hp : p.Valid) :
    s.Exhausted label ↔ p.lowestFree? = none := by
  rw [Exhausted, get?_ranges, hpool, Pool.lowestFree?_eq_none_iff]
  simp only [Option.map_some, reduceCtorEq, false_or, spans_iff hpool hp, exists_eq_left,
    List.forall_mem_map, IsBound, entry?_iff hpool hp]
  refine forall₂_congr fun row hrow => ?_
  constructor
  · rintro ⟨owner, howner⟩
    rw [hp.eq_of_address hrow howner rfl]
    rfl
  · intro hheld
    obtain ⟨a, token | owner⟩ := row
    · cases hheld
    · exact ⟨owner, hrow⟩

/-- The lowest address of a range text that is free is that of the lowest free row. -/
lemma isLowest_iff (hpool : s.pools.get? label = some p) (hp : p.Valid) :
    s.IsLowest label a ↔ p.lowestFree? = some a := by
  have hfree : ∀ b, s.IsFree label b ↔ ∃ token, ⟨b, .free token⟩ ∈ p.rows := fun b =>
    exists_congr fun token => entry?_iff hpool hp
  rw [Pool.lowestFree?_eq_some_iff hp, IsLowest, hfree]
  refine and_congr_right fun ⟨token, hrow⟩ => ?_
  simp only [spans_iff hpool hp, exists_eq_left, List.forall_mem_map, hfree]
  constructor
  · rintro ⟨-, hleast⟩ ⟨b, token | owner⟩ hmem hisfree
    · exact hleast _ hmem ⟨token, hmem⟩
    · cases hisfree
  · intro hleast
    refine ⟨List.mem_map.2 ⟨_, hrow, rfl⟩, fun row hmem hisfree => ?_⟩
    obtain ⟨token, htoken⟩ := hisfree
    rw [hp.eq_of_address hmem htoken rfl]
    exact hleast _ htoken rfl

/-- Among the rows of a pool, a reference that owns nothing can only be the token of a free one. -/
lemma carriesElsewhere_iff (hpool : s.pools.get? label = some p) (hp : p.Valid)
    (hnone : s.lookup label reference = none) :
    p.carriesElsewhere a reference = true ↔ ∃ b, b ≠ a ∧ s.IsToken label b reference := by
  rw [lookup_eq hpool, Pool.owned?_eq_none_iff] at hnone
  simp only [IsToken, entry?_iff hpool hp, Pool.carriesElsewhere, List.any_eq_true,
    Bool.and_eq_true, decide_eq_true_eq]
  constructor
  · rintro ⟨⟨b, token | owner⟩, hmem, hne, rfl⟩
    · exact ⟨b, hne, hmem⟩
    · exact absurd rfl (hnone _ hmem)
  · rintro ⟨b, hne, hmem⟩
    exact ⟨_, hmem, hne, rfl⟩

/-- A free row that gets an owner is all that changes. -/
lemma takes_setHolder (hpool : s.pools.get? label = some p) (hp : p.Valid)
    (hmem : ∃ row ∈ p.rows, row.address = a)
    (hnew : p.carriesElsewhere a reference = false) :
    s.Takes label a reference (s.setPool label (p.setHolder a (.bound reference))) where
  row := by
    have hpool' : (s.setPool label (p.setHolder a (.bound reference))).pools.get? label
        = some (p.setHolder a (.bound reference)) := by
      rw [pools_setPool, if_pos rfl]
    exact (entry?_iff hpool' (Pool.setHolder_valid hp (.bound reference) hnew)).2
      (Pool.mem_setHolder.2 (.inr ⟨rfl, hmem⟩))
  others other b hother := by
    by_cases hlabel : label = other
    · subst hlabel
      exact entry?_setHolder_of_ne hpool (by rw [pools_setPool, if_pos rfl])
        (hother.resolve_left (· rfl))
    · exact entry?_congr (by rw [pools_setPool, if_neg hlabel]) b
  ranges := by
    apply Table.ext_get?
    intro other
    rw [get?_ranges, get?_ranges, pools_setPool]
    split_ifs with hlabel
    · rw [← hlabel, hpool]
      rfl
    · rfl
  dns := rfl

end Rows

/-! ## The allocation -/

/-- What is known of an allocation of any address of a pool to a reference. -/
structure TakesLowest (s : Store) (label reference : String) : Prop where
  /-- A reference that owns an address keeps it. -/
  owned : ∀ a, s.lookup label reference = some a →
    s.allocateNext label reference = .ok (some a, s)
  /-- Otherwise, when no address is left, none is answered. -/
  exhausted : s.lookup label reference = none → s.Exhausted label →
    s.allocateNext label reference = .ok (none, s)
  /-- Otherwise there is a lowest free address.  Unless the reference is the token of another free
  one, which the store refuses, exactly this address is taken. -/
  lowest : s.lookup label reference = none → ¬ s.Exhausted label → ∃ a, s.IsLowest label a ∧
    ((∃ b, b ≠ a ∧ s.IsToken label b reference) →
      s.allocateNext label reference = .error .duplicateReference ∧
        (Change.allocateNext label reference).apply s = s) ∧
    ((¬ ∃ b, b ≠ a ∧ s.IsToken label b reference) →
      ∃ s', s.allocateNext label reference = .ok (some a, s') ∧ s.Takes label a reference s')

/-- **An allocation takes the lowest free address** of a pool, and nothing but its row changes.  The
reference is arbitrary, and so is the pool, which need not be configured. -/
theorem allocateNext_lowest (hs : s.Reachable) (label reference : String) :
    s.TakesLowest label reference := by
  cases hpool : s.pools.get? label with
  | none =>
      have hunknown : s.ranges.get? label = none := by rw [get?_ranges, hpool]; rfl
      refine ⟨fun a howned => ?_, fun _ _ => ?_, fun _ hleft => absurd (.inl hunknown) hleft⟩
      · rw [lookup_of_no_pool hpool] at howned
        cases howned
      · simp [allocateNext, hpool]
  | some p =>
      have hp : p.Valid := hs.valid _ _ hpool
      have hlookup := lookup_eq hpool reference
      refine ⟨fun a howned => ?_, fun hnone hfull => ?_, fun hnone hleft => ?_⟩
      · exact allocateNext_of_owned hpool (hlookup ▸ howned)
      · rw [allocateNext_of_unowned hpool (hlookup ▸ hnone), (exhausted_iff hpool hp).1 hfull]
      · rw [exhausted_iff hpool hp] at hleft
        obtain ⟨a, ha⟩ := Option.ne_none_iff_exists'.1 hleft
        have hrow : ∃ row ∈ p.rows, row.address = a := by
          obtain ⟨token, hmem⟩ := ((Pool.lowestFree?_eq_some_iff hp).1 ha).1
          exact ⟨_, hmem, rfl⟩
        have hanswer := allocateNext_of_unowned hpool (hlookup ▸ hnone)
        simp only [ha] at hanswer
        refine ⟨a, (isLowest_iff hpool hp).2 ha, fun htoken => ?_, fun hnew => ?_⟩
        · rw [if_pos ((carriesElsewhere_iff hpool hp hnone).2 htoken)] at hanswer
          exact ⟨hanswer, by rw [Change.apply, hanswer]; rfl⟩
        · rw [← carriesElsewhere_iff hpool hp hnone] at hnew
          rw [if_neg hnew] at hanswer
          exact ⟨_, hanswer, takes_setHolder hpool hp hrow (Bool.eq_false_iff.2 hnew)⟩

/-- A new reference takes the first of two free addresses.  The token of the second one is refused,
while that of the first, which is the one that is taken, is not. -/
theorem allocateNext_lowest_of_pair :
    Local.pairStore.Reachable ∧
    (∃ s', Local.pairStore.allocateNext "lan" "www" = .ok (some (.ofNat 0x0A000001), s') ∧
      Local.pairStore.Takes "lan" (.ofNat 0x0A000001) "www" s') ∧
    Local.pairStore.allocateNext "lan" "-" = .error .duplicateReference ∧
    ∃ s', Local.pairStore.allocateNext "lan" "" = .ok (some (.ofNat 0x0A000001), s') := by
  have hs : Local.pairStore.Reachable := reachable_empty.start Local.start_pairConfig
  have hp := hs.valid "lan" _ rfl
  have hleft : ¬ Local.pairStore.Exhausted "lan" := by
    rw [exhausted_iff rfl hp]
    decide
  have hlowest : ∀ a, Local.pairStore.IsLowest "lan" a → a = .ofNat 0x0A000001 := fun a ha =>
    (Option.some.inj ((isLowest_iff rfl hp).1 ha)).symm
  refine ⟨hs, ?_, ?_, ?_⟩
  · obtain ⟨a, ha, -, htakes⟩ := (allocateNext_lowest hs "lan" "www").lowest rfl hleft
    cases hlowest a ha
    refine htakes ?_
    rw [← carriesElsewhere_iff rfl hp rfl]
    decide
  · obtain ⟨a, ha, htoken, -⟩ := (allocateNext_lowest hs "lan" "-").lowest rfl hleft
    cases hlowest a ha
    refine (htoken ?_).1
    rw [← carriesElsewhere_iff rfl hp rfl]
    decide
  · obtain ⟨a, ha, -, htakes⟩ := (allocateNext_lowest hs "lan" "").lowest rfl hleft
    cases hlowest a ha
    obtain ⟨s', hok, -⟩ := htakes (by rw [← carriesElsewhere_iff rfl hp rfl]; decide)
    exact ⟨s', hok⟩

end Ipam.Store
