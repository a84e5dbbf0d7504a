import Ipam.Pool.Config
import Ipam.Proofs.Pool.Rows
import Ipam.Proofs.Table

/-!
# The store as a whole

* `Store.Valid` — every pool of the store is valid.
* `Store.lookup_eq_some_iff` — look-ups as statements about rows.
* `Store.allocateNext_of_unowned`, `Store.allocateExact_of_free`, `Store.release_of_owned` and their
  companions — what a change of one row answers, and when.

A change that is refused answers an error and no store at all, so nothing has to be said about it.
-/

namespace Ipam.Store

open Pool (Holder Row TokenSource)

/-- A store as it is kept: every pool is valid. -/
def Valid (s : Store) : Prop :=
  ∀ label p, s.pools.get? label = some p → p.Valid

/-- No label of the store is blank, as no configuration text has a blank label. -/
def Labelled (s : Store) : Prop :=
  ∀ label p, s.pools.get? label = some p → Pool.isBlankText label = false

@[simp] lemma pools_empty (label : String) : (∅ : Store).pools.get? label = none := rfl

lemma valid_empty : Valid ∅ := by simp [Valid]

lemma labelled_empty : Labelled ∅ := by simp [Labelled]

variable {s s' : Store} {label : String}

/-! ## Views -/

@[simp] lemma pools_setPool (s : Store) (label : String) (p : Pool) (other : String) :
    (s.setPool label p).pools.get? other = if label = other then some p else s.pools.get? other :=
  Table.get?_insert s.pools label other p

@[simp] lemma dns_setPool (s : Store) (label : String) (p : Pool) :
    (s.setPool label p).dns = s.dns := rfl

@[simp] lemma drawn_setPool (s : Store) (label : String) (p : Pool) :
    (s.setPool label p).drawn = s.drawn := rfl

lemma valid_setPool {p : Pool} (hs : s.Valid) (hp : p.Valid) : (s.setPool label p).Valid := by
  intro other q hq
  rw [pools_setPool] at hq
  split_ifs at hq with heq
  · cases hq
    exact hp
  · exact hs other q hq

lemma hasPool_iff : s.hasPool label = true ↔ ∃ p, s.pools.get? label = some p :=
  Table.contains_iff

lemma lookup_eq {p : Pool} (h : s.pools.get? label = some p) (reference : String) :
    s.lookup label reference = p.owned? reference := by
  simp [lookup, h]

lemma lookup_congr {t : Store} (h : s.pools = t.pools) (label reference : String) :
    s.lookup label reference = t.lookup label reference := by
  rw [lookup, lookup, h]

lemma lookup_setPool (s : Store) (label : String) (p : Pool) (other reference : String) :
    (s.setPool label p).lookup other reference
      = if label = other then p.owned? reference else s.lookup other reference := by
  simp only [lookup, pools_setPool]
  split_ifs <;> rfl

lemma lookup_of_no_pool (h : s.pools.get? label = none) (reference : String) :
    s.lookup label reference = none := by
  simp [lookup, h]

lemma entry?_congr (h : s'.pools.get? label = s.pools.get? label) (a : Address) :
    s'.entry? label a = s.entry? label a := by
  unfold entry?
  rw [h]

lemma entry?_eq {p : Pool} (h : s.pools.get? label = some p) (a : Address) :
    s.entry? label a = (p.row? a).map fun row => ⟨label, row⟩ := by
  unfold entry?
  simp only [h]
  change (p.row? a).bind _ = _
  cases p.row? a <;> rfl

lemma entry?_of_no_pool (h : s.pools.get? label = none) (a : Address) :
    s.entry? label a = none := by
  unfold entry?
  rw [h]
  rfl

lemma entry?_of_mem {p : Pool} {a : Address} {holder : Pool.Holder}
    (h : s.pools.get? label = some p) (hvalid : p.Valid) (hmem : ⟨a, holder⟩ ∈ p.rows) :
    s.entry? label a = some ⟨label, ⟨a, holder⟩⟩ := by
  rw [entry?_eq h, (Pool.row?_eq_some_iff hvalid).2 ⟨hmem, rfl⟩]
  rfl

lemma entry?_setHolder_of_ne {s t : Store} {label : String} {p : Pool} {a b : Address}
    {holder : Holder} (hp : s.pools.get? label = some p)
    (ht : t.pools.get? label = some (p.setHolder a holder)) (hne : b ≠ a) :
    t.entry? label b = s.entry? label b := by
  rw [entry?_eq ht, entry?_eq hp, Pool.row?_setHolder_of_ne holder hne]

lemma get?_ranges (s : Store) (label : String) :
    s.ranges.get? label = (s.pools.get? label).map Pool.range :=
  Table.get?_map _ _ _

lemma rows_eq {p : Pool} (h : s.pools.get? label = some p) : s.rows label = p.rows := by
  simp [rows, h]

/-- **A look-up finds an address exactly if its row is bound to the reference.** -/
theorem lookup_eq_some_iff (hs : s.Valid) {reference : String} {a : Address} :
    s.lookup label reference = some a ↔ ⟨a, .bound reference⟩ ∈ s.rows label := by
  cases hpool : s.pools.get? label with
  | none => simp [lookup, rows, hpool]
  | some p => rw [lookup_eq hpool, rows_eq hpool, Pool.owned?_eq_some_iff (hs _ _ hpool)]

/-- In a valid pool a row is determined by its address and by its reference. -/
lemma Valid.eq_of_mem_rows (hs : s.Valid) {x y : Row} (hx : x ∈ s.rows label)
    (hy : y ∈ s.rows label)
    (h : x.address = y.address ∨ x.holder.reference = y.holder.reference) : x = y := by
  cases hp : s.pools.get? label with
  | none => simp [rows, hp] at hx
  | some p =>
      rw [rows_eq hp] at hx hy
      rcases h with haddress | hreference
      · exact (hs _ _ hp).eq_of_address hx hy haddress
      · exact (hs _ _ hp).eq_of_reference hx hy hreference

/-! ## Changes of one row

Each call has one equation for every answer; together with the views of the pool they say when
which answer is given.
-/

section Changes

variable {p : Pool} {reference : String} {a : Address}

lemma hold_of_clash (holder : Holder) (h : p.carriesElsewhere a holder.reference = true) :
    p.hold a holder = .error .duplicateReference := by
  rw [Pool.hold, if_pos h]

lemma hold_of_new (holder : Holder) (h : p.carriesElsewhere a holder.reference = false) :
    p.hold a holder = .ok (p.setHolder a holder) := by
  rw [Pool.hold, if_neg (by simp [h])]

lemma allocateNext_of_owned (hpool : s.pools.get? label = some p)
    (howned : p.owned? reference = some a) :
    s.allocateNext label reference = .ok (some a, s) := by
  simp [allocateNext, hpool, howned]

lemma allocateNext_of_unowned (hpool : s.pools.get? label = some p)
    (hnone : p.owned? reference = none) :
    s.allocateNext label reference = match p.lowestFree? with
      | none => .ok (none, s)
      | some a =>
        if p.carriesElsewhere a reference then .error .duplicateReference
        else .ok (some a, s.setPool label (p.setHolder a (.bound reference))) := by
  simp only [allocateNext, hpool, hnone]
  cases p.lowestFree? with
  | none => rfl
  | some a =>
      by_cases h : p.carriesElsewhere a reference = true
      · simp only [hold_of_clash (.bound reference) h, if_pos h]
        rfl
      · simp only [hold_of_new (.bound reference) (Bool.eq_false_iff.2 h), if_neg h]
        rfl

lemma allocateExact_of_owned (hpool : s.pools.get? label = some p) (hp : p.Valid)
    (howned : p.owned? reference = some a) :
    s.allocateExact label a reference = .ok (.alreadyBound, s) := by
  have hrow : p.row? a = some ⟨a, .bound reference⟩ :=
    (Pool.row?_eq_some_iff hp).2 ⟨(Pool.owned?_eq_some_iff hp).1 howned, rfl⟩
  simp [allocateExact, hpool, hrow]

lemma allocateExact_of_free (hpool : s.pools.get? label = some p) (hp : p.Valid) {token : String}
    (hnone : p.owned? reference = none) (hfree : ⟨a, .free token⟩ ∈ p.rows) :
    s.allocateExact label a reference =
      if p.carriesElsewhere a reference then .error .duplicateReference
      else .ok (.allocated, s.setPool label (p.setHolder a (.bound reference))) := by
  have hrow : p.row? a = some ⟨a, .free token⟩ := (Pool.row?_eq_some_iff hp).2 ⟨hfree, rfl⟩
  simp only [allocateExact, hpool, hrow, hnone]
  by_cases h : p.carriesElsewhere a reference = true
  · rw [hold_of_clash (.bound reference) h, if_pos h]
    rfl
  · rw [hold_of_new (.bound reference) (Bool.eq_false_iff.2 h), if_neg h]
    rfl

/-- An address that is not free is refused unless the reference owns it, and so is any other address
when the reference owns one. -/
lemma allocateExact_of_refused (hpool : s.pools.get? label = some p) (hp : p.Valid)
    (howned : p.owned? reference ≠ some a)
    (hfree : p.owned? reference = none → ∀ token, ⟨a, .free token⟩ ∉ p.rows) :
    ∃ answer, s.allocateExact label a reference = .ok (answer, s) ∧
      answer ≠ .allocated ∧ answer ≠ .alreadyBound := by
  simp only [allocateExact, hpool]
  cases hrow : p.row? a with
  | none => exact ⟨_, rfl, by simp, by simp⟩
  | some row =>
      obtain ⟨hmem, rfl⟩ := (Pool.row?_eq_some_iff hp).1 hrow
      obtain ⟨a, token | owner⟩ := row
      · cases hother : p.owned? reference with
        | none => exact absurd hmem (hfree hother token)
        | some b => exact ⟨_, rfl, by simp, by simp⟩
      · have hne : owner ≠ reference := by
          rintro rfl
          exact howned ((Pool.owned?_eq_some_iff hp).2 hmem)
        exact ⟨_, rfl, by simp [hne], by simp [hne]⟩

lemma release_of_owned {tokens : TokenSource} (hpool : s.pools.get? label = some p) (hp : p.Valid)
    (howned : p.owned? reference = some a) :
    s.release tokens label a =
      if p.carriesElsewhere a (tokens s.drawn) then .error .duplicateReference
      else .ok (true, { s.setPool label (p.setHolder a (.free (tokens s.drawn))) with
        drawn := s.drawn + 1 }) := by
  have hrow : p.row? a = some ⟨a, .bound reference⟩ :=
    (Pool.row?_eq_some_iff hp).2 ⟨(Pool.owned?_eq_some_iff hp).1 howned, rfl⟩
  simp only [release, hpool, hrow]
  by_cases h : p.carriesElsewhere a (tokens s.drawn) = true
  · rw [hold_of_clash (.free (tokens s.drawn)) h, if_pos h]
    rfl
  · rw [hold_of_new (.free (tokens s.drawn)) (Bool.eq_false_iff.2 h), if_neg h]
    rfl

end Changes

end Ipam.Store
