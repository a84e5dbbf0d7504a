import Ipam.Pool.Store
import Ipam.Proofs.Net.Range

/-!
# The rows of one pool

* `Pool.Valid` — what is true of every pool that the store keeps: its rows are the addresses of its
  range text, each once and lowest first, and no two rows carry one reference.
* `Pool.owned?_eq_some_iff`, `Pool.row?_eq_some_iff`, `Pool.lowestFree?_eq_some_iff` — what the
  views of a valid pool answer, as statements about its rows.
* **`Pool.setHolder_valid`** — a pool stays valid when a row gets a holder whose reference no other
  row carries, which is exactly what `Pool.hold` checks.
* `Pool.fresh_valid` — a new pool is valid, whatever tokens it was given.
-/

namespace Ipam.Pool

/-- A pool as the store keeps it. -/
structure Valid (p : Pool) : Prop where
  /-- The rows are the addresses of the range text. -/
  covers : Range.expand p.range = .ok (p.rows.map (·.address))
  /-- Owners of bound rows and tokens of free ones are all different. -/
  distinct : (p.rows.map (·.holder.reference)).Nodup

variable {p : Pool}

/-! ## Rows are determined by their addresses and by their references -/

lemma Valid.ascending (hp : p.Valid) : (p.rows.map (·.address)).Pairwise (· < ·) :=
  Range.expand_ascending hp.covers

lemma Valid.eq_of_address (hp : p.Valid) {x y : Row} (hx : x ∈ p.rows) (hy : y ∈ p.rows)
    (h : x.address = y.address) : x = y :=
  List.inj_on_of_nodup_map (Address.nodup_of_ascending hp.ascending) hx hy h

lemma Valid.eq_of_reference (hp : p.Valid) {x y : Row} (hx : x ∈ p.rows) (hy : y ∈ p.rows)
    (h : x.holder.reference = y.holder.reference) : x = y :=
  List.inj_on_of_nodup_map hp.distinct hx hy h

/-! ## Views -/

lemma row?_eq_some_iff (hp : p.Valid) {a : Address} {row : Row} :
    p.row? a = some row ↔ row ∈ p.rows ∧ row.address = a := by
  constructor
  · intro h
    exact ⟨List.mem_of_find?_eq_some h, by simpa using List.find?_some h⟩
  · rintro ⟨hmem, rfl⟩
    cases hfind : p.row? row.address with
    | none =>
        have hnone := List.find?_eq_none.1 hfind row hmem
        simp at hnone
    | some other =>
        have hother : other.address = row.address := by simpa using List.find?_some hfind
        exact congrArg some (hp.eq_of_address (List.mem_of_find?_eq_some hfind) hmem hother)

/-- **A reference owns an address exactly if the row of the address is bound to it.** -/
theorem owned?_eq_some_iff (hp : p.Valid) {reference : String} {a : Address} :
    p.owned? reference = some a ↔ ⟨a, .bound reference⟩ ∈ p.rows := by
  rw [owned?, Option.map_eq_some_iff]
  constructor
  · rintro ⟨row, hfind, rfl⟩
    have hholder : row.holder = .bound reference := by simpa using List.find?_some hfind
    rw [← hholder]
    exact List.mem_of_find?_eq_some hfind
  · intro hmem
    cases hfind : p.rows.find? (·.holder = .bound reference) with
    | none =>
        have hnone := List.find?_eq_none.1 hfind _ hmem
        simp at hnone
    | some row =>
        have hholder : row.holder = .bound reference := by simpa using List.find?_some hfind
        have heq : row = ⟨a, .bound reference⟩ :=
          hp.eq_of_reference (List.mem_of_find?_eq_some hfind) hmem (by rw [hholder])
        exact ⟨row, rfl, by rw [heq]⟩

lemma owned?_eq_none_iff {reference : String} :
    p.owned? reference = none ↔ ∀ row ∈ p.rows, row.holder ≠ .bound reference := by
  simp [owned?]

/-- The lowest free address is that of a free row, and no free row has a lower one. -/
lemma lowestFree?_eq_some_iff (hp : p.Valid) {a : Address} :
    p.lowestFree? = some a ↔
      (∃ token, ⟨a, .free token⟩ ∈ p.rows) ∧
        ∀ row ∈ p.rows, row.holder.isFree = true → a ≤ row.address := by
  have hsorted : p.rows.Pairwise (fun x y => x.address < y.address) :=
    List.pairwise_map.1 hp.ascending
  rw [lowestFree?, Option.map_eq_some_iff]
  constructor
  · rintro ⟨row, hfind, rfl⟩
    obtain ⟨hfree, before, after, hrows, hbefore⟩ := List.find?_eq_some_iff_append.1 hfind
    refine ⟨?_, fun other hother hfree' => ?_⟩
    · obtain ⟨address, token | reference⟩ := row
      · exact ⟨token, List.mem_of_find?_eq_some hfind⟩
      · simp [Holder.isFree] at hfree
    · rw [hrows] at hother hsorted
      rcases List.mem_append.1 hother with hmem | hmem
      · have hheld := hbefore other hmem
        rw [hfree'] at hheld
        simp at hheld
      · rcases List.mem_cons.1 hmem with rfl | hmem
        · exact Nat.le_refl _
        · have htail := (List.pairwise_append.1 hsorted).2.1
          exact Nat.le_of_lt ((List.pairwise_cons.1 htail).1 other hmem)
  · rintro ⟨⟨token, hmem⟩, hleast⟩
    cases hfind : p.rows.find? (·.holder.isFree) with
    | none =>
        have hnone := List.find?_eq_none.1 hfind _ hmem
        simp [Holder.isFree] at hnone
    | some row =>
        obtain ⟨hfree, before, after, hrows, hbefore⟩ := List.find?_eq_some_iff_append.1 hfind
        have hrow : a ≤ row.address := hleast row (List.mem_of_find?_eq_some hfind) hfree
        rw [hrows] at hmem hsorted
        refine ⟨row, rfl, ?_⟩
        rcases List.mem_append.1 hmem with hmem | hmem
        · have hheld := hbefore _ hmem
          simp [Holder.isFree] at hheld
        · rcases List.mem_cons.1 hmem with rfl | hmem
          · rfl
          · have htail := (List.pairwise_append.1 hsorted).2.1
            have hlt := (List.pairwise_cons.1 htail).1 _ hmem
            exact absurd hrow (Nat.not_le_of_gt hlt)

lemma lowestFree?_eq_none_iff :
    p.lowestFree? = none ↔ ∀ row ∈ p.rows, row.holder.isFree = false := by
  simp [lowestFree?]

lemma carriesElsewhere_eq_false_iff {a : Address} {reference : String} :
    p.carriesElsewhere a reference = false ↔
      ∀ row ∈ p.rows, row.address ≠ a → row.holder.reference ≠ reference := by
  simp [carriesElsewhere]

/-! ## Another holder for one row -/

@[simp] lemma setHolder_range (p : Pool) (a : Address) (holder : Holder) :
    (p.setHolder a holder).range = p.range := rfl

@[simp] lemma map_address_setHolder (p : Pool) (a : Address) (holder : Holder) :
    (p.setHolder a holder).rows.map (·.address) = p.rows.map (·.address) := by
  simp only [setHolder, List.map_map]
  refine List.map_congr_left fun row _ => ?_
  simp only [Function.comp_apply]
  split_ifs <;> rfl

lemma mem_setHolder {a : Address} {holder : Holder} {row : Row} :
    row ∈ (p.setHolder a holder).rows ↔
      (row ∈ p.rows ∧ row.address ≠ a) ∨
        (row = ⟨a, holder⟩ ∧ ∃ old ∈ p.rows, old.address = a) := by
  simp only [setHolder, List.mem_map]
  constructor
  · rintro ⟨old, hold, rfl⟩
    split_ifs with heq
    · subst heq
      exact .inr ⟨rfl, old, hold, rfl⟩
    · exact .inl ⟨hold, heq⟩
  · rintro (⟨hmem, hne⟩ | ⟨rfl, old, hold, rfl⟩)
    · exact ⟨row, hmem, if_neg hne⟩
    · exact ⟨old, hold, if_pos rfl⟩

/-- A row is not changed by another holder of another row. -/
lemma row?_setHolder_of_ne {p : Pool} {a b : Address} (holder : Holder) (h : b ≠ a) :
    (p.setHolder a holder).row? b = p.row? b := by
  simp only [row?, setHolder, List.find?_map]
  have htest : (fun row : Row => decide (row.address = b)) ∘
      (fun row => if row.address = a then { row with holder } else row)
      = fun row => decide (row.address = b) := by
    funext row
    simp only [Function.comp_apply]
    split_ifs <;> rfl
  rw [htest]
  cases hfind : p.rows.find? fun row => row.address = b with
  | none => rfl
  | some row =>
      have hrow : row.address = b := by simpa using List.find?_some hfind
      rw [Option.map_some, if_neg (hrow ▸ h)]

/-- **A row may get any holder whose reference no other row carries.** -/
theorem setHolder_valid (hp : p.Valid) {a : Address} (holder : Holder)
    (h : p.carriesElsewhere a holder.reference = false) : (p.setHolder a holder).Valid where
  covers := by
    rw [map_address_setHolder, setHolder_range]
    exact hp.covers
  distinct := by
    rw [carriesElsewhere_eq_false_iff] at h
    simp only [setHolder, List.map_map]
    refine List.Nodup.map_on ?_ (List.Nodup.of_map _ hp.distinct)
    intro x hx y hy heq
    simp only [Function.comp_apply] at heq
    split_ifs at heq with hxa hya hya
    · exact hp.eq_of_address hx hy (hxa.trans hya.symm)
    · exact absurd heq.symm (h y hy hya)
    · exact absurd heq (h x hx hxa)
    · exact hp.eq_of_reference hx hy heq

/-- Once a free row is bound, its reference owns it, and all other references own what they owned.
-/
theorem owned?_bind (hp : p.Valid) {a : Address} {token reference : String}
    (hfree : ⟨a, .free token⟩ ∈ p.rows) (h : p.carriesElsewhere a reference = false)
    (hnone : p.owned? reference = none) (other : String) :
    (p.setHolder a (.bound reference)).owned? other
      = if other = reference then some a else p.owned? other := by
  have hvalid := setHolder_valid hp (.bound reference) h
  apply Option.ext
  intro b
  rw [owned?_eq_some_iff hvalid, mem_setHolder]
  split_ifs with heq
  · subst heq
    constructor
    · rintro (⟨hmem, -⟩ | ⟨hrow, -⟩)
      · exact absurd rfl (owned?_eq_none_iff.1 hnone _ hmem)
      · cases hrow
        rfl
    · intro hb
      cases hb
      exact .inr ⟨rfl, _, hfree, rfl⟩
  · rw [owned?_eq_some_iff hp]
    constructor
    · rintro (⟨hmem, -⟩ | ⟨hrow, -⟩)
      · exact hmem
      · cases hrow
        exact absurd rfl heq
    · intro hmem
      refine .inl ⟨hmem, ?_⟩
      rintro rfl
      cases hp.eq_of_address hmem hfree rfl

/-- Once a bound row is freed, its reference owns nothing, and all others own what they owned. -/
theorem owned?_free (hp : p.Valid) {a : Address} {token reference : String}
    (howned : p.owned? reference = some a) (h : p.carriesElsewhere a token = false)
    (other : String) :
    (p.setHolder a (.free token)).owned? other
      = if other = reference then none else p.owned? other := by
  have hrow := (owned?_eq_some_iff hp).1 howned
  have hvalid := setHolder_valid hp (.free token) h
  apply Option.ext
  intro b
  rw [owned?_eq_some_iff hvalid, mem_setHolder]
  split_ifs with heq
  · subst heq
    simp only [iff_false]
    rintro (⟨hmem, hne⟩ | ⟨hbad, -⟩)
    · exact hne (congrArg Row.address (hp.eq_of_reference hmem hrow rfl))
    · cases hbad
  · rw [owned?_eq_some_iff hp]
    constructor
    · rintro (⟨hmem, -⟩ | ⟨hbad, -⟩)
      · exact hmem
      · cases hbad
    · intro hmem
      refine .inl ⟨hmem, ?_⟩
      rintro rfl
      cases hp.eq_of_address hmem hrow rfl
      exact heq rfl

/-! ## New pools -/

/-- On a sorted list it is enough to compare neighbours. -/
lemma nodup_of_neighbours : ∀ {texts : List String}, texts.Pairwise (· ≤ ·) →
    ((texts.zip texts.tail).all fun (a, b) => a ≠ b) = true → texts.Nodup
  | [], _, _ => List.nodup_nil
  | [a], _, _ => List.nodup_singleton a
  | a :: b :: rest, hsorted, hne => by
      obtain ⟨ha, hrest⟩ := List.pairwise_cons.1 hsorted
      simp only [List.tail_cons, List.zip_cons_cons, List.all_cons, Bool.and_eq_true,
        decide_eq_true_eq] at hne
      refine List.nodup_cons.2 ⟨fun hmem => ?_, nodup_of_neighbours hrest hne.2⟩
      rcases List.mem_cons.1 hmem with rfl | hmem
      · exact hne.1 rfl
      · have hba : b ≤ a := (List.pairwise_cons.1 hrest).1 a hmem
        exact hne.1 (String.le_antisymm (ha b List.mem_cons_self) hba)

lemma nodup_of_allDistinct {texts : List String} (h : allDistinct texts = true) :
    texts.Nodup := by
  have hsorted : (texts.mergeSort fun a b => decide (a ≤ b)).Pairwise
      fun a b => decide (a ≤ b) = true :=
    List.pairwise_mergeSort
    (fun a b c hab hbc => by
      simp only [decide_eq_true_eq] at *
      exact String.le_trans hab hbc)
    (fun a b => by
      simp only [Bool.or_eq_true, decide_eq_true_eq]
      exact String.le_total a b) texts
  exact (List.mergeSort_perm texts _).nodup_iff.1
    (nodup_of_neighbours (hsorted.imp fun hab => of_decide_eq_true hab) h)

lemma neighbours_of_nodup : ∀ {texts : List String}, texts.Nodup →
    ((texts.zip texts.tail).all fun (a, b) => a ≠ b) = true
  | [], _ => rfl
  | [_], _ => rfl
  | a :: b :: rest, h => by
      obtain ⟨ha, hrest⟩ := List.nodup_cons.1 h
      have hne : a ≠ b := fun heq => ha (heq ▸ List.mem_cons_self)
      rw [List.tail_cons, List.zip_cons_cons, List.all_cons, Bool.and_eq_true]
      exact ⟨decide_eq_true hne, neighbours_of_nodup hrest⟩

lemma allDistinct_of_nodup {texts : List String} (h : texts.Nodup) : allDistinct texts = true :=
  neighbours_of_nodup ((List.mergeSort_perm texts _).nodup_iff.2 h)

/-- With tokens that never repeat there always is a new pool. -/
lemma exists_fresh {tokens : TokenSource} (h : Function.Injective tokens) (range : String)
    (addresses : List Address) : ∃ p, fresh range addresses tokens = .ok p := by
  rw [fresh, if_pos (allDistinct_of_nodup (List.nodup_range.map h))]
  exact ⟨_, rfl⟩

/-- The rows of a new pool, one for each address, with a token each. -/
lemma fresh_eq_ok {range : String} {addresses : List Address} {tokens : TokenSource}
    (h : fresh range addresses tokens = .ok p) :
    p.range = range ∧ p.rows.map (·.address) = addresses ∧
      p.rows.map (·.holder) = (List.range addresses.length).map (.free <| tokens ·) ∧
      ((List.range addresses.length).map tokens).Nodup := by
  rw [fresh] at h
  split_ifs at h with hdistinct
  cases h
  refine ⟨rfl, ?_, ?_, nodup_of_allDistinct hdistinct⟩
  · rw [List.map_zipWith]
    exact List.ext_getElem (by simp) (by simp)
  · rw [List.map_zipWith]
    exact List.ext_getElem (by simp) (by simp)

/-- **A new pool is valid.**  Were a token drawn twice, there would be no new pool. -/
theorem fresh_valid {range : String} {addresses : List Address} {tokens : TokenSource}
    (hexpand : Range.expand range = .ok addresses) (h : fresh range addresses tokens = .ok p) :
    p.Valid := by
  obtain ⟨rfl, rfl, hholders, hnodup⟩ := fresh_eq_ok h
  refine ⟨hexpand, ?_⟩
  have heq : p.rows.map (·.holder.reference)
      = (List.range (p.rows.map (·.address)).length).map tokens := by
    calc p.rows.map (·.holder.reference)
        = (p.rows.map (·.holder)).map Holder.reference := by rw [List.map_map]; rfl
      _ = _ := by rw [hholders, List.map_map]; rfl
  rw [heq]
  exact hnodup

lemma fresh_free {range : String} {addresses : List Address} {tokens : TokenSource}
    (h : fresh range addresses tokens = .ok p) {row : Row} (hrow : row ∈ p.rows) :
    ∃ i < addresses.length, row.holder = .free (tokens i) := by
  obtain ⟨-, -, hholders, -⟩ := fresh_eq_ok h
  have hmem : row.holder ∈ p.rows.map (·.holder) := List.mem_map_of_mem hrow
  rw [hholders, List.mem_map] at hmem
  obtain ⟨i, hi, heq⟩ := hmem
  exact ⟨i, List.mem_range.1 hi, heq.symm⟩

end Ipam.Pool
