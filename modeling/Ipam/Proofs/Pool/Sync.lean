import Ipam.Proofs.Pool.Store

/-!
# Adjusting the pools to a configuration

* `Store.Synced` — the store after an adjustment, said label by label: a pool with an unchanged
  range text is untouched, any other configured label has a new pool without bindings, and no other
  label has a pool.
* **`Store.synced_of_sync`** — adjusting a store leads to such a store, or to an error.

New pools are installed one after the other; `Installed` is what the installation of a list of
pools has led to, and the induction over the list is done once, for it.
-/

namespace Ipam.Store

open Pool (Holder Row TokenSource)

variable {tokens : TokenSource} {s : Store} {desired : Table String}

/-- A pool as it is installed: valid, free, and with tokens drawn for it. -/
structure NewPool (tokens : TokenSource) (first last : Nat) (range : String) (p : Pool) : Prop where
  range : p.range = range
  valid : p.Valid
  free : ∀ row ∈ p.rows, ∃ i, first ≤ i ∧ i < last ∧ row.holder = .free (tokens i)

lemma NewPool.mono {first last first' last' : Nat} {range : String} {p : Pool}
    (h : NewPool tokens first last range p) (hfirst : first' ≤ first) (hlast : last ≤ last') :
    NewPool tokens first' last' range p where
  range := h.range
  valid := h.valid
  free := by
    intro row hrow
    obtain ⟨i, hlo, hhi, heq⟩ := h.free row hrow
    exact ⟨i, hfirst.trans hlo, hhi.trans_le hlast, heq⟩

lemma NewPool.owned?_eq_none {first last : Nat} {range : String} {p : Pool}
    (h : NewPool tokens first last range p) (reference : String) : p.owned? reference = none := by
  rw [Pool.owned?_eq_none_iff]
  intro row hrow hbound
  obtain ⟨i, -, -, hfree⟩ := h.free row hrow
  rw [hfree] at hbound
  cases hbound

/-! ## Expanding every range -/

/-- A configuration expands to its own labels and range texts, with the addresses of each text. -/
lemma expandAll_eq_ok {pools : List (String × String × List Address)}
    (h : expandAll desired = .ok pools) :
    pools.map (fun pool => (pool.1, pool.2.1)) = desired.entries ∧
      ∀ pool ∈ pools, Range.expand pool.2.1 = .ok pool.2.2 := by
  rw [expandAll] at h
  generalize desired.entries = entries at h ⊢
  induction entries generalizing pools with
  | nil =>
      cases h
      simp
  | cons entry rest ih =>
      simp only [List.mapM_cons, bind, Except.bind, pure, Except.pure] at h
      cases hexpand : Range.expand entry.2 with
      | error e => simp [hexpand] at h
      | ok addresses =>
          simp only [hexpand] at h
          split at h
          · cases h
          · rename_i tail htail
            cases h
            obtain ⟨hmap, hall⟩ := ih htail
            refine ⟨by simp [hmap], fun pool hpool => ?_⟩
            rcases List.mem_cons.1 hpool with rfl | hpool
            · exact hexpand
            · exact hall pool hpool

/-- A configuration expands if all of its range texts do. -/
lemma expandAll_of_expand {addresses : String → List Address}
    (h : ∀ label range, desired.get? label = some range →
      Range.expand range = .ok (addresses label)) :
    expandAll desired
      = .ok (desired.entries.map fun entry => (entry.1, entry.2, addresses entry.1)) := by
  refine desired.mapM_entries fun label range hlabel => ?_
  simp only [h label range hlabel]
  rfl

/-! ## Installing pools -/

lemma install_of_hasPool {pool : String × String × List Address} (h : s.hasPool pool.1 = true) :
    install tokens s pool = .ok s := by
  rw [install, if_pos h]

/-- A label without a pool gets a new one. -/
lemma install_eq_ok {pool : String × String × List Address} {s' : Store}
    (hexpand : Range.expand pool.2.1 = .ok pool.2.2) (hnone : s.pools.get? pool.1 = none)
    (h : install tokens s pool = .ok s') :
    ∃ p, NewPool tokens s.drawn s'.drawn pool.2.1 p ∧
      s' = { s.setPool pool.1 p with drawn := s'.drawn } ∧ s.drawn ≤ s'.drawn := by
  have hpool : ¬ s.hasPool pool.1 = true := by
    rw [hasPool_iff]
    simp [hnone]
  simp only [install, if_neg hpool, bind, Except.bind] at h
  split at h
  · cases h
  · rename_i p hfresh
    cases h
    refine ⟨p, ⟨(Pool.fresh_eq_ok hfresh).1, Pool.fresh_valid hexpand hfresh, ?_⟩, rfl, ?_⟩
    · intro row hrow
      obtain ⟨i, hi, heq⟩ := Pool.fresh_free hfresh hrow
      exact ⟨s.drawn + i, by omega, by simpa using hi, heq⟩
    · exact Nat.le_add_right _ _

/-- With tokens that never repeat every pool is installed. -/
lemma exists_install (h : Function.Injective tokens) (s : Store)
    (pool : String × String × List Address) : ∃ s', install tokens s pool = .ok s' := by
  rw [install]
  split_ifs
  · exact ⟨s, rfl⟩
  · have hinj : Function.Injective fun i => tokens (s.drawn + i) := fun i j heq => by
      simpa using h heq
    obtain ⟨p, hfresh⟩ := Pool.exists_fresh hinj pool.2.1 pool.2.2
    simp only [hfresh]
    exact ⟨_, rfl⟩

/-- What the installation of some pools has led to. -/
structure Installed (tokens : TokenSource) (s : Store)
    (pools : List (String × String × List Address)) (s' : Store) : Prop where
  kept : ∀ label p, s.pools.get? label = some p → s'.pools.get? label = some p
  new : ∀ pool ∈ pools, s.pools.get? pool.1 = none →
    ∃ p, s'.pools.get? pool.1 = some p ∧ NewPool tokens s.drawn s'.drawn pool.2.1 p
  absent : ∀ label, s.pools.get? label = none → label ∉ pools.map Prod.fst →
    s'.pools.get? label = none
  dns : s'.dns = s.dns
  drawn : s.drawn ≤ s'.drawn

/-- The labels are different, so a pool that was installed is not met again. -/
lemma installed_of_foldlM : ∀ {pools : List (String × String × List Address)} {s s' : Store},
    (∀ pool ∈ pools, Range.expand pool.2.1 = .ok pool.2.2) → (pools.map Prod.fst).Nodup →
    pools.foldlM (install tokens) s = .ok s' → Installed tokens s pools s'
  | [], s, s', _, _, h => by
      cases h
      exact ⟨fun _ _ hp => hp, by simp, fun _ hp _ => hp, rfl, Nat.le_refl _⟩
  | pool :: rest, s, s', hexpand, hnodup, h => by
      obtain ⟨hhead, hrest⟩ := List.forall_mem_cons.1 hexpand
      obtain ⟨hnotin, hnodup⟩ := List.nodup_cons.1 hnodup
      simp only [List.foldlM_cons, bind, Except.bind] at h
      split at h
      · cases h
      · rename_i mid hinstall
        have ih := installed_of_foldlM hrest hnodup h
        cases hlabel : s.pools.get? pool.1 with
        | some p =>
            rw [install_of_hasPool (hasPool_iff.2 ⟨p, hlabel⟩)] at hinstall
            cases hinstall
            refine ⟨ih.kept, ?_, ?_, ih.dns, ih.drawn⟩
            · intro other hother hnone
              rcases List.mem_cons.1 hother with rfl | hmem
              · rw [hlabel] at hnone
                cases hnone
              · exact ih.new other hmem hnone
            · intro label hnone hlabel
              simp only [List.map_cons, List.mem_cons, not_or] at hlabel
              exact ih.absent label hnone hlabel.2
        | none =>
            obtain ⟨p, hnew, hmid, hdrawn⟩ := install_eq_ok hhead hlabel hinstall
            have hget : ∀ label, mid.pools.get? label
                = if pool.1 = label then some p else s.pools.get? label := by
              intro label
              rw [hmid]
              exact pools_setPool s pool.1 p label
            refine ⟨?_, ?_, ?_, ?_, hdrawn.trans ih.drawn⟩
            · intro label q hq
              have hne : pool.1 ≠ label := by
                rintro rfl
                rw [hlabel] at hq
                cases hq
              exact ih.kept label q (by rw [hget, if_neg hne, hq])
            · intro other hother hnone
              rcases List.mem_cons.1 hother with rfl | hmem
              · exact ⟨p, ih.kept _ _ (by rw [hget, if_pos rfl]),
                  hnew.mono (Nat.le_refl _) ih.drawn⟩
              · have hne : pool.1 ≠ other.1 := fun heq =>
                  hnotin (heq ▸ List.mem_map_of_mem hmem)
                obtain ⟨q, hq, hqnew⟩ := ih.new other hmem (by rw [hget, if_neg hne, hnone])
                exact ⟨q, hq, hqnew.mono hdrawn (Nat.le_refl _)⟩
            · intro label hnone hnotin
              simp only [List.map_cons, List.mem_cons, not_or] at hnotin
              exact ih.absent label (by rw [hget, if_neg (Ne.symm hnotin.1), hnone]) hnotin.2
            · rw [ih.dns, hmid]
              rfl

/-! ## The adjustment -/

/-- The store `s'` after the pools of `s` were adjusted to a configuration. -/
structure Synced (tokens : TokenSource) (s : Store) (desired : Table String) (s' : Store) :
    Prop where
  untouched : ∀ label p, s.pools.get? label = some p → desired.get? label = some p.range →
    s'.pools.get? label = some p
  renewed : ∀ label range, desired.get? label = some range →
    s.ranges.get? label ≠ some range →
    ∃ p, s'.pools.get? label = some p ∧ NewPool tokens s.drawn s'.drawn range p
  dropped : ∀ label, desired.get? label = none → s'.pools.get? label = none
  dns : s'.dns = (s.dropStale desired).dns
  drawn : s.drawn ≤ s'.drawn

lemma get?_dropStale (s : Store) (desired : Table String) (label : String) :
    (s.dropStale desired).pools.get? label = (s.pools.get? label).filter (isKept desired label) :=
  Table.get?_filter _ _ _

/-- A configured label that does not keep its pool has none after the stale pools were dropped. -/
lemma get?_dropStale_eq_none {label range : String} (hlabel : desired.get? label = some range)
    (hrange : s.ranges.get? label ≠ some range) :
    (s.dropStale desired).pools.get? label = none := by
  rw [get?_ranges] at hrange
  rw [get?_dropStale]
  cases hpool : s.pools.get? label with
  | none => rfl
  | some p =>
      have hne : p.range ≠ range := by simpa [hpool] using hrange
      simp [isKept, hlabel, Ne.symm hne]

/-- **A successful adjustment does what `Synced` says.** -/
theorem synced_of_sync {report : SyncReport} {s' : Store}
    (h : s.sync tokens desired = .ok (report, s')) : Synced tokens s desired s' := by
  rw [sync] at h
  split at h
  · cases h
  · rename_i pools hexpand
    simp only [bind, Except.bind] at h
    split at h
    · cases h
    · rename_i installed hfold
      cases h
      obtain ⟨hentries, hranges⟩ := expandAll_eq_ok hexpand
      have hnames : pools.map Prod.fst = desired.names := by
        rw [Table.names, ← hentries, List.map_map]
        rfl
      have hnodup : (pools.map Prod.fst).Nodup := by
        rw [hnames]
        exact desired.nodup_names
      have hinst := installed_of_foldlM hranges hnodup hfold
      refine ⟨?_, ?_, ?_, hinst.dns, hinst.drawn⟩
      · intro label p hp hlabel
        refine hinst.kept label p ?_
        rw [get?_dropStale, hp]
        simp [isKept, hlabel]
      · intro label range hlabel hrange
        have hmem : (label, range) ∈ pools.map fun pool => (pool.1, pool.2.1) := by
          rw [hentries]
          exact Table.mem_entries_iff.2 hlabel
        obtain ⟨pool, hpool, heq⟩ := List.mem_map.1 hmem
        cases heq
        exact hinst.new pool hpool (get?_dropStale_eq_none hlabel hrange)
      · intro label hlabel
        refine hinst.absent label ?_ ?_
        · rw [get?_dropStale]
          cases s.pools.get? label <;> simp [isKept, hlabel]
        · rw [hnames, Table.mem_names_iff]
          simp [hlabel]

/-- **An adjustment succeeds** if the range texts expand and tokens never repeat. -/
theorem exists_sync (hinj : Function.Injective tokens) {addresses : String → List Address}
    (h : ∀ label range, desired.get? label = some range →
      Range.expand range = .ok (addresses label)) :
    ∃ report s', s.sync tokens desired = .ok (report, s') := by
  have hfold : ∀ (pools : List (String × String × List Address)) (s : Store),
      ∃ s', pools.foldlM (install tokens) s = .ok s' := by
    intro pools
    induction pools with
    | nil => exact fun s => ⟨s, rfl⟩
    | cons pool rest ih =>
        intro s
        obtain ⟨mid, hmid⟩ := exists_install hinj s pool
        obtain ⟨s', hs'⟩ := ih mid
        exact ⟨s', by rw [List.foldlM_cons, hmid]; exact hs'⟩
  obtain ⟨s', hs'⟩ := hfold (desired.entries.map fun entry => (entry.1, entry.2, addresses entry.1))
    (s.dropStale desired)
  refine ⟨s.reportOf desired, s', ?_⟩
  rw [sync, expandAll_of_expand h]
  simp only [hs']
  rfl

/-! ## What an adjustment keeps -/

section Synced

variable {s' : Store}

/-- After an adjustment a label has a pool exactly if it is configured. -/
lemma Synced.get?_eq_none_iff (h : Synced tokens s desired s') (label : String) :
    s'.pools.get? label = none ↔ desired.get? label = none := by
  refine ⟨fun hnone => ?_, h.dropped label⟩
  cases hlabel : desired.get? label with
  | none => rfl
  | some range =>
      by_cases hrange : s.ranges.get? label = some range
      · rw [get?_ranges, Option.map_eq_some_iff] at hrange
        obtain ⟨p, hp, rfl⟩ := hrange
        rw [h.untouched label p hp hlabel] at hnone
        cases hnone
      · obtain ⟨p, hp, -⟩ := h.renewed label range hlabel hrange
        rw [hp] at hnone
        cases hnone

/-- Every pool after an adjustment was there before, or is new. -/
lemma Synced.cases (h : Synced tokens s desired s') {label : String} {p : Pool}
    (hp : s'.pools.get? label = some p) :
    s.pools.get? label = some p ∨ NewPool tokens s.drawn s'.drawn p.range p := by
  cases hlabel : desired.get? label with
  | none =>
      rw [h.dropped label hlabel] at hp
      cases hp
  | some range =>
      by_cases hrange : s.ranges.get? label = some range
      · rw [get?_ranges, Option.map_eq_some_iff] at hrange
        obtain ⟨q, hq, rfl⟩ := hrange
        rw [h.untouched label q hq hlabel] at hp
        cases hp
        exact .inl hq
      · obtain ⟨q, hq, hnew⟩ := h.renewed label range hlabel hrange
        rw [hq] at hp
        cases hp
        exact .inr (hnew.range ▸ hnew)

lemma Synced.valid (h : Synced tokens s desired s') (hs : s.Valid) : s'.Valid := by
  intro label p hp
  rcases h.cases hp with hold | hnew
  · exact hs label p hold
  · exact hnew.valid

lemma Synced.labelled (h : Synced tokens s desired s')
    (hdesired : ∀ label range, desired.get? label = some range →
      Pool.isBlankText label = false) : s'.Labelled := by
  intro label p hp
  cases hlabel : desired.get? label with
  | none =>
      rw [h.dropped label hlabel] at hp
      cases hp
  | some range => exact hdesired label range hlabel

/-- **An adjustment keeps exactly the bindings of the pools whose range texts stay.** -/
theorem Synced.lookup_eq_some_iff (h : Synced tokens s desired s') {label reference : String}
    {a : Address} :
    s'.lookup label reference = some a ↔
      s.lookup label reference = some a ∧ desired.get? label = s.ranges.get? label := by
  rw [get?_ranges]
  cases hlabel : desired.get? label with
  | none =>
      rw [lookup_of_no_pool (h.dropped label hlabel)]
      cases hpool : s.pools.get? label with
      | none => simp [lookup_of_no_pool hpool]
      | some p => simp
  | some range =>
      by_cases hrange : s.ranges.get? label = some range
      · rw [get?_ranges, Option.map_eq_some_iff] at hrange
        obtain ⟨p, hp, rfl⟩ := hrange
        rw [Store.lookup_eq (h.untouched label p hp hlabel), Store.lookup_eq hp, hp]
        simp
      · obtain ⟨p, hp, hnew⟩ := h.renewed label range hlabel hrange
        rw [get?_ranges] at hrange
        rw [Store.lookup_eq hp, hnew.owned?_eq_none]
        simp [Ne.symm hrange]

end Synced

end Ipam.Store
