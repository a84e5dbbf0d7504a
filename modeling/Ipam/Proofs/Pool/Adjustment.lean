import Ipam.Proofs.Coordinator.Ownership
import Ipam.Proofs.Pool.Changes

/-!
# Adjusting the pools, exactly

What an adjustment of the pools to a configuration reports, what it leaves, and when it fails.

* `Store.Adjusted` — a report and a store that fit a configuration, in terms of what the store
  answers before and after.
* `Store.adjusted_of_sync` — this is what an adjustment leads to.
* `Store.sync_of_ranges` — a store that has the configured pools already is left as it is.
* **`Store.sync_reconciles`** — an adjustment is exact, it is done as a whole or not at all, and to
  do it again does nothing.
-/

namespace Ipam.Store

open Pool (TokenSource)

variable {tokens : TokenSource} {s s' : Store} {desired : Table String} {report : SyncReport}

/-! ## What an adjustment is to do -/

/-- Every range text of a configuration can be expanded. -/
def Expandable (desired : Table String) : Prop :=
  ∀ label range, desired.get? label = some range → ∃ addresses, Range.expand range = .ok addresses

/-- The rows of a label are those of a new pool: the addresses of the range text, all of them free,
and no two of them with the same token. -/
structure IsNew (s : Store) (label range : String) : Prop where
  covers : Range.expand range = .ok ((s.entries label).map (·.row.address))
  free : ∀ entry ∈ s.entries label, entry.row.holder.isFree = true
  distinct : ((s.entries label).map (·.row.holder.reference)).Nodup

/-- The store `s'` is `s` adjusted to a configuration, and the report says what was done. -/
structure Adjusted (s : Store) (desired : Table String) (report : SyncReport) (s' : Store) :
    Prop where
  /-- The pools are the configured ones. -/
  ranges : s'.ranges = desired
  /-- A pool is kept exactly if it was there with the same range text. -/
  kept : ∀ label, label ∈ report.kept ↔
    ∃ range, s.ranges.get? label = some range ∧ desired.get? label = some range
  /-- A pool is replaced exactly if it was there with another range text. -/
  replaced : ∀ label, label ∈ report.replaced ↔
    ∃ old new, s.ranges.get? label = some old ∧ desired.get? label = some new ∧ old ≠ new
  /-- A pool is removed exactly if it was there and is not configured. -/
  removed : ∀ label, label ∈ report.removed ↔
    (∃ old, s.ranges.get? label = some old) ∧ desired.get? label = none
  /-- A pool is added exactly if it was not there and is configured. -/
  added : ∀ label, label ∈ report.added ↔
    s.ranges.get? label = none ∧ ∃ new, desired.get? label = some new
  /-- The rows of a pool that is kept stay as they are. -/
  untouched : ∀ label ∈ report.kept, s'.entries label = s.entries label
  /-- Every other configured pool is new. -/
  renewed : ∀ label range, desired.get? label = some range → label ∉ report.kept →
    s'.IsNew label range
  /-- A pool that is removed keeps no row. -/
  gone : ∀ label ∈ report.removed, s'.entries label = []
  /-- A pool that is replaced or removed keeps no DNS record; all other records stay. -/
  dns : ∀ label, s'.dnsRecords label
    = if label ∈ report.replaced ++ report.removed then [] else s.dnsRecords label
  /-- Labels are reported in increasing order. -/
  ascending : ∀ labels ∈ [report.kept, report.replaced, report.removed, report.added],
    labels.Pairwise (· < ·)
  /-- Every pool that was there is reported once. -/
  before : (report.kept ++ report.replaced ++ report.removed).Perm s.ranges.names
  /-- Every configured pool is reported once. -/
  after : (report.kept ++ report.replaced ++ report.added).Perm desired.names

/-! ## The report -/

lemma report_of_sync (h : s.sync tokens desired = .ok (report, s')) :
    report = s.reportOf desired := by
  rw [sync] at h
  split at h
  · cases h
  · simp only [bind, Except.bind] at h
    split at h
    · cases h
    · cases h
      rfl

lemma mem_kept {label : String} : label ∈ (s.reportOf desired).kept ↔
    ∃ range, s.ranges.get? label = some range ∧ desired.get? label = some range := by
  simp only [reportOf, Table.mem_names_filter, isKept, decide_eq_true_eq, get?_ranges,
    Option.map_eq_some_iff]
  constructor
  · rintro ⟨p, hp, hlabel⟩
    exact ⟨p.range, ⟨p, hp, rfl⟩, hlabel⟩
  · rintro ⟨_, ⟨p, hp, rfl⟩, hlabel⟩
    exact ⟨p, hp, hlabel⟩

lemma mem_replaced {label : String} : label ∈ (s.reportOf desired).replaced ↔
    ∃ old new, s.ranges.get? label = some old ∧ desired.get? label = some new ∧ old ≠ new := by
  simp only [reportOf, Table.mem_names_filter, isKept, Bool.and_eq_true, Bool.not_eq_true',
    decide_eq_false_iff_not, Table.contains_iff, get?_ranges, Option.map_eq_some_iff]
  constructor
  · rintro ⟨p, hp, ⟨new, hnew⟩, hne⟩
    exact ⟨p.range, new, ⟨p, hp, rfl⟩, hnew, fun heq => hne (heq ▸ hnew)⟩
  · rintro ⟨_, new, ⟨p, hp, rfl⟩, hnew, hne⟩
    exact ⟨p, hp, ⟨new, hnew⟩, fun heq => hne (Option.some.inj (heq.symm.trans hnew))⟩

lemma mem_removed {label : String} : label ∈ (s.reportOf desired).removed ↔
    (∃ old, s.ranges.get? label = some old) ∧ desired.get? label = none := by
  simp only [reportOf, Table.mem_names_filter, Table.contains, get?_ranges, Option.map_eq_some_iff,
    Bool.not_eq_true', Option.isSome_eq_false_iff, Option.isNone_iff_eq_none]
  constructor
  · rintro ⟨p, hp, hnone⟩
    exact ⟨⟨p.range, p, hp, rfl⟩, hnone⟩
  · rintro ⟨⟨_, p, hp, rfl⟩, hnone⟩
    exact ⟨p, hp, hnone⟩

lemma mem_added {label : String} : label ∈ (s.reportOf desired).added ↔
    s.ranges.get? label = none ∧ ∃ new, desired.get? label = some new := by
  simp only [reportOf, Table.mem_names_filter, Table.contains, get?_ranges, Option.map_eq_none_iff,
    Bool.not_eq_true', Option.isSome_eq_false_iff, Option.isNone_iff_eq_none]
  constructor
  · rintro ⟨new, hnew, hnone⟩
    exact ⟨hnone, new, hnew⟩
  · rintro ⟨hnone, new, hnew⟩
    exact ⟨new, hnew, hnone⟩

/-- Three lists without common elements, put together, are a list with the same elements. -/
lemma perm_of_parts {a b c whole : List String} (ha : a.Nodup) (hb : b.Nodup) (hc : c.Nodup)
    (hwhole : whole.Nodup) (hab : ∀ x ∈ a, x ∉ b) (hac : ∀ x ∈ a, x ∉ c) (hbc : ∀ x ∈ b, x ∉ c)
    (hmem : ∀ x, (x ∈ a ∨ x ∈ b) ∨ x ∈ c ↔ x ∈ whole) : (a ++ b ++ c).Perm whole := by
  have hnodup : (a ++ b ++ c).Nodup := by
    refine List.nodup_append'.2 ⟨List.nodup_append'.2 ⟨ha, hb, hab⟩, hc, fun x hx => ?_⟩
    rcases List.mem_append.1 hx with hx | hx
    · exact hac x hx
    · exact hbc x hx
  refine (List.perm_ext_iff_of_nodup hnodup hwhole).2 fun x => ?_
  rw [List.mem_append, List.mem_append, hmem]

/-- Compared with another table, the names of a table are those with the same text, those with
another text, and those that the other table has not. -/
lemma perm_names {table other : Table String} {same changed missing : List String}
    (hsame : same.Nodup ∧ ∀ name, name ∈ same ↔
      ∃ text, table.get? name = some text ∧ other.get? name = some text)
    (hchanged : changed.Nodup ∧ ∀ name, name ∈ changed ↔
      ∃ a b, table.get? name = some a ∧ other.get? name = some b ∧ a ≠ b)
    (hmissing : missing.Nodup ∧ ∀ name, name ∈ missing ↔
      (∃ text, table.get? name = some text) ∧ other.get? name = none) :
    (same ++ changed ++ missing).Perm table.names := by
  obtain ⟨hsame, hmemSame⟩ := hsame
  obtain ⟨hchanged, hmemChanged⟩ := hchanged
  obtain ⟨hmissing, hmemMissing⟩ := hmissing
  refine perm_of_parts hsame hchanged hmissing table.nodup_names ?_ ?_ ?_ fun name => ?_
  · intro name hin hother
    obtain ⟨text, ha, hb⟩ := (hmemSame name).1 hin
    obtain ⟨a, b, ha', hb', hne⟩ := (hmemChanged name).1 hother
    cases ha.symm.trans ha'
    cases hb.symm.trans hb'
    exact hne rfl
  · intro name hin hother
    obtain ⟨text, -, hb⟩ := (hmemSame name).1 hin
    cases hb.symm.trans ((hmemMissing name).1 hother).2
  · intro name hin hother
    obtain ⟨a, b, -, hb, -⟩ := (hmemChanged name).1 hin
    cases hb.symm.trans ((hmemMissing name).1 hother).2
  · rw [hmemSame, hmemChanged, hmemMissing, Table.mem_names_iff]
    constructor
    · rintro ((⟨text, ha, -⟩ | ⟨a, b, ha, -⟩) | ⟨⟨text, ha⟩, -⟩)
      exacts [⟨text, ha⟩, ⟨a, ha⟩, ⟨text, ha⟩]
    · rintro ⟨a, ha⟩
      cases hb : other.get? name with
      | none => exact .inr ⟨⟨a, ha⟩, rfl⟩
      | some b =>
          by_cases heq : a = b
          · exact .inl (.inl ⟨a, ha, heq ▸ rfl⟩)
          · exact .inl (.inr ⟨a, b, ha, rfl, heq⟩)

/-! ## The store afterwards -/

/-- A DNS record stays unless its pool is there and does not stay. -/
lemma dns_dropStale (s : Store) (desired : Table String) :
    (s.dropStale desired).dns
      = s.dns.filter fun record => (s.pools.get? record.pool).all (isKept desired record.pool) := by
  refine List.filter_congr fun record _ => ?_
  cases hp : s.pools.get? record.pool <;> simp [hp]

lemma dnsRecords_dropStale (s : Store) (desired : Table String) (label : String) :
    (s.dropStale desired).dnsRecords label
      = if (s.pools.get? label).all (isKept desired label) then s.dnsRecords label else [] := by
  have hfilter : ((s.dropStale desired).dns.filter fun record => record.pool = label)
      = if (s.pools.get? label).all (isKept desired label)
        then s.dns.filter fun record => record.pool = label else [] := by
    rw [dns_dropStale, List.filter_filter]
    split_ifs with hstays
    · refine List.filter_congr fun record _ => ?_
      by_cases hlabel : record.pool = label
      · subst hlabel
        simp [hstays]
      · simp [hlabel]
    · rw [List.filter_eq_nil_iff]
      rintro record - hrecord
      simp only [Bool.and_eq_true, decide_eq_true_eq] at hrecord
      obtain ⟨rfl, hall⟩ := hrecord
      exact hstays hall
  rw [dnsRecords, dnsRecords, hfilter]
  split_ifs
  · rfl
  · exact List.mergeSort_nil

/-- The pools that do not stay are the replaced and the removed ones. -/
lemma mem_stale_iff {label : String} :
    label ∈ (s.reportOf desired).replaced ++ (s.reportOf desired).removed ↔
      ¬ (s.pools.get? label).all (isKept desired label) = true := by
  simp only [List.mem_append, reportOf, Table.mem_names_filter]
  cases hp : s.pools.get? label with
  | none => simp
  | some p => cases hlabel : desired.get? label <;> simp [isKept, Table.contains, hlabel]

/-- After an adjustment the pools are the configured ones. -/
lemma Synced.ranges_eq (h : Synced tokens s desired s') : s'.ranges = desired := by
  apply Table.ext_get?
  intro label
  rw [get?_ranges]
  cases hlabel : desired.get? label with
  | none => rw [h.dropped label hlabel]; rfl
  | some range =>
      by_cases hrange : s.ranges.get? label = some range
      · rw [get?_ranges, Option.map_eq_some_iff] at hrange
        obtain ⟨p, hp, rfl⟩ := hrange
        rw [h.untouched label p hp hlabel]
        rfl
      · obtain ⟨p, hp, hnew⟩ := h.renewed label range hlabel hrange
        rw [hp, ← hnew.range]
        rfl

lemma NewPool.isNew {first last : Nat} {label range : String} {p : Pool}
    (h : NewPool tokens first last range p) (hp : s'.pools.get? label = some p) :
    s'.IsNew label range where
  covers := by
    rw [entries_eq hp, List.map_map, ← h.range]
    exact h.valid.covers
  free entry hentry := by
    rw [entries_eq hp, List.mem_map] at hentry
    obtain ⟨row, hrow, rfl⟩ := hentry
    obtain ⟨i, -, -, hfree⟩ := h.free row hrow
    rw [hfree]
    rfl
  distinct := by
    rw [entries_eq hp, List.map_map]
    exact h.valid.distinct

/-- **An adjustment that succeeds does what it reports,** and what the configuration asks for. -/
theorem adjusted_of_sync (h : s.sync tokens desired = .ok (report, s')) :
    s.Adjusted desired report s' := by
  obtain rfl := report_of_sync h
  have hsynced := synced_of_sync h
  refine ⟨hsynced.ranges_eq, fun _ => mem_kept, fun _ => mem_replaced, fun _ => mem_removed,
    fun _ => mem_added, ?_, ?_, ?_, ?_, ?_, ?_, ?_⟩
  · intro label hkept
    obtain ⟨range, hrange, hlabel⟩ := mem_kept.1 hkept
    rw [get?_ranges, Option.map_eq_some_iff] at hrange
    obtain ⟨p, hp, rfl⟩ := hrange
    rw [entries_eq hp, entries_eq (hsynced.untouched label p hp hlabel)]
  · intro label range hlabel hnot
    obtain ⟨p, hp, hnew⟩ := hsynced.renewed label range hlabel fun hrange =>
      hnot (mem_kept.2 ⟨range, hrange, hlabel⟩)
    exact hnew.isNew hp
  · intro label hremoved
    exact entries_of_no_pool (hsynced.dropped label (mem_removed.1 hremoved).2)
  · intro label
    have hdns : s'.dnsRecords label = (s.dropStale desired).dnsRecords label := by
      rw [dnsRecords, hsynced.dns, ← dnsRecords]
    rw [hdns, dnsRecords_dropStale]
    simp only [mem_stale_iff, ite_not]
  · intro labels hlabels
    simp only [List.mem_cons, List.not_mem_nil, or_false] at hlabels
    rcases hlabels with rfl | rfl | rfl | rfl <;> exact Table.pairwise_names _
  · exact perm_names ⟨Table.nodup_names _, fun _ => mem_kept⟩
      ⟨Table.nodup_names _, fun _ => mem_replaced⟩ ⟨Table.nodup_names _, fun _ => mem_removed⟩
  · refine @perm_names desired s.ranges _ _ _ ⟨Table.nodup_names _, fun _ => ?_⟩
      ⟨Table.nodup_names _, fun _ => ?_⟩ ⟨Table.nodup_names _, fun _ => ?_⟩
    · rw [mem_kept]
      exact exists_congr fun _ => and_comm
    · rw [mem_replaced]
      constructor
      · rintro ⟨old, new, hold, hnew, hne⟩
        exact ⟨new, old, hnew, hold, hne.symm⟩
      · rintro ⟨new, old, hnew, hold, hne⟩
        exact ⟨old, new, hold, hnew, hne.symm⟩
    · rw [mem_added]
      exact and_comm

/-! ## A second adjustment -/

/-- Pools that are there already are not installed again. -/
lemma foldlM_install_of_hasPool {pools : List (String × String × List Address)}
    (h : ∀ pool ∈ pools, s.hasPool pool.1 = true) : pools.foldlM (install tokens) s = .ok s := by
  induction pools with
  | nil => rfl
  | cons pool rest ih =>
      obtain ⟨hpool, hrest⟩ := List.forall_mem_cons.1 h
      rw [List.foldlM_cons, install_of_hasPool hpool]
      exact ih hrest

/-- If every pool is configured with its own text, all of them stay. -/
lemma dropStale_ranges (s : Store) : s.dropStale s.ranges = s := by
  have hkept : ∀ label p, s.pools.get? label = some p → isKept s.ranges label p = true := by
    intro label p hp
    rw [isKept, get?_ranges, hp]
    exact decide_eq_true rfl
  have hpools : (s.dropStale s.ranges).pools = s.pools := by
    apply Table.ext_get?
    intro label
    rw [get?_dropStale]
    cases hp : s.pools.get? label with
    | none => rfl
    | some p => simp [hkept label p hp]
  have hdns : (s.dropStale s.ranges).dns = s.dns := by
    rw [dns_dropStale, List.filter_eq_self]
    intro record _
    cases hp : s.pools.get? record.pool with
    | none => rfl
    | some p => exact hkept _ p hp
  exact congrArg₂ (fun pools dns => (⟨pools, dns, s.drawn⟩ : Store)) hpools hdns

/-- If every pool is configured with its own text, all of them are reported as kept. -/
lemma reportOf_ranges (s : Store) : s.reportOf s.ranges = ⟨s.ranges.names, [], [], []⟩ := by
  have hnames : s.ranges.names = s.pools.names := by
    rw [Table.names, Table.names, ranges, Table.map, List.map_map]
    rfl
  have hkept : (s.reportOf s.ranges).kept = s.ranges.names := by
    rw [hnames]
    exact congrArg (fun t : Store => t.pools.names) (dropStale_ranges s)
  have hreplaced : (s.reportOf s.ranges).replaced = [] := by
    rw [List.eq_nil_iff_forall_not_mem]
    intro label hlabel
    obtain ⟨old, new, hold, hnew, hne⟩ := mem_replaced.1 hlabel
    exact hne (Option.some.inj (hold.symm.trans hnew))
  have hremoved : (s.reportOf s.ranges).removed = [] := by
    rw [List.eq_nil_iff_forall_not_mem]
    intro label hlabel
    obtain ⟨⟨old, hold⟩, hnone⟩ := mem_removed.1 hlabel
    cases hold.symm.trans hnone
  have hadded : (s.reportOf s.ranges).added = [] := by
    rw [List.eq_nil_iff_forall_not_mem]
    intro label hlabel
    obtain ⟨hnone, new, hnew⟩ := mem_added.1 hlabel
    cases hnew.symm.trans hnone
  have hreport : s.reportOf s.ranges = ⟨(s.reportOf s.ranges).kept,
      (s.reportOf s.ranges).replaced, (s.reportOf s.ranges).removed,
      (s.reportOf s.ranges).added⟩ := rfl
  rw [hreport, hkept, hreplaced, hremoved, hadded]

/-- **A store that has the configured pools is left as it is.**  No token is drawn. -/
theorem sync_of_ranges (hs : s.Valid) (tokens : TokenSource) :
    s.sync tokens s.ranges = .ok (⟨s.ranges.names, [], [], []⟩, s) := by
  have hexpand : ∀ label range, s.ranges.get? label = some range →
      Range.expand range = .ok ((s.rows label).map (·.address)) := by
    intro label range hrange
    rw [get?_ranges, Option.map_eq_some_iff] at hrange
    obtain ⟨p, hp, rfl⟩ := hrange
    rw [rows_eq hp]
    exact (hs _ _ hp).covers
  have hpools := @expandAll_of_expand _ (fun label => (s.rows label).map (·.address)) hexpand
  have hinstall : (s.ranges.entries.map fun entry =>
      (entry.1, entry.2, (s.rows entry.1).map (·.address))).foldlM (install tokens) s = .ok s := by
    refine foldlM_install_of_hasPool (List.forall_mem_map.2 fun entry hentry => ?_)
    have hrange : s.ranges.get? entry.1 = some entry.2 := Table.mem_entries_iff.1 hentry
    rw [get?_ranges, Option.map_eq_some_iff] at hrange
    obtain ⟨p, hp, -⟩ := hrange
    exact hasPool_iff.2 ⟨p, hp⟩
  rw [sync, hpools]
  simp only [dropStale_ranges, hinstall, reportOf_ranges]
  rfl

/-! ## Adjustments that fail -/

/-- A range text that cannot be expanded is an error. -/
lemma sync_of_not_expandable (h : ¬ Expandable desired) :
    ∃ cause, s.sync tokens desired = .error (.range cause) := by
  cases hexpand : expandAll desired with
  | error cause => exact ⟨cause, by rw [sync, hexpand]⟩
  | ok pools =>
      refine absurd (fun label range hlabel => ?_) h
      obtain ⟨hentries, hranges⟩ := expandAll_eq_ok hexpand
      have hmem : (label, range) ∈ pools.map fun pool => (pool.1, pool.2.1) := by
        rw [hentries]
        exact Table.mem_entries_iff.2 hlabel
      obtain ⟨pool, hpool, heq⟩ := List.mem_map.1 hmem
      cases heq
      exact ⟨_, hranges pool hpool⟩

/-- With tokens that never repeat an adjustment succeeds if all range texts can be expanded. -/
lemma exists_sync_of_expandable (hinj : Function.Injective tokens) (h : Expandable desired) :
    ∃ report s', s.sync tokens desired = .ok (report, s') := by
  have haddresses : ∀ label, ∃ addresses, ∀ range, desired.get? label = some range →
      Range.expand range = .ok addresses := by
    intro label
    cases hlabel : desired.get? label with
    | none => exact ⟨[], by simp⟩
    | some range =>
        obtain ⟨addresses, hexpand⟩ := h label range hlabel
        exact ⟨addresses, fun other hother => Option.some.inj hother ▸ hexpand⟩
  choose addresses haddresses using haddresses
  exact exists_sync hinj haddresses

/-- What is known of the adjustment of a store to a configuration. -/
structure Reconciles (tokens : TokenSource) (s : Store) (desired : Table String) : Prop where
  /-- A range text that cannot be expanded is an error. -/
  refused : ¬ Expandable desired → ∃ cause, s.sync tokens desired = .error (.range cause)
  /-- Otherwise only a token that is drawn twice can be in the way. -/
  succeeds : Expandable desired → Function.Injective tokens →
    ∃ report s', s.sync tokens desired = .ok (report, s')
  /-- An adjustment that succeeds is exact. -/
  exact : ∀ report s', s.sync tokens desired = .ok (report, s') → s.Adjusted desired report s'
  /-- One that fails changes nothing. -/
  atomic : ∀ cause, s.sync tokens desired = .error cause →
    (Change.sync tokens desired).apply s = s
  /-- To do it again, with whatever tokens, keeps everything and changes nothing. -/
  again : ∀ report s', s.sync tokens desired = .ok (report, s') → ∀ later,
    s'.sync later desired = .ok (⟨desired.names, [], [], []⟩, s')

/-- **An adjustment is exact, whole and idempotent.**  So is the start of a controller over the
store: it fails if the adjustment does, and if it fails nothing has changed. -/
theorem sync_reconciles (hs : s.Reachable) (tokens : TokenSource) (desired : Table String) :
    s.Reconciles tokens desired ∧
    ∀ config,
      (∀ cause, Pool.parseConfig config = .ok desired → desired.isEmpty = false →
        s.sync tokens desired = .error cause →
          Local.start tokens config s = .error (.store cause)) ∧
      ∀ cause, Local.start tokens config s = .error cause →
        (Local.Event.restart config).apply tokens s = s := by
  refine ⟨?_, fun config => ⟨fun cause hconfig hne hcause => ?_, fun cause hcause => ?_⟩⟩
  · constructor
    · exact sync_of_not_expandable
    · exact fun h hinj => exists_sync_of_expandable hinj h
    · exact fun report s' => adjusted_of_sync
    · intro cause hcause
      rw [Change.apply, hcause]
      rfl
    · intro report s' hok later
      have hsynced := synced_of_sync hok
      have hagain := sync_of_ranges (hsynced.valid hs.valid) later
      rwa [hsynced.ranges_eq] at hagain
  · unfold Local.start
    simp [hconfig, hne, hcause]
  · exact Local.Event.apply_of_error hcause

/-- Two pools of the same addresses, with an owner and a DNS record each. -/
def served : Store :=
  [Change.allocateNext "lan" "www", .createDns "lan" "www" (.ofNat 0x0A000001),
    .allocateNext "wan" "sql", .createDns "wan" "sql" (.ofNat 0x0A000001)].foldl Change.apply
    Local.twinStore

/-- A configuration that gives one of them another range text. -/
def grown : Table String :=
  (Table.empty.insert "lan" "10.0.0.1-10.0.0.3").insert "wan" "10.0.0.1-10.0.0.2"

lemma reachable_served : served.Reachable :=
  (((reachable_empty.start Local.start_twinConfig).apply (.allocateNext "lan" "www")).apply
    (.createDns "lan" "www" (.ofNat 0x0A000001))).apply (.allocateNext "wan" "sql") |>.apply
    (.createDns "wan" "sql" (.ofNat 0x0A000001))

lemma expandable_grown : Expandable grown := by
  intro label range hlabel
  have hmem : (label, range) ∈ [("lan", "10.0.0.1-10.0.0.3"), ("wan", "10.0.0.1-10.0.0.2")] :=
    Table.mem_entries_iff.2 hlabel
  simp only [List.mem_cons, List.not_mem_nil, or_false, Prod.mk.injEq] at hmem
  rcases hmem with ⟨rfl, rfl⟩ | ⟨rfl, rfl⟩
  · exact ⟨[.ofNat 0x0A000001, .ofNat 0x0A000002, .ofNat 0x0A000003], by cbv⟩
  · exact ⟨[.ofNat 0x0A000001, .ofNat 0x0A000002], by cbv⟩

/-- One pool is replaced and loses its records, the other one stays with its owner, and the second
time there is nothing to do. -/
theorem sync_reconciles_of_grown :
    served.Reachable ∧ Expandable grown ∧ Function.Injective Pool.Token.dashes ∧
    ∃ report s', served.sync Pool.Token.dashes grown = .ok (report, s') ∧
      report.kept = ["wan"] ∧ s'.entries "wan" = served.entries "wan" ∧
      s'.IsNew "lan" "10.0.0.1-10.0.0.3" ∧ s'.dnsRecords "lan" = [] ∧
      s'.sync Pool.Token.dashes grown = .ok (⟨["lan", "wan"], [], [], []⟩, s') := by
  have hall := (sync_reconciles reachable_served Pool.Token.dashes grown).1
  obtain ⟨report, s', hok⟩ := hall.succeeds expandable_grown Pool.Token.dashes_injective
  have hexact := hall.exact report s' hok
  have hkept : report.kept = ["wan"] := by
    rw [report_of_sync hok]
    rfl
  have hreplaced : "lan" ∈ report.replaced := by
    rw [report_of_sync hok]
    exact List.mem_singleton_self _
  refine ⟨reachable_served, expandable_grown, Pool.Token.dashes_injective, report, s', hok, hkept,
    hexact.untouched "wan" (by simp [hkept]), hexact.renewed "lan" _ rfl (by simp [hkept]), ?_,
    hall.again report s' hok _⟩
  rw [hexact.dns, if_pos (List.mem_append_left _ hreplaced)]

end Ipam.Store
