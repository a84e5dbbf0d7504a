import Ipam.Allocation.Local
import Ipam.Proofs.Pool.Sync

/-!
# Starting over a store

A controller that starts over a store adjusts the pools to its configuration text.  It fails with a
text that cannot be read, with a text without pools, and when the store refuses the adjustment.

* `Pool.parseConfig_labelled` — no label of a configuration is blank.
* `Local.start_eq_ok` — a start that succeeds has adjusted the store.
-/

namespace Ipam

open Pool (TokenSource)

/-! ## Configuration texts -/

/-- A configuration that was read has no fault in any entry. -/
lemma Pool.parseConfig_labelled {config : String} {desired : Table String}
    (h : Pool.parseConfig config = .ok desired) {label range : String}
    (hlabel : desired.get? label = some range) :
    Pool.isBlankText label = false ∧ Pool.isBlankText range = false := by
  unfold parseConfig at h
  split at h
  · cases h
  · split at h
    · cases h
    · rename_i pools _ hfault
      cases h
      have hentry := List.findSome?_eq_none_iff.1 hfault _ (Table.mem_entries_iff.2 hlabel)
      simp only [entryFault?] at hentry
      split_ifs at hentry with hblank hrange
      exact ⟨Bool.eq_false_iff.2 hblank, Bool.eq_false_iff.2 hrange⟩

namespace Pool

/-- A text is read as a configuration from the entries of its table. -/
lemma parseConfig_of_entries {config : String} {pools : Table String}
    (hparse : (Json.parse? (bareConfig config) >>= Json.asTable? Json.asString?).map (·.entries)
      = some pools.entries)
    (hfault : (pools.entries.findSome? fun (label, range) => entryFault? label range) = none) :
    parseConfig config = .ok pools := by
  obtain ⟨read, hread, hentries⟩ := Option.map_eq_some_iff.1 hparse
  obtain rfl : read = pools := Table.ext hentries
  unfold parseConfig
  rw [hread]
  simp only [hfault]

/-- A configuration of one pool with two addresses. -/
def pairConfig : String :=
  "\x7b\"lan\": \"10.0.0.1-10.0.0.2\"\x7d"

lemma parseConfig_pairConfig :
    parseConfig pairConfig = .ok (Table.empty.insert "lan" "10.0.0.1-10.0.0.2") :=
  parseConfig_of_entries (by decide +kernel) (by decide +kernel)

/-- A configuration of two pools with the same two addresses. -/
def twinConfig : String :=
  "\x7b\"lan\": \"10.0.0.1-10.0.0.2\", \"wan\": \"10.0.0.1-10.0.0.2\"\x7d"

lemma parseConfig_twinConfig :
    parseConfig twinConfig = .ok
      ((Table.empty.insert "lan" "10.0.0.1-10.0.0.2").insert "wan" "10.0.0.1-10.0.0.2") :=
  parseConfig_of_entries (by decide +kernel) (by decide +kernel)

end Pool

/-! ## Starts -/

namespace Local

variable {tokens : TokenSource} {config : String} {s s' : Store} {report : SyncReport}

/-- A start that succeeds has read a configuration and adjusted the store to it. -/
lemma start_eq_ok (h : start tokens config s = .ok (report, s')) :
    ∃ desired, Pool.parseConfig config = .ok desired ∧
      s.sync tokens desired = .ok (report, s') := by
  unfold start at h
  cases hconfig : Pool.parseConfig config with
  | error cause => simp [hconfig] at h
  | ok desired =>
      refine ⟨desired, rfl, ?_⟩
      simp only [hconfig] at h
      split_ifs at h
      cases hsync : s.sync tokens desired with
      | error cause => simp [hsync] at h
      | ok result =>
          simp only [hsync, Except.ok.injEq] at h
          rw [h]

/-- With a configuration that was read and has a pool, a start is an adjustment. -/
lemma start_of_parseConfig {desired : Table String}
    (hconfig : Pool.parseConfig config = .ok desired) (hne : desired.isEmpty = false)
    (h : s.sync tokens desired = .ok (report, s')) :
    start tokens config s = .ok (report, s') := by
  unfold start
  simp [hconfig, hne, h]

lemma valid_of_start (h : start tokens config s = .ok (report, s')) (hs : s.Valid) :
    s'.Valid := by
  obtain ⟨desired, -, hsync⟩ := start_eq_ok h
  exact (Store.synced_of_sync hsync).valid hs

lemma labelled_of_start (h : start tokens config s = .ok (report, s')) : s'.Labelled := by
  obtain ⟨desired, hconfig, hsync⟩ := start_eq_ok h
  exact (Store.synced_of_sync hsync).labelled fun _ _ hlabel =>
    (Pool.parseConfig_labelled hconfig hlabel).1

end Local

end Ipam
