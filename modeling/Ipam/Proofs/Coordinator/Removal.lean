import Ipam.Proofs.Coordinator.Runs
import Ipam.Proofs.Net.Notation
import Ipam.Proofs.Reconcile
import Mathlib

/-!
# Removing resources

When a resource is gone, its addresses are given back, save those that another resource records.
Whether an address is shared is decided by its text alone, while a binding is given back by its pool
and its reference.

* `Resource.Holds`, `Resource.Mentions` — a status records an address for a reference, or at all.
* **`Local.onDelete_spares_and_frees`** — what others record stays as it is, and so does every
  binding that the resource does not record; what only the resource records is given back.
* `Reconcile.removals` — the operations for resources that are removed one after the other.
* **`Local.released_iff_last`** — in the end a binding is given back exactly if the last resource
  that records its address, in whatever pool, records this binding.  Where no address is recorded in
  two pools, all bindings are given back.
-/

namespace Ipam

open Pool (TokenSource)

/-! ## What a status records -/

namespace Resource

/-- A status records an address, by its text, for a reference of a pool. -/
def Holds (r : Resource) (label reference text : String) : Prop :=
  ∃ record ∈ r.records, record.bindingKey.Names label reference ∧ record.ip = text

/-- A status records an address, by its text, for whatever it is. -/
def Mentions (r : Resource) (text : String) : Prop :=
  ∃ record ∈ r.records, record.ip = text

/-- All that a status records is complete, and is what the store keeps. -/
def Accurate (r : Resource) (s : Store) : Prop :=
  ∀ record ∈ r.records, ∃ label reference a, record.bindingKey.Names label reference ∧
    s.lookup label reference = some a ∧ record.ip = toString a

variable {r : Resource} {s : Store} {label reference text : String}

lemma Holds.mentions (h : r.Holds label reference text) : r.Mentions text := by
  obtain ⟨record, hrecord, -, hip⟩ := h
  exact ⟨record, hrecord, hip⟩

lemma Accurate.lookup (h : r.Accurate s) (hholds : r.Holds label reference text) :
    ∃ a, s.lookup label reference = some a ∧ text = toString a := by
  obtain ⟨record, hrecord, hnames, rfl⟩ := hholds
  obtain ⟨other, name, a, hnames', hlookup, hip⟩ := h record hrecord
  obtain ⟨rfl, rfl⟩ := hnames.unique hnames'
  exact ⟨a, hlookup, hip⟩

lemma Accurate.holds (h : r.Accurate s) (hmentions : r.Mentions text) :
    ∃ label reference, r.Holds label reference text := by
  obtain ⟨record, hrecord, hip⟩ := hmentions
  obtain ⟨label, reference, a, hnames, -, -⟩ := h record hrecord
  exact ⟨label, reference, record, hrecord, hnames, hip⟩

/-- A status stays accurate as long as the store keeps what it records. -/
lemma Accurate.mono {s' : Store} (h : r.Accurate s)
    (hkept : ∀ label reference a, r.Holds label reference (toString a) →
      s.lookup label reference = some a → s'.lookup label reference = some a) : r.Accurate s' := by
  intro record hrecord
  obtain ⟨label, reference, a, hnames, hlookup, hip⟩ := h record hrecord
  exact ⟨label, reference, a, hnames,
    hkept label reference a ⟨record, hrecord, hnames, hip⟩ hlookup, hip⟩

end Resource

/-! ## The operations for a resource that is gone -/

namespace Reconcile

variable {r : Resource} {others : List Resource} {label reference text : String}

lemma mem_sharedAddresses :
    text ∈ sharedAddresses r others ↔
      text ≠ "" ∧ ∃ other ∈ others, other.ref ≠ r.ref ∧ other.Mentions text := by
  simp only [sharedAddresses, Resource.Mentions, List.mem_filter, List.mem_map, List.mem_flatMap,
    decide_eq_true_eq]
  constructor
  · rintro ⟨⟨record, ⟨other, ⟨hother, hne⟩, hrecord⟩, rfl⟩, hsome⟩
    exact ⟨hsome, other, hother, hne, record, hrecord, rfl⟩
  · rintro ⟨hsome, other, hother, hne, record, hrecord, rfl⟩
    exact ⟨⟨record, ⟨other, ⟨hother, hne⟩, hrecord⟩, rfl⟩, hsome⟩

lemma kind_of_mem_onDelete {op : Operation} (h : op ∈ onDelete r others) : op.kind = .delete := by
  obtain ⟨record, -, hop⟩ := List.mem_filterMap.1 h
  exact (isFor_of_operation? hop).2.1

/-- The operations name exactly the references with a recorded address that is not shared. -/
lemma exists_onDelete_concerns_iff :
    (∃ op ∈ onDelete r others, op.Concerns label reference) ↔
      ∃ text, r.Holds label reference text ∧ text ∉ sharedAddresses r others := by
  constructor
  · rintro ⟨op, hop, hconcerns⟩
    obtain ⟨record, hrecord, hdelete⟩ := List.mem_filterMap.1 hop
    obtain ⟨hmem, hown⟩ := List.mem_filter.1 hrecord
    have hnames := (isFor_of_operation? hdelete).1.concerns_iff.1 hconcerns
    exact ⟨record.ip, ⟨record, hmem, hnames, rfl⟩, of_decide_eq_true hown⟩
  · rintro ⟨text, ⟨record, hrecord, hnames, rfl⟩, hown⟩
    obtain ⟨op, hop⟩ := exists_operation? .delete r.ref hnames.isComplete
    have hmem : op ∈ onDelete r others :=
      List.mem_filterMap.2 ⟨record, List.mem_filter.2 ⟨hrecord, decide_eq_true hown⟩, hop⟩
    exact ⟨op, hmem, (isFor_of_operation? hop).1.concerns_iff.2 hnames⟩

/-- The operations for resources that are removed one after the other, each while all later ones are
still there. -/
def removals : List Resource → List Operation
  | [] => []
  | r :: rest => onDelete r rest ++ removals rest

lemma kind_of_mem_removals {rs : List Resource} {op : Operation} (h : op ∈ removals rs) :
    op.kind = .delete := by
  induction rs with
  | nil => cases h
  | cons r rest ih =>
      rcases List.mem_append.1 h with hfirst | hlater
      · exact kind_of_mem_onDelete hfirst
      · exact ih hlater

/-- The operations name no reference that none of the resources records. -/
lemma not_concerns_of_mem_removals {rs : List Resource} {op : Operation} (h : op ∈ removals rs)
    (hnone : ∀ r ∈ rs, ∀ text, ¬ r.Holds label reference text) :
    ¬ op.Concerns label reference := by
  induction rs with
  | nil => cases h
  | cons r rest ih =>
      obtain ⟨hfirst, hrest⟩ := List.forall_mem_cons.1 hnone
      rcases List.mem_append.1 h with hmem | hmem
      · intro hconcerns
        obtain ⟨text, hholds, -⟩ := exists_onDelete_concerns_iff.1 ⟨op, hmem, hconcerns⟩
        exact hfirst text hholds
      · exact ih hmem hrest

end Reconcile

namespace Local

open Reconcile

variable {tokens : TokenSource} {s : Store} {label reference text : String} {a : Address}

/-! ## One resource -/

/-- After a resource is gone, a binding is left exactly if all addresses that the resource records
for it are shared. -/
lemma lookup_after_onDelete (hs : Reachable s) {r : Resource} {others : List Resource}
    (hnew : AllNew tokens s (onDelete r others)) :
    (after tokens s (onDelete r others)).lookup label reference = some a ↔
      s.lookup label reference = some a ∧
        ∀ text, r.Holds label reference text → text ∈ sharedAddresses r others := by
  rw [lookup_after_deletes hs hnew fun op => kind_of_mem_onDelete]
  refine and_congr_right fun _ => ?_
  have hiff : (¬ ∃ op ∈ onDelete r others, op.Concerns label reference) ↔ _ :=
    not_congr exists_onDelete_concerns_iff
  push Not at hiff
  exact hiff

/-- **Removing a resource takes no address from another one and gives back all others.**  Rows whose
address another resource records stay as they are; so do bindings that the resource does not
record; and what it records is unbound afterwards, unless another resource records the address. -/
theorem onDelete_spares_and_frees (hs : Reachable s) (r : Resource) (others : List Resource)
    (haccurate : ∀ label reference text a, r.Holds label reference text →
      s.lookup label reference = some a → toString a = text)
    (hnew : AllNew tokens s (onDelete r others)) :
    (∀ other ∈ others, other.ref ≠ r.ref → ∀ a, other.Mentions (toString a) → ∀ label,
      Store.entry? (after tokens s (onDelete r others)) label a = s.entry? label a) ∧
    (∀ label reference, (∀ text, ¬ r.Holds label reference text) →
      (after tokens s (onDelete r others)).lookup label reference = s.lookup label reference) ∧
    ∀ label reference text, r.Holds label reference text →
      (∀ other ∈ others, other.ref ≠ r.ref → ¬ other.Mentions text) →
      (after tokens s (onDelete r others)).lookup label reference = none := by
  refine ⟨?_, ?_, ?_⟩
  · intro other hother hne a hmentions label
    have hshared : toString a ∈ sharedAddresses r others :=
      mem_sharedAddresses.2 ⟨a.toString_ne_empty, other, hother, hne, hmentions⟩
    refine row_after_deletes hs hnew (fun op => kind_of_mem_onDelete) ?_
    intro op hop reference hconcerns hlookup
    obtain ⟨text, hholds, hown⟩ := exists_onDelete_concerns_iff.1 ⟨op, hop, hconcerns⟩
    exact hown (haccurate label reference text a hholds hlookup ▸ hshared)
  · intro label reference hnone
    refine lookup_after_of_untouched hs hnew fun op hop hconcerns => ?_
    obtain ⟨text, hholds, -⟩ := exists_onDelete_concerns_iff.1 ⟨op, hop, hconcerns⟩
    exact hnone text hholds
  · intro label reference text hholds halone
    rw [Option.eq_none_iff_forall_ne_some]
    intro a hlookup
    have hshared := ((lookup_after_onDelete hs hnew).1 hlookup).2 text hholds
    obtain ⟨-, other, hother, hne, hmentions⟩ := mem_sharedAddresses.1 hshared
    exact halone other hother hne hmentions

/-! ### Two pools with the same addresses -/

/-- A resource with two hosts in one pool. -/
def web : Resource where
  metadata := { name := some "web", ns := some "prod" }
  requests := []
  status := some
    { records := [{ host := some "www", label := some "lan", ip := "10.0.0.1" },
        { host := some "mail", label := some "lan", ip := "10.0.0.2" }] }

/-- A resource with a host in the other pool. -/
def db : Resource where
  metadata := { name := some "db", ns := some "prod" }
  requests := []
  status := some { records := [{ host := some "sql", label := some "wan", ip := "10.0.0.1" }] }

/-- The creates that give the hosts of both resources their addresses. -/
def settings : List Operation :=
  [.create web.ref (some "www") none "lan", .create web.ref (some "mail") none "lan",
    .create db.ref (some "sql") none "wan"]

/-- The store with these addresses. -/
def settled : Store := after Pool.Token.dashes twinStore settings

lemma reachable_settled : Reachable settled :=
  (reachable_of_start start_twinConfig).after _ _

lemma sound_settled : Sound Pool.Token.dashes settled := by
  refine (sound_of_start start_twinConfig).after fun op hop reference hreference i => ?_
  simp only [settings, List.mem_cons, List.not_mem_nil, or_false] at hop
  rcases hop with rfl | rfl | rfl <;> cases hreference <;> exact Pool.Token.dashes_ne (by decide) i

lemma accurate_settled {r : Resource} (h : r = web ∨ r = db) : r.Accurate settled := by
  intro record hrecord
  rcases h with rfl | rfl
  · simp only [web, Resource.records, List.mem_cons, List.not_mem_nil, or_false] at hrecord
    rcases hrecord with rfl | rfl
    · exact ⟨"lan", "www", _, ⟨by decide, by decide⟩, rfl, by decide⟩
    · exact ⟨"lan", "mail", _, ⟨by decide, by decide⟩, rfl, by decide⟩
  · obtain rfl := List.mem_singleton.1 hrecord
    exact ⟨"wan", "sql", _, ⟨by decide, by decide⟩, rfl, by decide⟩

lemma allNew_settled {rs : List Resource} (h : ∀ r ∈ rs, r = web ∨ r = db) :
    AllNew Pool.Token.dashes settled (removals rs) := by
  refine sound_settled.allNew Pool.Token.dashes_injective fun op hop reference hreference i heq => ?_
  refine not_concerns_of_mem_removals hop (fun r hr text hholds => ?_) ⟨rfl, hreference⟩
  obtain ⟨record, hrecord, hnames, -⟩ := hholds
  rw [← heq] at hnames
  rcases h r hr with rfl | rfl <;>
    simp only [web, db, Resource.records, List.mem_cons, List.not_mem_nil, or_false] at hrecord
  · rcases hrecord with rfl | rfl <;>
      exact Pool.Token.dashes_ne (by decide) i (Option.some.inj hnames.reference).symm
  · subst hrecord
    exact Pool.Token.dashes_ne (by decide) i (Option.some.inj hnames.reference).symm

/-- When `web` is gone, `mail` is unbound; `www` keeps the address that `db` records in the other
pool. -/
theorem onDelete_of_web :
    AllNew Pool.Token.dashes settled (onDelete web [web, db]) ∧
      Store.entry? (after Pool.Token.dashes settled (onDelete web [web, db])) "lan"
        (.ofNat 0x0A000001) = some ⟨"lan", .ofNat 0x0A000001, .bound "www"⟩ ∧
      (after Pool.Token.dashes settled (onDelete web [web, db])).lookup "wan" "sql"
        = some (.ofNat 0x0A000001) ∧
      (after Pool.Token.dashes settled (onDelete web [web, db])).lookup "lan" "mail" = none := by
  have hnew : AllNew Pool.Token.dashes settled (onDelete web [web, db]) :=
    (allNew_append.1 (allNew_settled (show ∀ r ∈ [web, web, db], _ by simp))).1
  have haccurate : ∀ label reference text a, web.Holds label reference text →
      settled.lookup label reference = some a → toString a = text := by
    intro label reference text a hholds hlookup
    obtain ⟨b, hb, rfl⟩ := (accurate_settled (.inl rfl)).lookup hholds
    cases hlookup.symm.trans hb
    rfl
  obtain ⟨hrows, hothers, hfreed⟩ :=
    onDelete_spares_and_frees reachable_settled web [web, db] haccurate hnew
  refine ⟨hnew, ?_, ?_, ?_⟩
  · rw [hrows db (by simp) (by decide) _ ⟨_, List.mem_singleton_self _, by decide⟩]
    rfl
  · rw [hothers "wan" "sql" ?_]
    · rfl
    · rintro text ⟨record, hrecord, hnames, -⟩
      have hlan : ∀ record ∈ web.records, record.bindingKey.pool = some "lan" := by decide
      exact absurd ((hlan record hrecord).symm.trans hnames.pool) (by decide)
  · refine hfreed "lan" "mail" "10.0.0.2" ⟨_, List.mem_cons_of_mem _ (List.mem_singleton_self _),
      ⟨by decide, by decide⟩, rfl⟩ ?_
    have hnone : ∀ other ∈ [web, db], other.ref ≠ web.ref →
        ∀ record ∈ other.records, record.ip ≠ "10.0.0.2" := by
      simp only [List.forall_mem_cons, List.not_mem_nil, false_implies, implies_true, and_true,
        ne_eq, not_true_eq_false, true_and]
      decide
    rintro other hother hne ⟨record, hrecord, hip⟩
    exact hnone other hother hne record hrecord hip

/-! ## One resource after the other -/

/-- What a resource records of an address stays if another resource records the address. -/
lemma lookup_after_onDelete_of_mentions (hs : Reachable s) {r other : Resource}
    {others : List Resource} (hr : r.Accurate s) (hother : other ∈ others)
    (hne : other.ref ≠ r.ref) (hmentions : other.Mentions (toString a))
    (hnew : AllNew tokens s (onDelete r others)) (hlookup : s.lookup label reference = some a) :
    (after tokens s (onDelete r others)).lookup label reference = some a := by
  refine (lookup_after_onDelete hs hnew).2 ⟨hlookup, fun text htext => ?_⟩
  obtain ⟨b, hb, rfl⟩ := hr.lookup htext
  cases hlookup.symm.trans hb
  exact mem_sharedAddresses.2 ⟨a.toString_ne_empty, other, hother, hne, hmentions⟩

/-- Removing a resource leaves accurate what all others record. -/
lemma accurate_after_onDelete (hs : Reachable s) {r other : Resource} {others : List Resource}
    (hr : r.Accurate s) (hother : other ∈ others) (hne : other.ref ≠ r.ref)
    (haccurate : other.Accurate s) (hnew : AllNew tokens s (onDelete r others)) :
    other.Accurate (after tokens s (onDelete r others)) :=
  haccurate.mono fun _ _ _ hholds =>
    lookup_after_onDelete_of_mentions hs hr hother hne hholds.mentions hnew

/-- A resource that is the only one left to record an address gives it back. -/
lemma lookup_after_last (hs : Reachable s) {r : Resource} {others : List Resource}
    (hnew : AllNew tokens s (onDelete r others)) (hholds : r.Holds label reference text)
    (halone : ∀ other ∈ others, ¬ other.Mentions text) :
    (after tokens s (onDelete r others)).lookup label reference = none := by
  rw [Option.eq_none_iff_forall_ne_some]
  intro a hlookup
  have hshared := ((lookup_after_onDelete hs hnew).1 hlookup).2 text hholds
  obtain ⟨-, other, hother, -, hmentions⟩ := mem_sharedAddresses.1 hshared
  exact halone other hother hmentions

/-- What is unbound stays so while resources are removed. -/
lemma lookup_after_removals_of_none (hs : Reachable s) {rs : List Resource}
    (hnew : AllNew tokens s (removals rs)) (hnone : s.lookup label reference = none) :
    (after tokens s (removals rs)).lookup label reference = none := by
  rw [Option.eq_none_iff_forall_ne_some]
  intro a hlookup
  have hbefore := ((lookup_after_deletes hs hnew fun op => kind_of_mem_removals).1 hlookup).1
  rw [hnone] at hbefore
  cases hbefore

/-- What is recorded is still there in the end if no resource but the first records it, while a
later one records its address. -/
lemma lookup_after_removals_of_mentions (hs : Reachable s) {r other : Resource}
    {rest : List Resource} (haccurate : ∀ x ∈ r :: rest, x.Accurate s)
    (hrefs : ∀ x ∈ rest, x.ref ≠ r.ref) (hnew : AllNew tokens s (removals (r :: rest)))
    (hother : other ∈ rest) (hmentions : other.Mentions (toString a))
    (honly : ∀ x ∈ rest, ∀ text, ¬ x.Holds label reference text)
    (hlookup : s.lookup label reference = some a) :
    (after tokens s (removals (r :: rest))).lookup label reference = some a := by
  obtain ⟨hfirst, -⟩ := List.forall_mem_cons.1 haccurate
  obtain ⟨hnow, hlater⟩ := allNew_append.1 hnew
  rw [removals, after_append]
  refine lookup_after_of_kept (hs.after tokens _) hlater
    (fun op hop _ => not_concerns_of_mem_removals hop honly) ?_
  exact lookup_after_onDelete_of_mentions hs hfirst hother (hrefs other hother) hmentions hnow
    hlookup

/-- The last element of a list with some property is the first of the list, or further on. -/
lemma exists_last_cons {r : Resource} {rest : List Resource} {P Q : Resource → Prop} :
    (∃ earlier last later, r :: rest = earlier ++ last :: later ∧ P last ∧
        ∀ other ∈ later, ¬ Q other) ↔
      (P r ∧ ∀ other ∈ rest, ¬ Q other) ∨
        ∃ earlier last later, rest = earlier ++ last :: later ∧ P last ∧
          ∀ other ∈ later, ¬ Q other := by
  constructor
  · rintro ⟨earlier, last, later, heq, hlast⟩
    rcases List.cons_eq_append_iff.1 heq with ⟨-, heq⟩ | ⟨earlier, -, rfl⟩
    · obtain ⟨rfl, rfl⟩ := List.cons.inj heq
      exact .inl hlast
    · exact .inr ⟨earlier, last, later, rfl, hlast⟩
  · rintro (hfirst | ⟨earlier, last, later, rfl, hlast⟩)
    · exact ⟨[], r, rest, rfl, hfirst⟩
    · exact ⟨r :: earlier, last, later, rfl, hlast⟩

/-- After all resources are removed, a recorded binding is unbound exactly if the last of them that
records its address records this binding.  The induction is on the resources: the first one decides
only about bindings that no later one records. -/
lemma lookup_after_removals_eq_none_iff (hs : Reachable s) {rs : List Resource}
    (hrefs : (rs.map Resource.ref).Nodup) (haccurate : ∀ r ∈ rs, r.Accurate s)
    (hnew : AllNew tokens s (removals rs)) (hheld : ∃ r ∈ rs, r.Holds label reference text) :
    (after tokens s (removals rs)).lookup label reference = none ↔
      ∃ earlier last later, rs = earlier ++ last :: later ∧ last.Holds label reference text ∧
        ∀ other ∈ later, ¬ other.Mentions text := by
  induction rs generalizing s with
  | nil =>
      obtain ⟨r, hr, -⟩ := hheld
      cases hr
  | cons r rest ih =>
      obtain ⟨hfirst, hothers⟩ := List.forall_mem_cons.1 haccurate
      obtain ⟨hnewRef, hrefs⟩ := List.nodup_cons.1 hrefs
      have hne : ∀ other ∈ rest, other.ref ≠ r.ref := fun other hother heq =>
        hnewRef (heq ▸ List.mem_map_of_mem hother)
      obtain ⟨hnow, hlater⟩ := allNew_append.1 hnew
      have hs' := hs.after tokens (onDelete r rest)
      rw [exists_last_cons]
      by_cases hrest : ∃ other ∈ rest, other.Holds label reference text
      · -- The binding is recorded further on, so the first resource does not matter.
        have hnotFirst : ¬ ∀ other ∈ rest, ¬ other.Mentions text := by
          obtain ⟨other, hother, hholds⟩ := hrest
          exact fun halone => halone other hother hholds.mentions
        rw [removals, after_append, or_iff_right fun hmine => hnotFirst hmine.2]
        exact ih hs' hrefs (fun other hother => accurate_after_onDelete hs hfirst hother
          (hne other hother) (hothers other hother) hnow) hlater hrest
      · -- Only the first resource records the binding.
        have hmine : r.Holds label reference text := by
          obtain ⟨other, hother, hholds⟩ := hheld
          rcases List.mem_cons.1 hother with rfl | hmem
          · exact hholds
          · exact absurd ⟨other, hmem, hholds⟩ hrest
        have hnever : ¬ ∃ earlier last later, rest = earlier ++ last :: later ∧
            last.Holds label reference text ∧ ∀ other ∈ later, ¬ other.Mentions text := by
          rintro ⟨earlier, last, later, rfl, hholds, -⟩
          exact hrest ⟨last, List.mem_append_right _ List.mem_cons_self, hholds⟩
        rw [or_iff_left hnever, and_iff_right hmine]
        obtain ⟨a, hlookup, rfl⟩ := hfirst.lookup hmine
        constructor
        · intro hnone other hother hmentions
          have honly : ∀ x ∈ rest, ∀ text, ¬ x.Holds label reference text := by
            intro x hx text hholds
            obtain ⟨b, hb, rfl⟩ := (hothers x hx).lookup hholds
            cases hlookup.symm.trans hb
            exact hrest ⟨x, hx, hholds⟩
          rw [lookup_after_removals_of_mentions hs haccurate hne hnew hother hmentions honly
            hlookup] at hnone
          cases hnone
        · intro halone
          rw [removals, after_append]
          exact lookup_after_removals_of_none hs' hlater (lookup_after_last hs hnow hmine halone)

/-- The last resource that records an address. -/
lemma exists_last {rs : List Resource} (h : ∃ r ∈ rs, r.Mentions text) :
    ∃ earlier last later, rs = earlier ++ last :: later ∧ last.Mentions text ∧
      ∀ other ∈ later, ¬ other.Mentions text := by
  induction rs with
  | nil =>
      obtain ⟨r, hr, -⟩ := h
      cases hr
  | cons r rest ih =>
      rw [exists_last_cons]
      by_cases hrest : ∃ other ∈ rest, other.Mentions text
      · exact .inr (ih hrest)
      · push Not at hrest
        obtain ⟨other, hother, hmentions⟩ := h
        rcases List.mem_cons.1 hother with rfl | hmem
        · exact .inl ⟨hmentions, hrest⟩
        · exact absurd hmentions (hrest other hmem)

/-- **After all resources are removed, a recorded binding is given back exactly if the last of them
that records its address, in whatever pool, records this binding.**  So all bindings are given back
if no address is recorded in two pools. -/
theorem released_iff_last (hs : Reachable s) {rs : List Resource}
    (hrefs : (rs.map Resource.ref).Nodup) (haccurate : ∀ r ∈ rs, r.Accurate s)
    (hnew : AllNew tokens s (removals rs)) {r : Resource} (hr : r ∈ rs)
    (hholds : r.Holds label reference text) :
    ((after tokens s (removals rs)).lookup label reference = none ↔
      ∃ earlier last later, rs = earlier ++ last :: later ∧ last.Holds label reference text ∧
        ∀ other ∈ later, ¬ other.Mentions text) ∧
    ((∀ other ∈ rs, ∀ pool name, other.Holds pool name text → pool = label) →
      (after tokens s (removals rs)).lookup label reference = none) := by
  have hiff := lookup_after_removals_eq_none_iff hs hrefs haccurate hnew ⟨r, hr, hholds⟩
  refine ⟨hiff, fun hseparate => hiff.2 ?_⟩
  obtain ⟨earlier, last, later, rfl, hlast, halone⟩ := exists_last ⟨r, hr, hholds.mentions⟩
  have hmem : last ∈ earlier ++ last :: later := List.mem_append_right _ List.mem_cons_self
  obtain ⟨pool, name, hlast⟩ := (haccurate last hmem).holds hlast
  obtain rfl := hseparate last hmem pool name hlast
  -- Both references own the address, so they are one.
  obtain ⟨a, ha, htext⟩ := (haccurate r hr).lookup hholds
  obtain ⟨b, hb, htext'⟩ := (haccurate last hmem).lookup hlast
  obtain rfl := Address.toString_injective (htext.symm.trans htext')
  have hrow := hs.valid.eq_of_mem_rows ((Store.lookup_eq_some_iff hs.valid).1 ha)
    ((Store.lookup_eq_some_iff hs.valid).1 hb) (.inl rfl)
  cases hrow
  exact ⟨earlier, last, later, rfl, hlast, halone⟩

/-- When `web` is removed after `db`, all its addresses are given back. -/
theorem released_of_web :
    AllNew Pool.Token.dashes settled (removals [db, web]) ∧
      ∀ reference ∈ ["www", "mail"],
        (after Pool.Token.dashes settled (removals [db, web])).lookup "lan" reference = none := by
  have hnew : AllNew Pool.Token.dashes settled (removals [db, web]) := allNew_settled (by simp)
  refine ⟨hnew, fun reference hreference => ?_⟩
  have hholds : ∃ text, web.Holds "lan" reference text := by
    simp only [List.mem_cons, List.not_mem_nil, or_false] at hreference
    rcases hreference with rfl | rfl
    · exact ⟨_, _, List.mem_cons_self, ⟨by decide, by decide⟩, rfl⟩
    · exact ⟨_, _, List.mem_cons_of_mem _ List.mem_cons_self, ⟨by decide, by decide⟩, rfl⟩
  obtain ⟨text, hholds⟩ := hholds
  refine (released_iff_last reachable_settled (by decide)
    (fun r hr => accurate_settled (by simpa [or_comm] using hr)) hnew
    (List.mem_cons_of_mem _ List.mem_cons_self) hholds).1.2 ?_
  exact ⟨[db], web, [], rfl, hholds, by simp⟩

/-- **An address that is recorded in two pools may never be given back.**  When `db` is removed last,
the address of `www` is still bound, though no resource is left. -/
theorem not_released_of_web :
    Reachable settled ∧ (([web, db].map Resource.ref).Nodup) ∧
      (∀ r ∈ [web, db], r.Accurate settled) ∧
      AllNew Pool.Token.dashes settled (removals [web, db]) ∧
      web.Holds "lan" "www" "10.0.0.1" ∧
      (after Pool.Token.dashes settled (removals [web, db])).lookup "lan" "www"
        = some (.ofNat 0x0A000001) :=
  ⟨reachable_settled, by decide, fun r hr => accurate_settled (by simpa using hr),
    allNew_settled (by simp), ⟨_, List.mem_cons_self, ⟨by decide, by decide⟩, rfl⟩, rfl⟩

end Local

end Ipam
