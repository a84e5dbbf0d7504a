import Ipam.Proofs.Coordinator.Removal
import Ipam.Proofs.Coordinator.Resync

/-!
# Bindings that two resources record

Two resources may ask for the same reference of a pool and then record the same address.  When one
of them is removed, the address is spared; an update and a start do not look at other resources.

* `Resource.Backed` — the store keeps every complete binding that a status records.
* `Reconcile.Forgets` — a status records a binding under a key that is not requested any more.
* `Local.lookup_after_exchange` — a binding after some deletes and some creates.
* **`Local.keeps_recorded_iff`** — what another resource records survives an update exactly if the
  update does not give the binding up, or is granted the address for it again; and likewise for a
  start.
-/

namespace Ipam

open Pool (TokenSource)

/-! ## What a status records -/

/-- The store keeps every complete binding that a status records. -/
def Resource.Backed (r : Resource) (s : Store) : Prop :=
  ∀ record ∈ r.records, record.bindingKey.isComplete = true → ∃ label reference a,
    record.Asserts label reference a ∧ s.lookup label reference = some a

lemma Resource.Backed.lookup {r : Resource} {s : Store} (h : r.Backed s) {record : Record}
    (hrecord : record ∈ r.records) {label reference : String} {a : Address}
    (hasserts : record.Asserts label reference a) : s.lookup label reference = some a := by
  obtain ⟨pool, name, b, hasserts', hlookup⟩ := h record hrecord hasserts.names.isComplete
  obtain ⟨rfl, rfl, rfl⟩ := hasserts.unique hasserts'
  exact hlookup

namespace Reconcile

variable {r : Resource} {label reference : String}

/-- A status records a binding for a reference under a key that is not requested. -/
def Forgets (r : Resource) (label reference : String) : Prop :=
  ∃ record ∈ r.records, record.bindingKey ∉ keys r.requests ∧
    record.bindingKey.Names label reference

lemma exists_stale_concerns_iff :
    (∃ op ∈ stale r, op.Concerns label reference) ↔ Forgets r label reference := by
  constructor
  · rintro ⟨op, hop, hconcerns⟩
    obtain ⟨-, -, -, record, hrecord, hstale, hfor⟩ := mem_stale hop
    exact ⟨record, hrecord, hstale, hfor.concerns_iff.1 hconcerns⟩
  · rintro ⟨record, hrecord, hstale, hnames⟩
    obtain ⟨op, hop, hfor⟩ := exists_stale hrecord hstale hnames.isComplete
    exact ⟨op, hop, hfor.concerns_iff.2 hnames⟩

/-- The operations for requests that an update gives up. -/
def givenUp (old new : Resource) : List Operation :=
  difference .delete new.ref old.requests new.requests

/-- The operations for requests that an update adds. -/
def added (old new : Resource) : List Operation :=
  difference .create new.ref new.requests old.requests

lemma onUpdate_phases (old new : Resource) : onUpdate old new = givenUp old new ++ added old new :=
  rfl

end Reconcile

namespace Local

open Reconcile

variable {tokens : TokenSource} {s : Store} {label reference : String} {a : Address}

/-! ## Deletes and creates -/

/-- Some create among the operations is answered with the address for the reference. -/
def Regains (tokens : TokenSource) (s : Store) (ops : List Operation) (label reference : String)
    (a : Address) : Prop :=
  ∃ step ∈ history tokens s (ops.map .operation), step.Grants tokens label reference a

/-- A binding outlives some deletes and creates if no delete names it, or if a create is answered
with its address again. -/
lemma lookup_after_exchange (hs : Reachable s) {deletes creates : List Operation}
    (hnew : AllNew tokens s (deletes ++ creates)) (hdeletes : ∀ op ∈ deletes, op.kind = .delete)
    (hcreates : ∀ op ∈ creates, op.kind = .create) (hold : s.lookup label reference = some a) :
    (after tokens s (deletes ++ creates)).lookup label reference = some a ↔
      (¬ ∃ op ∈ deletes, op.Concerns label reference) ∨
        Regains tokens (after tokens s deletes) creates label reference a := by
  rw [after_append, lookup_after_creates (hs.after tokens deletes) hcreates,
    lookup_after_deletes hs (allNew_append.1 hnew).1 hdeletes]
  refine or_congr ?_ Iff.rfl
  simp [hold]

/-- A binding that a delete names and no create names again is gone. -/
lemma lookup_after_exchange_eq_none (hs : Reachable s) {deletes creates : List Operation}
    (hnew : AllNew tokens s (deletes ++ creates)) (hdeletes : ∀ op ∈ deletes, op.kind = .delete)
    (hnamed : ∃ op ∈ deletes, op.Concerns label reference)
    (hother : ∀ op ∈ creates, ¬ op.Concerns label reference) :
    (after tokens s (deletes ++ creates)).lookup label reference = none := by
  obtain ⟨hnew, hlater⟩ := allNew_append.1 hnew
  rw [after_append, lookup_after_of_untouched (hs.after _ _) hlater hother,
    Option.eq_none_iff_forall_ne_some]
  intro a hlookup
  obtain ⟨op, hop, hconcerns⟩ := hnamed
  exact ((lookup_after_deletes hs hnew hdeletes).1 hlookup).2 op hop hconcerns

lemma lookup_after_onUpdate (hs : Reachable s) (old new : Resource)
    (hnew : AllNew tokens s (onUpdate old new)) (hold : s.lookup label reference = some a) :
    (after tokens s (onUpdate old new)).lookup label reference = some a ↔
      ¬ Brings new.requests old.requests label reference ∨
        Regains tokens (after tokens s (givenUp old new)) (added old new) label reference a := by
  rw [onUpdate_phases] at hnew ⊢
  rw [lookup_after_exchange hs hnew (fun op hop => (mem_difference hop).1)
    (fun op hop => (mem_difference hop).1) hold]
  exact or_congr_left (not_congr exists_concerns_iff)

lemma lookup_after_onCreate (hs : Reachable s) (r : Resource)
    (hnew : AllNew tokens s (onCreate r)) (hold : s.lookup label reference = some a) :
    (after tokens s (onCreate r)).lookup label reference = some a ↔
      ¬ Forgets r label reference ∨
        Regains tokens (after tokens s (replays r.ref r.records ++ stale r)) (requested r)
          label reference a := by
  rw [onCreate_phases] at hnew ⊢
  obtain ⟨hreplays, hlater⟩ := allNew_append.1 hnew
  have hkept : (after tokens s (replays r.ref r.records)).lookup label reference = some a := by
    refine lookup_after_of_kept hs hreplays (fun op hop hdelete => ?_) hold
    cases hdelete.symm.trans (kind_of_mem_replays hop)
  have hexchange := lookup_after_exchange (hs.after tokens (replays r.ref r.records)) hlater
    (fun op hop => (mem_stale hop).2.1) (fun op hop => (mem_requested hop).2.1) hkept
  rw [exists_stale_concerns_iff] at hexchange
  simpa only [after_append] using hexchange

/-- **What a resource records survives an update of another one exactly if the update does not give
the binding up, or is granted the address for it again;** and it survives the start of another one
exactly if that one does not record the binding under a key that it does not request, or is granted
the address for it again. -/
theorem keeps_recorded_iff (hs : Reachable s) {other : Resource} (hother : other.Backed s)
    {record : Record} (hrecord : record ∈ other.records)
    (hasserts : record.Asserts label reference a) :
    (∀ old new, AllNew tokens s (onUpdate old new) →
      ((after tokens s (onUpdate old new)).lookup label reference = some a ↔
        ¬ Brings new.requests old.requests label reference ∨
          Regains tokens (after tokens s (givenUp old new)) (added old new) label reference a)) ∧
    ∀ r, AllNew tokens s (onCreate r) →
      ((after tokens s (onCreate r)).lookup label reference = some a ↔
        ¬ Forgets r label reference ∨
          Regains tokens (after tokens s (replays r.ref r.records ++ stale r)) (requested r)
            label reference a) := by
  have hold := hother.lookup hrecord hasserts
  exact ⟨fun old new hnew => lookup_after_onUpdate hs old new hnew hold,
    fun r hnew => lookup_after_onCreate hs r hnew hold⟩

/-! ### A host that two resources ask for -/

/-- A resource that asks for a host of `web` too, and records the same address. -/
def mirror : Resource where
  metadata := { name := some "mirror", ns := some "prod" }
  requests := [{ host := some "www", label := some "lan" }]
  status := some { records := [{ host := some "www", label := some "lan", ip := "10.0.0.1" }] }

/-- The resource when it asks for another host instead. -/
def moved : Resource :=
  { mirror with requests := [{ host := some "ftp", label := some "lan" }] }

/-- The resource when it asks for another host besides. -/
def grown : Resource :=
  { mirror with requests := mirror.requests ++ [{ host := some "ftp", label := some "lan" }] }

lemma backed_settled {r : Resource} (h : r = web ∨ r = mirror) : r.Backed settled := by
  intro record hrecord _
  rcases h with rfl | rfl
  · simp only [web, Resource.records, List.mem_cons, List.not_mem_nil, or_false] at hrecord
    rcases hrecord with rfl | rfl
    · exact ⟨"lan", "www", _, ⟨⟨by decide, by decide⟩, by decide +kernel⟩, rfl⟩
    · exact ⟨"lan", "mail", _, ⟨⟨by decide, by decide⟩, by decide +kernel⟩, rfl⟩
  · obtain rfl := List.mem_singleton.1 hrecord
    exact ⟨"lan", "www", _, ⟨⟨by decide, by decide⟩, by decide +kernel⟩, rfl⟩

lemma allNew_of_references {ops : List Operation}
    (h : ∀ op ∈ ops, op.reference? = some "www" ∨ op.reference? = some "ftp") :
    AllNew Pool.Token.dashes settled ops := by
  refine sound_settled.allNew Pool.Token.dashes_injective fun op hop reference hreference i => ?_
  rcases h op hop with heq | heq <;> rw [heq] at hreference <;> cases hreference <;>
    exact Pool.Token.dashes_ne (by decide) i

/-- An update that gives nothing up leaves the address of `www` where it was. -/
theorem lookup_www_of_grown :
    AllNew Pool.Token.dashes settled (onUpdate mirror grown) ∧
      (after Pool.Token.dashes settled (onUpdate mirror grown)).lookup "lan" "www"
        = some (.ofNat 0x0A000001) := by
  have hnew : AllNew Pool.Token.dashes settled (onUpdate mirror grown) :=
    allNew_of_references (by decide)
  refine ⟨hnew, ?_⟩
  have hasserts : Record.Asserts { host := some "www", label := some "lan", ip := "10.0.0.1" }
      "lan" "www" (.ofNat 0x0A000001) :=
    ⟨⟨by decide, by decide⟩, by decide +kernel⟩
  refine ((keeps_recorded_iff reachable_settled (backed_settled (.inl rfl)) List.mem_cons_self
    hasserts).1 mirror grown hnew).2 (.inl ?_)
  rintro ⟨k, hk, hgone, -⟩
  exact hgone (List.mem_append_left _ hk)

/-- **An update may take an address from another resource.**  When `mirror` asks for another host,
the address that `web` records for `www` is given back; and so it is when `mirror` is seen for the
first time with a request for another host. -/
theorem not_kept_of_moved :
    Reachable settled ∧ (∀ r ∈ [web, mirror], r.Backed settled) ∧
      AllNew Pool.Token.dashes settled (onUpdate mirror moved) ∧
      (after Pool.Token.dashes settled (onUpdate mirror moved)).lookup "lan" "www" = none ∧
      AllNew Pool.Token.dashes settled (onCreate moved) ∧
      (after Pool.Token.dashes settled (onCreate moved)).lookup "lan" "www" = none := by
  have hupdate : AllNew Pool.Token.dashes settled (onUpdate mirror moved) :=
    allNew_of_references (by decide)
  have hstart : AllNew Pool.Token.dashes settled (onCreate moved) :=
    allNew_of_references (by decide)
  have hreplays := reachable_settled.after Pool.Token.dashes (replays moved.ref moved.records)
  -- Only the host `ftp` is asked for afterwards.
  have hother : ∀ op : Operation, op.reference? = some "ftp" → ¬ op.Concerns "lan" "www" := by
    rintro op hftp ⟨-, hwww⟩
    exact absurd (hftp.symm.trans hwww) (by decide)
  refine ⟨reachable_settled, fun r hr => backed_settled (by simpa using hr), hupdate, ?_, hstart, ?_⟩
  · rw [onUpdate_phases] at hupdate ⊢
    exact lookup_after_exchange_eq_none reachable_settled hupdate (by decide)
      ⟨_, List.mem_cons_self, ⟨rfl, rfl⟩⟩ fun op hop => hother op (by revert op; decide)
  · rw [onCreate_phases] at hstart ⊢
    rw [after_append]
    exact lookup_after_exchange_eq_none hreplays (allNew_append.1 hstart).2 (by decide)
      ⟨_, List.mem_cons_self, ⟨rfl, rfl⟩⟩ fun op hop => hother op (by revert op; decide)

end Local

end Ipam
