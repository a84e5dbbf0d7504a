import Ipam.Proofs.Allocation.Bindings
import Ipam.Proofs.Allocation.Start
import Mathlib

/-!
# Tokens that are drawn once

A supply of tokens that never repeats, with operations whose references are none of its tokens, can
never make a change fail: that is what the checks for duplicate references amount to then.

* `Operation.Avoids` — the reference of an operation is no token of the supply.
* `Store.Supplied` — free rows carry tokens that were drawn before, and owners are no tokens.
* `Local.Effect.supplied`, `Store.Synced.supplied` — this is how every store stays.
* **`Store.Supplied.drawsNew`**, **`Store.Supplied.unique`** — so no token and no reference of an
  operation is carried by another row.
* `Pool.Token.dashes` — a supply that never repeats; `Local.pairStore` and `Local.twinStore` are new
  stores with tokens of it.
-/

namespace Ipam

open Pool (Holder Row TokenSource)

/-- The reference of an operation is no token. -/
def Operation.Avoids (tokens : TokenSource) (op : Operation) : Prop :=
  ∀ reference, op.reference? = some reference → ∀ i, tokens i ≠ reference

/-- A free row carries one of the first `drawn` tokens, and a bound one no token at all. -/
def Pool.Holder.Supplied (tokens : TokenSource) (drawn : Nat) : Holder → Prop
  | .free token => ∃ i < drawn, token = tokens i
  | .bound reference => ∀ i, tokens i ≠ reference

/-- All rows of a store carry what `Holder.Supplied` says. -/
def Store.Supplied (tokens : TokenSource) (s : Store) : Prop :=
  ∀ label p, s.pools.get? label = some p → ∀ row ∈ p.rows, row.holder.Supplied tokens s.drawn

variable {tokens : TokenSource} {s s' : Store}

lemma Pool.Holder.Supplied.mono {holder : Holder} {drawn drawn' : Nat}
    (h : holder.Supplied tokens drawn) (hle : drawn ≤ drawn') : holder.Supplied tokens drawn' := by
  cases holder with
  | free token =>
      obtain ⟨i, hi, heq⟩ := h
      exact ⟨i, hi.trans_le hle, heq⟩
  | bound reference => exact h

namespace Store

/-! ## Stores stay supplied -/

lemma supplied_empty : Supplied tokens ∅ := by simp [Supplied]

lemma Supplied.setHolder (hs : s.Supplied tokens) {label : String} {p : Pool} (a : Address)
    (holder : Holder) {drawn : Nat} (hp : s.pools.get? label = some p) (hle : s.drawn ≤ drawn)
    (hholder : holder.Supplied tokens drawn) :
    Supplied tokens { s.setPool label (p.setHolder a holder) with drawn } := by
  intro other q hq row hrow
  change (s.setPool label (p.setHolder a holder)).pools.get? other = some q at hq
  rw [pools_setPool] at hq
  split_ifs at hq with heq
  · cases hq
    rcases Pool.mem_setHolder.1 hrow with ⟨hmem, -⟩ | ⟨rfl, -⟩
    · exact (hs _ _ hp _ hmem).mono hle
    · exact hholder
  · exact (hs _ _ hq _ hrow).mono hle

lemma Supplied.congr (hs : s.Supplied tokens) (hpools : s'.pools = s.pools)
    (hdrawn : s'.drawn = s.drawn) : s'.Supplied tokens := by
  intro label p hp
  rw [hpools] at hp
  rw [hdrawn]
  exact hs label p hp

lemma Synced.supplied {desired : Table String} (h : Synced tokens s desired s')
    (hs : s.Supplied tokens) : s'.Supplied tokens := by
  intro label p hp row hrow
  rcases h.cases hp with hold | hnew
  · exact (hs label p hold row hrow).mono h.drawn
  · obtain ⟨i, -, hlt, hfree⟩ := hnew.free row hrow
    rw [hfree]
    exact ⟨i, hlt, rfl⟩

end Store

lemma Local.Effect.supplied {op : Operation} {outcome : Outcome}
    (h : Local.Effect tokens s op outcome s') (hs : s.Supplied tokens) (hop : op.Avoids tokens) :
    s'.Supplied tokens := by
  cases h with
  | refused | absent => exact hs
  | confirmed =>
      split_ifs
      · exact hs.congr (Store.pools_published ..) (Store.drawn_published ..)
      · exact hs
  | @bound p reference a _ names binds =>
      have hset := hs.setHolder a (.bound reference) names.pool le_rfl
        (hop reference names.reference)
      exact hset.congr (Store.pools_published ..) (Store.drawn_published ..)
  | @freed p _ a _ names _ _ =>
      have hset := hs.setHolder a (.free (tokens s.drawn)) names.pool (Nat.le_succ s.drawn)
        ⟨s.drawn, Nat.lt_succ_self _, rfl⟩
      exact hset.congr (Store.pools_withdrawn ..) (Store.drawn_withdrawn ..)
  | stuck => exact hs.congr (Store.pools_withdrawn ..) (Store.drawn_withdrawn ..)

/-! ## What this rules out -/

namespace Store

/-- **The next token is carried by no row.** -/
theorem Supplied.drawsNew (hs : s.Supplied tokens) (hinj : Function.Injective tokens)
    (op : Operation) : Local.DrawsNew tokens s op := by
  intro _ row hrow
  cases hp : s.pools.get? op.pool with
  | none => simp [rows, hp] at hrow
  | some p =>
      rw [rows_eq hp] at hrow
      have hholder := hs _ _ hp row hrow
      intro heq
      cases hcase : row.holder with
      | free token =>
          rw [hcase] at hholder heq
          obtain ⟨i, hi, rfl⟩ := hholder
          have hidx : i = s.drawn := hinj heq
          omega
      | bound reference =>
          rw [hcase] at hholder heq
          exact hholder s.drawn heq.symm

/-- **A reference that owns nothing and is no token is carried by no row.** -/
theorem Supplied.unique (hs : s.Supplied tokens) {label reference : String} {p : Pool}
    (hp : s.pools.get? label = some p) (hreference : ∀ i, tokens i ≠ reference)
    (hnone : p.owned? reference = none) (a : Address) :
    p.carriesElsewhere a reference = false := by
  rw [Pool.carriesElsewhere_eq_false_iff]
  intro row hrow _ heq
  have hholder := hs _ _ hp row hrow
  have hne := Pool.owned?_eq_none_iff.1 hnone row hrow
  cases hcase : row.holder with
  | free token =>
      rw [hcase] at hholder heq
      obtain ⟨i, -, rfl⟩ := hholder
      exact hreference i heq
  | bound owner =>
      rw [hcase] at hne heq
      exact hne (congrArg Holder.bound heq)

end Store

/-! ## A supply that never repeats -/

namespace Pool.Token

/-- Tokens of growing length. -/
def dashes : TokenSource :=
  fun i => String.ofList (List.replicate i '-')

lemma dashes_injective : Function.Injective dashes := by
  intro i j h
  simpa [dashes] using congrArg String.length h

/-- A text with another character is no token. -/
lemma dashes_ne {text : String} (h : text.toList.all (· = '-') = false) (i : Nat) :
    dashes i ≠ text := by
  rintro rfl
  simp [dashes] at h

end Pool.Token

/-! ## Stores that are started with it -/

namespace Local

/-- The store that is started with one pool of two addresses. -/
def pairStore : Store where
  pools := Table.empty.insert "lan"
    ⟨"10.0.0.1-10.0.0.2", [⟨.ofNat 0x0A000001, .free (Pool.Token.dashes 0)⟩,
      ⟨.ofNat 0x0A000002, .free (Pool.Token.dashes 1)⟩]⟩
  dns := []
  drawn := 2

lemma start_pairConfig :
    start Pool.Token.dashes Pool.pairConfig ∅ = .ok (⟨[], [], [], ["lan"]⟩, pairStore) := by
  refine start_of_parseConfig Pool.parseConfig_pairConfig rfl ?_
  cbv

/-- The store that is started with two pools of the same two addresses. -/
def twinStore : Store where
  pools := (Table.empty.insert "lan"
    ⟨"10.0.0.1-10.0.0.2", [⟨.ofNat 0x0A000001, .free (Pool.Token.dashes 0)⟩,
      ⟨.ofNat 0x0A000002, .free (Pool.Token.dashes 1)⟩]⟩).insert "wan"
    ⟨"10.0.0.1-10.0.0.2", [⟨.ofNat 0x0A000001, .free (Pool.Token.dashes 2)⟩,
      ⟨.ofNat 0x0A000002, .free (Pool.Token.dashes 3)⟩]⟩
  dns := []
  drawn := 4

lemma start_twinConfig :
    start Pool.Token.dashes Pool.twinConfig ∅ = .ok (⟨[], [], [], ["lan", "wan"]⟩, twinStore) := by
  refine start_of_parseConfig Pool.parseConfig_twinConfig rfl ?_
  cbv

end Local

end Ipam
