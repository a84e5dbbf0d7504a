import Ipam.Proofs.Pool.Lowest

/-!
# Asking for one particular address

What an allocation of a given address answers is decided by the row of the address, by what the
reference owns, and by the tokens of the other free rows.

* `Store.Warrants` — when which answer is the right one, in terms of the views of the store.
* `Store.Answers` — the six situations of a request, each with what is answered and left;
  `Store.answers_allocateExact`, there are no others.
* **`Store.allocateExact_classifies`** — every reachable store gives exactly the right answer, and
  changes only when it says so.

The reference is arbitrary: it may be the token of a free row, of the row asked for or of another
one.
-/

namespace Ipam.Store

open Pool (Holder Row)

variable {s s' : Store} {label reference : String} {a : Address}

/-! ## The right answer -/

/-- A free row other than that of `a` has the text as its token. -/
def TokenElsewhere (s : Store) (label : String) (a : Address) (token : String) : Prop :=
  ∃ b, b ≠ a ∧ s.IsToken label b token

/-- When an answer to a request for one address is right. -/
def Warrants (s : Store) (label : String) (a : Address) (reference : String) :
    Except StoreError ExactAllocation → Prop
  | .ok .notInPool => s.entry? label a = none
  | .ok .alreadyBound => s.IsBound label a reference
  | .ok .conflict => ∃ owner, owner ≠ reference ∧ s.IsBound label a owner
  | .ok (.referenceBound b) => s.IsFree label a ∧ s.lookup label reference = some b
  | .error .duplicateReference =>
    s.IsFree label a ∧ s.lookup label reference = none ∧ s.TokenElsewhere label a reference
  | .ok .allocated =>
    s.IsFree label a ∧ s.lookup label reference = none ∧ ¬ s.TokenElsewhere label a reference
  | .error _ => False

/-! ## The situations of a request -/

/-- What is answered and left, by the situation that the request meets. -/
inductive Answers (s : Store) (label : String) (a : Address) (reference : String) :
    Except StoreError (ExactAllocation × Store) → Prop where
  /-- The pool has no such row. -/
  | missing (hrow : s.entry? label a = none) : Answers s label a reference (.ok (.notInPool, s))
  /-- The address is the reference's own. -/
  | owned (hrow : s.IsBound label a reference) :
      Answers s label a reference (.ok (.alreadyBound, s))
  /-- The address is another reference's. -/
  | held {owner : String} (hrow : s.IsBound label a owner) (hne : owner ≠ reference) :
      Answers s label a reference (.ok (.conflict, s))
  /-- The reference has an address already. -/
  | elsewhere {b : Address} (hfree : s.IsFree label a)
      (howned : s.lookup label reference = some b) :
      Answers s label a reference (.ok (.referenceBound b, s))
  /-- The reference is in use as a token. -/
  | clash (hfree : s.IsFree label a) (hnone : s.lookup label reference = none)
      (htoken : s.TokenElsewhere label a reference) :
      Answers s label a reference (.error .duplicateReference)
  /-- Nothing is in the way. -/
  | taken {s' : Store} (hfree : s.IsFree label a) (hnone : s.lookup label reference = none)
      (hnew : ¬ s.TokenElsewhere label a reference) (htakes : s.Takes label a reference s') :
      Answers s label a reference (.ok (.allocated, s'))

/-- **Every request meets one of the situations.** -/
theorem answers_allocateExact (hs : s.Valid) (label : String) (a : Address) (reference : String) :
    s.Answers label a reference (s.allocateExact label a reference) := by
  cases hpool : s.pools.get? label with
  | none =>
      have hrow : s.entry? label a = none := entry?_of_no_pool hpool a
      rw [allocateExact, hpool]
      exact .missing hrow
  | some p =>
      have hp : p.Valid := hs _ _ hpool
      have hlookup := lookup_eq hpool reference
      rcases hrow : p.row? a with _ | ⟨b, token | owner⟩
      · have hmissing : s.entry? label a = none := by rw [entry?_eq hpool, hrow]; rfl
        simp only [allocateExact, hpool, hrow]
        exact .missing hmissing
      · obtain ⟨hmem, rfl⟩ := (Pool.row?_eq_some_iff hp).1 hrow
        have hfree : s.IsFree label b := ⟨token, (entry?_iff hpool hp).2 hmem⟩
        cases hnone : s.lookup label reference with
        | some c =>
            simp only [allocateExact, hpool, hrow, ← hlookup, hnone]
            exact .elsewhere hfree hnone
        | none =>
            rw [allocateExact_of_free hpool hp (hlookup ▸ hnone) hmem]
            have hclash := carriesElsewhere_iff (a := b) hpool hp hnone
            split_ifs with htoken
            · exact .clash hfree hnone (hclash.1 htoken)
            · exact .taken hfree hnone (fun h => htoken (hclash.2 h))
                (takes_setHolder hpool hp ⟨_, hmem, rfl⟩ (Bool.eq_false_iff.2 htoken))
      · obtain ⟨hmem, rfl⟩ := (Pool.row?_eq_some_iff hp).1 hrow
        have hbound : s.IsBound label b owner := (entry?_iff hpool hp).2 hmem
        simp only [allocateExact, hpool, hrow]
        split_ifs with hown
        · subst hown
          exact .owned hbound
        · exact .held hbound hown

/-- **In each situation exactly one answer is right, the one that is given.** -/
theorem Answers.warrants_iff {given : Except StoreError (ExactAllocation × Store)}
    (h : s.Answers label a reference given) (answer : Except StoreError ExactAllocation) :
    s.Warrants label a reference answer ↔ given.map Prod.fst = answer := by
  cases h with
  | missing hrow =>
      rcases answer with (_ | _ | _ | _) | (_ | _ | _ | _ | _) <;>
        simp [Except.map, Warrants, IsFree, IsBound, IsToken, hrow]
  | owned hrow =>
      rw [IsBound] at hrow
      rcases answer with (_ | _ | _ | _) | (_ | _ | _ | _ | _) <;>
        simp [Except.map, Warrants, IsFree, IsBound, IsToken, hrow]
  | held hrow hne =>
      rw [IsBound] at hrow
      rcases answer with (_ | _ | _ | _) | (_ | _ | _ | _ | _) <;>
        simp [Except.map, Warrants, IsFree, IsBound, IsToken, hrow, hne]
  | elsewhere hfree howned =>
      obtain ⟨token, hrow⟩ := hfree
      rw [IsToken] at hrow
      rcases answer with (_ | _ | _ | _) | (_ | _ | _ | _ | _) <;>
        simp [Except.map, Warrants, IsFree, IsBound, IsToken, hrow, howned]
  | clash hfree hnone htoken =>
      obtain ⟨token, hrow⟩ := hfree
      rw [IsToken] at hrow
      rcases answer with (_ | _ | _ | _) | (_ | _ | _ | _ | _) <;>
        simp [Except.map, Warrants, IsFree, IsBound, IsToken, hrow, hnone, htoken]
  | taken hfree hnone hnew =>
      obtain ⟨token, hrow⟩ := hfree
      rw [IsToken] at hrow
      rcases answer with (_ | _ | _ | _) | (_ | _ | _ | _ | _) <;>
        simp [Except.map, Warrants, IsFree, IsBound, IsToken, hrow, hnone, hnew]

/-- Without a new owner the store stays as it is. -/
lemma Answers.orSame_eq {given : Except StoreError (ExactAllocation × Store)}
    (h : s.Answers label a reference given)
    (hnot : ¬ s.Warrants label a reference (.ok .allocated)) :
    s.orSame given = s := by
  cases h with
  | missing | owned | held | elsewhere | clash => rfl
  | taken hfree hnone hnew => exact absurd ⟨hfree, hnone, hnew⟩ hnot

/-- The reference that an allocation has bound owns the address afterwards, and so does the one that
owned it before. -/
lemma Answers.isBound {answer : ExactAllocation}
    (h : s.Answers label a reference (.ok (answer, s')))
    (hgot : answer = .allocated ∨ answer = .alreadyBound) : s'.IsBound label a reference := by
  cases h with
  | owned hrow => exact hrow
  | taken _ _ _ htakes => exact htakes.row
  | missing | held | elsewhere => simp at hgot

/-- An owner that asks for its address is told that it has it. -/
lemma allocateExact_of_isBound (hs : s.Valid) (hrow : s.IsBound label a reference) :
    s.allocateExact label a reference = .ok (.alreadyBound, s) := by
  obtain ⟨p, hpool, -⟩ := Option.bind_eq_some_iff.1 ((hs.consistent.lookup ..).2 hrow)
  have hp : p.Valid := hs _ _ hpool
  exact allocateExact_of_owned hpool hp
    ((Pool.owned?_eq_some_iff hp).2 ((entry?_iff hpool hp).1 hrow))

/-! ## The allocation -/

/-- What is known of an allocation of one address of a pool to a reference. -/
structure Classifies (s : Store) (label : String) (a : Address) (reference : String) : Prop where
  /-- Every answer, the error included, is given exactly when it is right. -/
  answer_iff : ∀ answer, (s.allocateExact label a reference).map Prod.fst = answer ↔
    s.Warrants label a reference answer
  /-- An address that stands in the way is another one than that asked for. -/
  elsewhere : ∀ b, s.Warrants label a reference (.ok (.referenceBound b)) → b ≠ a
  /-- An allocation binds exactly the row of the address. -/
  taken : ∀ s', s.allocateExact label a reference = .ok (.allocated, s') →
    s.Takes label a reference s' ∧ s'.lookup label reference = some a
  /-- With any other answer the store stays as it is. -/
  unchanged : ¬ s.Warrants label a reference (.ok .allocated) →
    (Change.allocateExact label a reference).apply s = s
  /-- Whoever has got the address, or had it before, is told so when it asks again. -/
  repeated : ∀ answer s', s.allocateExact label a reference = .ok (answer, s') →
    answer = .allocated ∨ answer = .alreadyBound →
    s'.allocateExact label a reference = .ok (.alreadyBound, s')

/-- **A request for one address is answered exactly as the store warrants,** and the store changes
only if the address is allocated. -/
theorem allocateExact_classifies (hs : s.Reachable) (label : String) (a : Address)
    (reference : String) : s.Classifies label a reference := by
  have hanswers := answers_allocateExact hs.valid label a reference
  have hvalid : ∀ {answer s'}, s.allocateExact label a reference = .ok (answer, s') → s'.Valid :=
    fun hok => (rewrites_allocateExact hok).valid hs.valid
  refine ⟨fun answer => (hanswers.warrants_iff answer).symm, ?_, fun s' hok => ?_,
    hanswers.orSame_eq, fun answer s' hok hgot => ?_⟩
  · rintro b ⟨⟨token, hfree⟩, howned⟩ rfl
    have hbound := (hs.valid.consistent.lookup ..).1 howned
    rw [IsToken, hbound] at hfree
    cases hfree
  · rw [hok] at hanswers
    cases hanswers with
    | taken _ _ _ htakes =>
        exact ⟨htakes, ((hvalid hok).consistent.lookup ..).2 htakes.row⟩
  · rw [hok] at hanswers
    exact allocateExact_of_isBound (hvalid hok) (hanswers.isBound hgot)

/-- The two addresses of a pool are free with the tokens `""` and `"-"`.  The second token is
refused for the first address and bound to its own.  Once `www` has the first address, all other
answers occur. -/
theorem allocateExact_classifies_of_pair :
    Local.pairStore.Reachable ∧
    (Local.pairStore.allocateExact "lan" (.ofNat 0x0A000001) "-").map Prod.fst
      = .error .duplicateReference ∧
    (Local.pairStore.allocateExact "lan" (.ofNat 0x0A000002) "-").map Prod.fst = .ok .allocated ∧
    ∃ s', Local.pairStore.allocateExact "lan" (.ofNat 0x0A000001) "www" = .ok (.allocated, s') ∧
      s'.Reachable ∧
      (s'.allocateExact "lan" (.ofNat 0x0A000001) "mail").map Prod.fst = .ok .conflict ∧
      (s'.allocateExact "lan" (.ofNat 0x0A000002) "www").map Prod.fst
        = .ok (.referenceBound (.ofNat 0x0A000001)) ∧
      (s'.allocateExact "lan" (.ofNat 0x0A000003) "mail").map Prod.fst = .ok .notInPool ∧
      s'.allocateExact "lan" (.ofNat 0x0A000001) "www" = .ok (.alreadyBound, s') := by
  have hs : Local.pairStore.Reachable := reachable_empty.start Local.start_pairConfig
  have hp := hs.valid "lan" _ rfl
  have hclassifies := allocateExact_classifies hs "lan"
  have hclash : Local.pairStore.TokenElsewhere "lan" (.ofNat 0x0A000001) "-" :=
    ⟨.ofNat 0x0A000002, by decide, rfl⟩
  have hown : ¬ Local.pairStore.TokenElsewhere "lan" (.ofNat 0x0A000002) "-" := by
    rw [TokenElsewhere, ← carriesElsewhere_iff rfl hp rfl]
    decide
  have hnew : ¬ Local.pairStore.TokenElsewhere "lan" (.ofNat 0x0A000001) "www" := by
    rw [TokenElsewhere, ← carriesElsewhere_iff rfl hp rfl]
    decide
  refine ⟨hs, ((hclassifies _ _).answer_iff _).2 ⟨⟨"", rfl⟩, rfl, hclash⟩,
    ((hclassifies _ _).answer_iff _).2 ⟨⟨"-", rfl⟩, rfl, hown⟩, ?_⟩
  have hanswer := ((hclassifies (.ofNat 0x0A000001) "www").answer_iff (.ok .allocated)).2
    ⟨⟨"", rfl⟩, rfl, hnew⟩
  cases hok : Local.pairStore.allocateExact "lan" (.ofNat 0x0A000001) "www" with
  | error e =>
      rw [hok] at hanswer
      cases hanswer
  | ok given =>
      obtain ⟨answer, s'⟩ := given
      rw [hok] at hanswer
      cases hanswer
      obtain ⟨htakes, hlookup⟩ := (hclassifies _ _).taken s' hok
      have hs' : s'.Reachable := by
        have hafter := hs.apply (.allocateExact "lan" (.ofNat 0x0A000001) "www")
        rw [Change.apply, hok] at hafter
        exact hafter
      have hsecond : s'.IsFree "lan" (.ofNat 0x0A000002) :=
        ⟨"-", (htakes.others _ _ (.inr (by decide))).trans rfl⟩
      have hthird : s'.entry? "lan" (.ofNat 0x0A000003) = none :=
        (htakes.others _ _ (.inr (by decide))).trans rfl
      have hclassifies' := allocateExact_classifies hs' "lan"
      exact ⟨s', rfl, hs', ((hclassifies' _ _).answer_iff _).2 ⟨"www", by decide, htakes.row⟩,
        ((hclassifies' _ _).answer_iff _).2 ⟨hsecond, hlookup⟩,
        ((hclassifies' _ _).answer_iff _).2 hthird,
        (hclassifies _ _).repeated _ _ hok (.inl rfl)⟩

end Ipam.Store
