import Ipam.Coordinator.Queue
import Ipam.Proofs.Coordinator.Desired

/-!
# The coordinator between its queues

The producer, the coordinator and the consumer take turns in any order.  Whatever the order, the
operations are carried out as they were sent, and no outcome is lost while somebody listens.

* `Pipeline.send?_eq_some` and its companions — when a move is possible, and what it leaves.
* `Pipeline.Sound` — the operations that were carried out, the state that they have left, and where
  their outcomes are.
* `Pipeline.left` — a number that every move lowers, so that no run goes on for ever.
* `Pipeline.Sound.complete_of_resting` — when nothing can happen any more, everything has happened.
* **`Pipeline.applied_in_order`** — all of this for every run, from any state of the backend.
-/

namespace Ipam.Coordinator.Pipeline

variable {σ : Type} {backend : Backend σ} {capacity : Nat} {p p' : Pipeline σ}

/-! ## Single moves -/

/-- There is room for one at least. -/
lemma places_pos (capacity : Nat) : 0 < places capacity :=
  Nat.lt_of_lt_of_le Nat.one_pos (Nat.le_max_right capacity 1)

lemma send?_eq_some : p.send? capacity = some p' ↔
    ∃ op unsent, p.unsent = op :: unsent ∧ p.requests.length < places capacity ∧
      p' = { p with unsent, requests := p.requests ++ [op] } := by
  rw [send?]
  cases hunsent : p.unsent with
  | nil => simp
  | cons op unsent =>
      split_ifs with hroom
      · constructor
        · intro heq
          exact ⟨op, unsent, rfl, hroom, (Option.some.inj heq).symm⟩
        · rintro ⟨_, _, hcons, -, rfl⟩
          cases hcons
          rfl
      · refine iff_of_false (by simp) ?_
        rintro ⟨_, _, -, hless, -⟩
        exact hroom hless

lemma close?_eq_some : p.close? = some p' ↔
    p.unsent = [] ∧ p.closed = false ∧ p' = { p with closed := true } := by
  rw [close?]
  cases p.closed <;> simp [@eq_comm _ _ p']

lemma work?_eq_some : p.work? backend = some p' ↔
    ∃ op requests, p.pending = none ∧ p.requests = op :: requests ∧
      p' = { p with
        requests
        state := (process backend op p.state).2
        pending := some (process backend op p.state).1 } := by
  rw [work?]
  cases hpending : p.pending with
  | some outcome => simp
  | none =>
      cases hrequests : p.requests with
      | nil => simp
      | cons op requests =>
          constructor
          · intro heq
            exact ⟨op, requests, rfl, rfl, (Option.some.inj heq).symm⟩
          · rintro ⟨_, _, -, hcons, rfl⟩
            cases hcons
            rfl

/-- An outcome is queued while somebody listens, and dropped from then on. -/
lemma publish?_eq_some : p.publish? capacity = some p' ↔
    ∃ outcome, p.pending = some outcome ∧
      (((p.publishes = false ∨ p.listening = false) ∧
          p' = { p with pending := none, publishes := false }) ∨
        (p.publishes = true ∧ p.listening = true ∧ p.results.length < places capacity ∧
          p' = { p with pending := none, results := p.results ++ [outcome] })) := by
  rw [publish?]
  cases hpending : p.pending with
  | none => simp
  | some outcome =>
      cases hpublishes : p.publishes with
      | false => simp [@eq_comm _ _ p']
      | true =>
          cases hlistening : p.listening with
          | false => simp [@eq_comm _ _ p']
          | true =>
              by_cases hroom : p.results.length < places capacity
              · simp [hroom, @eq_comm _ _ p']
              · refine iff_of_false (by simp [hroom]) ?_
                rintro ⟨_, -, ⟨hsilent | hleft, -⟩ | ⟨-, -, hless, -⟩⟩
                · cases hsilent
                · cases hleft
                · exact hroom hless

lemma receive?_eq_some : p.receive? = some p' ↔
    ∃ outcome results, p.listening = true ∧ p.results = outcome :: results ∧
      p' = { p with results, received := p.received ++ [outcome] } := by
  rw [receive?]
  cases hlistening : p.listening with
  | false => simp
  | true =>
      cases hresults : p.results with
      | nil => simp
      | cons outcome results => simp [@eq_comm _ _ p']

lemma leave?_eq_some : p.leave? = some p' ↔
    p.listening = true ∧ p' = { p with listening := false, results := [] } := by
  rw [leave?]
  cases p.listening <;> simp [@eq_comm _ _ p']

lemma finish?_eq_some : p.finish? = some p' ↔
    p.closed = true ∧ p.requests = [] ∧ p.pending = none ∧ p.finished = false ∧
      p' = { p with finished := true } := by
  rw [finish?]
  cases p.closed <;> cases p.requests <;> cases p.pending <;> cases p.finished <;>
    simp [@eq_comm _ _ p']

/-! ## What every state keeps -/

variable {s : σ} {ops done : List Operation}

/-- The operations `done` have been carried out, from the state `s`, of all that there are to send. -/
structure Sound (backend : Backend σ) (capacity : Nat) (s : σ) (ops done : List Operation)
    (p : Pipeline σ) : Prop where
  /-- They are the first of all, and the others are still waiting, in order. -/
  order : ops = done ++ (p.requests ++ p.unsent)
  /-- The state is what they have left, one after the other. -/
  state : p.state = (processAll backend done s).2
  /-- While somebody listens, their outcomes were received, are queued or are being published. -/
  heard : p.listening = true →
    p.received ++ p.results ++ p.pending.toList = (processAll backend done s).1
  /-- A consumer that has gone away has received the first of the outcomes. -/
  unheard : p.received <+: (processAll backend done s).1
  /-- The coordinator publishes as long as somebody listens. -/
  publishes : p.listening = true → p.publishes = true
  /-- The queue is closed after the last operation. -/
  closed : p.closed = true → p.unsent = []
  /-- The coordinator ends with a closed and empty queue and no outcome at hand. -/
  finished : p.finished = true → p.closed = true ∧ p.requests = [] ∧ p.pending = none
  /-- No queue holds more than it has places. -/
  bounded : p.requests.length ≤ places capacity ∧ p.results.length ≤ places capacity

lemma sound_initial (backend : Backend σ) (capacity : Nat) (s : σ) (ops : List Operation) :
    Sound backend capacity s ops [] (initial s ops) where
  order := rfl
  state := rfl
  heard _ := rfl
  unheard := List.nil_prefix
  publishes _ := rfl
  closed h := by cases h
  finished h := by cases h
  bounded := ⟨Nat.zero_le _, Nat.zero_le _⟩

namespace Sound

lemma send (h : Sound backend capacity s ops done p) (hmove : p.send? capacity = some p') :
    Sound backend capacity s ops done p' := by
  obtain ⟨op, unsent, hunsent, hroom, rfl⟩ := send?_eq_some.1 hmove
  refine { h with order := ?_, closed := fun hclosed => ?_, finished := fun hfinished => ?_,
                  bounded := ⟨?_, h.bounded.2⟩ }
  · simp [h.order, hunsent]
  · rw [h.closed hclosed] at hunsent
    cases hunsent
  · rw [h.closed (h.finished hfinished).1] at hunsent
    cases hunsent
  · simpa using hroom

lemma close (h : Sound backend capacity s ops done p) (hmove : p.close? = some p') :
    Sound backend capacity s ops done p' := by
  obtain ⟨hunsent, -, rfl⟩ := close?_eq_some.1 hmove
  exact { h with
    closed := fun _ => hunsent
    finished := fun hfinished => ⟨rfl, (h.finished hfinished).2⟩ }

/-- The one move that carries an operation out. -/
lemma work (h : Sound backend capacity s ops done p) (hmove : p.work? backend = some p') :
    ∃ op, Sound backend capacity s ops (done ++ [op]) p' := by
  obtain ⟨op, requests, hpending, hrequests, rfl⟩ := work?_eq_some.1 hmove
  have hrun : processAll backend (done ++ [op]) s
      = ((processAll backend done s).1 ++ [(process backend op p.state).1],
          (process backend op p.state).2) := by
    rw [processAll_concat, h.state]
  refine ⟨op, { h with order := ?_, state := ?_, heard := fun hlistening => ?_, unheard := ?_,
                       finished := fun hfinished => ?_, bounded := ⟨?_, h.bounded.2⟩ }⟩
  · simp [h.order, hrequests]
  · rw [hrun]
  · have hheard := h.heard hlistening
    rw [hpending, Option.toList_none, List.append_nil] at hheard
    rw [hrun, ← hheard]
    rfl
  · rw [hrun]
    exact h.unheard.trans (List.prefix_append _ _)
  · rw [(h.finished hfinished).2.1] at hrequests
    cases hrequests
  · have hlength := h.bounded.1
    rw [hrequests, List.length_cons] at hlength
    exact Nat.le_of_succ_le hlength

lemma publish (h : Sound backend capacity s ops done p) (hmove : p.publish? capacity = some p') :
    Sound backend capacity s ops done p' := by
  obtain ⟨outcome, hpending, ⟨hgone, rfl⟩ | ⟨-, -, hroom, rfl⟩⟩ := publish?_eq_some.1 hmove
  · -- Nobody listens: a coordinator that has stopped publishing has met nobody.
    have hdeaf : p.listening ≠ true := by
      intro hlistening
      rcases hgone with hsilent | hleft
      · rw [h.publishes hlistening] at hsilent
        cases hsilent
      · rw [hlistening] at hleft
        cases hleft
    refine { h with heard := fun hlistening => absurd hlistening hdeaf,
                    publishes := fun hlistening => absurd hlistening hdeaf,
                    finished := fun hfinished => ?_ }
    obtain ⟨hclosed, hrequests, -⟩ := h.finished hfinished
    exact ⟨hclosed, hrequests, rfl⟩
  · refine { h with heard := fun hlistening => ?_, finished := fun hfinished => ?_,
                    bounded := ⟨h.bounded.1, ?_⟩ }
    · rw [← h.heard hlistening, hpending]
      simp
    · obtain ⟨hclosed, hrequests, -⟩ := h.finished hfinished
      exact ⟨hclosed, hrequests, rfl⟩
    · simpa using hroom

lemma receive (h : Sound backend capacity s ops done p) (hmove : p.receive? = some p') :
    Sound backend capacity s ops done p' := by
  obtain ⟨outcome, results, hlistening, hresults, rfl⟩ := receive?_eq_some.1 hmove
  have hheard := h.heard hlistening
  rw [hresults] at hheard
  refine { h with heard := fun _ => ?_, unheard := ?_, bounded := ⟨h.bounded.1, ?_⟩ }
  · rw [← hheard]
    simp
  · rw [← hheard]
    exact ⟨results ++ p.pending.toList, by simp⟩
  · have hlength := h.bounded.2
    rw [hresults, List.length_cons] at hlength
    exact Nat.le_of_succ_le hlength

lemma leave (h : Sound backend capacity s ops done p) (hmove : p.leave? = some p') :
    Sound backend capacity s ops done p' := by
  obtain ⟨-, rfl⟩ := leave?_eq_some.1 hmove
  exact { h with heard := fun hlistening => by cases hlistening
                 publishes := fun hlistening => by cases hlistening
                 bounded := ⟨h.bounded.1, Nat.zero_le _⟩ }

lemma finish (h : Sound backend capacity s ops done p) (hmove : p.finish? = some p') :
    Sound backend capacity s ops done p' := by
  obtain ⟨hclosed, hrequests, hpending, -, rfl⟩ := finish?_eq_some.1 hmove
  exact { h with finished := fun _ => ⟨hclosed, hrequests, hpending⟩ }

/-- **Every move keeps the order.** -/
theorem step (h : Sound backend capacity s ops done p) {move : Move}
    (hmove : p.step? backend capacity move = some p') :
    ∃ done', Sound backend capacity s ops done' p' := by
  cases move with
  | send => exact ⟨done, h.send hmove⟩
  | close => exact ⟨done, h.close hmove⟩
  | work =>
      obtain ⟨op, hwork⟩ := h.work hmove
      exact ⟨done ++ [op], hwork⟩
  | publish => exact ⟨done, h.publish hmove⟩
  | receive => exact ⟨done, h.receive hmove⟩
  | leave => exact ⟨done, h.leave hmove⟩
  | finish => exact ⟨done, h.finish hmove⟩

/-- A coordinator that has ended has carried everything out. -/
lemma done_of_finished (h : Sound backend capacity s ops done p) (hfinished : p.finished = true) :
    done = ops := by
  obtain ⟨hclosed, hrequests, -⟩ := h.finished hfinished
  rw [h.order, hrequests, h.closed hclosed, List.append_nil, List.append_nil]

end Sound

/-! ## Every run comes to an end -/

/-- More than the number of moves that are still to come: an operation is sent, carried out,
published and received; and once each the queue is closed, the consumer leaves and the coordinator
ends. -/
def left (p : Pipeline σ) : Nat :=
  4 * p.unsent.length + 3 * p.requests.length + 2 * p.pending.toList.length + p.results.length
    + (if p.closed then 0 else 1) + (if p.listening then 1 else 0) + (if p.finished then 0 else 1)

/-- **Every move lowers the number of moves to come.** -/
theorem left_of_step {move : Move} (hmove : p.step? backend capacity move = some p') :
    p'.left < p.left := by
  cases move with
  | send =>
      obtain ⟨op, unsent, hunsent, -, rfl⟩ := send?_eq_some.1 hmove
      simp only [left, hunsent, List.length_append, List.length_cons, List.length_nil]
      omega
  | close =>
      obtain ⟨-, hclosed, rfl⟩ := close?_eq_some.1 hmove
      simp only [left, hclosed, if_true, Bool.false_eq_true, if_false]
      omega
  | work =>
      obtain ⟨op, requests, hpending, hrequests, rfl⟩ := work?_eq_some.1 hmove
      simp only [left, hpending, hrequests, Option.toList_none, Option.toList_some,
        List.length_cons, List.length_nil]
      omega
  | publish =>
      obtain ⟨outcome, hpending, ⟨-, rfl⟩ | ⟨-, -, -, rfl⟩⟩ := publish?_eq_some.1 hmove
      · simp only [left, hpending, Option.toList_none, Option.toList_some, List.length_cons,
          List.length_nil]
        omega
      · simp only [left, hpending, Option.toList_none, Option.toList_some, List.length_append,
          List.length_cons, List.length_nil]
        omega
  | receive =>
      obtain ⟨outcome, results, -, hresults, rfl⟩ := receive?_eq_some.1 hmove
      simp only [left, hresults, List.length_cons]
      omega
  | leave =>
      obtain ⟨hlistening, rfl⟩ := leave?_eq_some.1 hmove
      simp only [left, hlistening, if_true, Bool.false_eq_true, if_false, List.length_nil]
      omega
  | finish =>
      obtain ⟨-, -, -, hfinished, rfl⟩ := finish?_eq_some.1 hmove
      simp only [left, hfinished, if_true, Bool.false_eq_true, if_false]
      omega

/-! ## Nobody is stuck -/

/-- Nothing can happen any more, unless the consumer goes away. -/
def Resting (backend : Backend σ) (capacity : Nat) (p : Pipeline σ) : Prop :=
  ∀ move p', p.step? backend capacity move = some p' → move = .leave

/-- With nobody listening, an outcome at hand does not hold the coordinator up. -/
lemma exists_publish (capacity : Nat) (hpending : p.pending ≠ none)
    (hlistening : p.listening = false) :
    ∃ p', p.publish? capacity = some p' := by
  obtain ⟨outcome, houtcome⟩ := Option.ne_none_iff_exists'.1 hpending
  exact ⟨_, publish?_eq_some.2 ⟨outcome, houtcome, .inl ⟨.inr hlistening, rfl⟩⟩⟩

namespace Resting

variable (hrest : p.Resting backend capacity)

include hrest

/-- A consumer has received everything that was queued. -/
lemma results_eq (hlistening : p.listening = true) : p.results = [] := by
  cases hresults : p.results with
  | nil => rfl
  | cons outcome results =>
      cases hrest .receive _ (receive?_eq_some.2 ⟨outcome, results, hlistening, hresults, rfl⟩)

lemma pending_eq : p.pending = none := by
  by_contra hpending
  cases hlistening : p.listening with
  | false =>
      obtain ⟨p', hpublish⟩ := exists_publish capacity hpending hlistening
      cases hrest .publish p' hpublish
  | true =>
      -- The queue of outcomes is empty, so there is a place for one more.
      obtain ⟨outcome, houtcome⟩ := Option.ne_none_iff_exists'.1 hpending
      have hroom : p.results.length < places capacity := by
        rw [hrest.results_eq hlistening]
        exact places_pos capacity
      cases hpublishes : p.publishes with
      | false =>
          cases hrest .publish _ (publish?_eq_some.2
            ⟨outcome, houtcome, .inl ⟨.inl hpublishes, rfl⟩⟩)
      | true =>
          cases hrest .publish _ (publish?_eq_some.2
            ⟨outcome, houtcome, .inr ⟨hpublishes, hlistening, hroom, rfl⟩⟩)

lemma requests_eq : p.requests = [] := by
  cases hrequests : p.requests with
  | nil => rfl
  | cons op requests =>
      cases hrest .work _ (work?_eq_some.2 ⟨op, requests, hrest.pending_eq, hrequests, rfl⟩)

lemma unsent_eq : p.unsent = [] := by
  cases hunsent : p.unsent with
  | nil => rfl
  | cons op unsent =>
      have hroom : p.requests.length < places capacity := by
        rw [hrest.requests_eq]
        exact places_pos capacity
      cases hrest .send _ (send?_eq_some.2 ⟨op, unsent, hunsent, hroom, rfl⟩)

lemma finished_eq : p.finished = true := by
  have hclosed : p.closed = true := by
    by_contra hopen
    cases hrest .close _ (close?_eq_some.2 ⟨hrest.unsent_eq, Bool.eq_false_iff.2 hopen, rfl⟩)
  by_contra hrunning
  cases hrest .finish _ (finish?_eq_some.2
    ⟨hclosed, hrest.requests_eq, hrest.pending_eq, Bool.eq_false_iff.2 hrunning, rfl⟩)

end Resting

/-- **When nothing can happen any more, everything has happened:** all operations were carried out,
and a consumer that is still there has received all outcomes. -/
theorem Sound.complete_of_resting (h : Sound backend capacity s ops done p)
    (hrest : p.Resting backend capacity) :
    p.finished = true ∧ p.state = (processAll backend ops s).2 ∧
      (p.listening = true → p.received = (processAll backend ops s).1) := by
  have hfinished := hrest.finished_eq
  have hdone := h.done_of_finished hfinished
  refine ⟨hfinished, hdone ▸ h.state, fun hlistening => ?_⟩
  have hheard := h.heard hlistening
  rwa [hrest.results_eq hlistening, hrest.pending_eq, Option.toList_none, List.append_nil,
    List.append_nil, hdone] at hheard

/-! ## Runs -/

lemma run?_cons {move : Move} {moves : List Move} :
    run? backend capacity (move :: moves) p = some p' ↔
      ∃ next, p.step? backend capacity move = some next ∧
        run? backend capacity moves next = some p' := by
  rw [run?, List.foldlM_cons]
  exact Option.bind_eq_some_iff

/-- What every move keeps, every run keeps; and a run has no more moves than there were to come. -/
lemma Sound.run {moves : List Move} (h : Sound backend capacity s ops done p)
    (hrun : run? backend capacity moves p = some p') :
    (∃ done', Sound backend capacity s ops done' p') ∧ moves.length + p'.left ≤ p.left := by
  induction moves generalizing done p with
  | nil =>
      cases hrun
      exact ⟨⟨done, h⟩, by simp⟩
  | cons move moves ih =>
      obtain ⟨next, hmove, hrest⟩ := run?_cons.1 hrun
      obtain ⟨done', hnext⟩ := h.step hmove
      obtain ⟨hsound, hlength⟩ := ih hnext hrest
      have hless := left_of_step hmove
      exact ⟨hsound, by rw [List.length_cons]; omega⟩

/-- **However the moves follow one another, every operation is carried out once and in the order in
which it was sent.**  While somebody listens no outcome is lost; when the consumer goes away, it has
received the first outcomes, and the coordinator goes on with all the operations that are left.  It
has ended only after the last of them, it never waits for a consumer that is gone, and no run goes
on for ever: a run that cannot go on has carried out everything. -/
theorem applied_in_order (backend : Backend σ) (capacity : Nat) (s : σ) (ops : List Operation)
    {moves : List Move} {p : Pipeline σ}
    (hrun : run? backend capacity moves (initial s ops) = some p) :
    (∃ done, Sound backend capacity s ops done p ∧ (p.finished = true → done = ops)) ∧
      (p.listening = false → p.pending ≠ none → ∃ p', p.publish? capacity = some p') ∧
      moves.length ≤ 4 * ops.length + 3 ∧
      (p.Resting backend capacity → p.finished = true ∧ p.state = (processAll backend ops s).2 ∧
        (p.listening = true → p.received = (processAll backend ops s).1)) := by
  obtain ⟨⟨done, hsound⟩, hlength⟩ := (sound_initial backend capacity s ops).run hrun
  refine ⟨⟨done, hsound, hsound.done_of_finished⟩, fun hlistening hpending =>
    exists_publish capacity hpending hlistening, ?_, hsound.complete_of_resting⟩
  have hinitial : (initial s ops).left = 4 * ops.length + 3 := by simp [left, initial]
  omega

/-- Two hosts ask for an address, and the first gives it back. -/
def threeOperations : List Operation :=
  [.create ⟨"web", "prod"⟩ (some "www") none "lan", .create ⟨"web", "prod"⟩ (some "mail") none "lan",
    .delete ⟨"web", "prod"⟩ (some "www") none "lan"]

/-- With one place in each queue, the second outcome waits behind the first when the consumer goes
away. -/
def leaving : List Move :=
  [.send, .work, .publish, .send, .work, .leave, .publish, .send, .work, .publish, .close, .finish]

/-- The coordinator goes on after the consumer has left. -/
theorem applied_in_order_of_leaving :
    ∃ p, run? (Local.backend Pool.Token.dashes) 1 leaving (initial Local.pairStore threeOperations)
        = some p ∧ p.listening = false ∧ p.finished = true ∧
      p.state = (processAll (Local.backend Pool.Token.dashes) threeOperations Local.pairStore).2 := by
  obtain ⟨p, hrun, hlistening, hfinished⟩ : ∃ p,
      run? (Local.backend Pool.Token.dashes) 1 leaving (initial Local.pairStore threeOperations)
        = some p ∧ p.listening = false ∧ p.finished = true := ⟨_, rfl, rfl, rfl⟩
  obtain ⟨⟨done, hsound, hdone⟩, -⟩ :=
    applied_in_order (Local.backend Pool.Token.dashes) 1 Local.pairStore threeOperations hrun
  have hstate := hsound.state
  rw [hdone hfinished] at hstate
  exact ⟨p, hrun, hlistening, hfinished, hstate⟩

end Ipam.Coordinator.Pipeline
