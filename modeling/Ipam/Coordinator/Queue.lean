import Ipam.Coordinator

/-!
# The queues around the coordinator

The coordinator takes operations from a bounded queue and publishes their outcomes on another one.
A producer fills the first queue and then closes it; a consumer empties the second and may go away
at any moment.

* `Pipeline` — the state of the backend, both queues and what either side still has to do.
* `Move`, `Pipeline.step?` — what can happen next; a move that is not possible answers none.
* `Pipeline.run?` — a sequence of moves.
* `Pipeline.lockstep` — the moves that carry every operation through before the next one is sent.
-/

namespace Ipam.Coordinator

/-- The coordinator between its two queues. -/
structure Pipeline (σ : Type) where
  /-- The state of the backend. -/
  state : σ
  /-- The operations that the producer has still to send. -/
  unsent : List Operation
  /-- Whether the producer has closed the queue. -/
  closed : Bool
  /-- The queue of operations, oldest first. -/
  requests : List Operation
  /-- The outcome that is being published. -/
  pending : Option Outcome
  /-- Whether the coordinator still publishes outcomes. -/
  publishes : Bool
  /-- The queue of outcomes, oldest first. -/
  results : List Outcome
  /-- Whether the consumer is there. -/
  listening : Bool
  /-- The outcomes that the consumer has received, oldest first. -/
  received : List Outcome
  /-- Whether the coordinator has come to its end. -/
  finished : Bool

/-- Something that can happen. -/
inductive Move where
  /-- The producer sends its next operation. -/
  | send
  /-- The producer, having sent everything, closes the queue. -/
  | close
  /-- The coordinator takes an operation and carries it out. -/
  | work
  /-- The coordinator gets rid of an outcome: into the queue, or nowhere when nobody listens. -/
  | publish
  /-- The consumer receives an outcome. -/
  | receive
  /-- The consumer goes away. -/
  | leave
  /-- The coordinator ends, since the queue is closed and empty. -/
  | finish
deriving DecidableEq

namespace Pipeline

variable {σ : Type}

/-- The coordinator before the first move. -/
def initial (state : σ) (ops : List Operation) : Pipeline σ where
  state := state
  unsent := ops
  closed := false
  requests := []
  pending := none
  publishes := true
  results := []
  listening := true
  received := []
  finished := false

/-- The number of places in each queue; there is always one. -/
def places (capacity : Nat) : Nat :=
  max capacity 1

/-- The producer sends its next operation. -/
def send? (capacity : Nat) (p : Pipeline σ) : Option (Pipeline σ) :=
  match p.unsent with
  | [] => none
  | op :: unsent =>
    if p.requests.length < places capacity then
      some { p with unsent, requests := p.requests ++ [op] }
    else
      none

/-- The producer closes the queue. -/
def close? (p : Pipeline σ) : Option (Pipeline σ) :=
  if p.unsent.isEmpty && !p.closed then some { p with closed := true } else none

/-- The coordinator takes an operation and carries it out. -/
def work? (backend : Backend σ) (p : Pipeline σ) : Option (Pipeline σ) :=
  match p.pending, p.requests with
  | none, op :: requests =>
    let (outcome, state) := (process backend op).run p.state
    some { p with requests, state, pending := some outcome }
  | _, _ => none

/-- The coordinator gets rid of an outcome.  With nobody listening it stops publishing for good;
with a full queue it waits. -/
def publish? (capacity : Nat) (p : Pipeline σ) : Option (Pipeline σ) :=
  match p.pending with
  | none => none
  | some outcome =>
    if !p.publishes || !p.listening then
      some { p with pending := none, publishes := false }
    else if p.results.length < places capacity then
      some { p with pending := none, results := p.results ++ [outcome] }
    else
      none

/-- The consumer receives an outcome. -/
def receive? (p : Pipeline σ) : Option (Pipeline σ) :=
  match p.listening, p.results with
  | true, outcome :: results => some { p with results, received := p.received ++ [outcome] }
  | _, _ => none

/-- The consumer goes away; what was queued for it is lost. -/
def leave? (p : Pipeline σ) : Option (Pipeline σ) :=
  if p.listening then some { p with listening := false, results := [] } else none

/-- The coordinator ends. -/
def finish? (p : Pipeline σ) : Option (Pipeline σ) :=
  if p.closed && p.requests.isEmpty && p.pending.isNone && !p.finished then
    some { p with finished := true }
  else
    none

/-- One move. -/
def step? (backend : Backend σ) (capacity : Nat) (move : Move) (p : Pipeline σ) :
    Option (Pipeline σ) :=
  match move with
  | .send => p.send? capacity
  | .close => p.close?
  | .work => p.work? backend
  | .publish => p.publish? capacity
  | .receive => p.receive?
  | .leave => p.leave?
  | .finish => p.finish?

/-- A sequence of moves. -/
def run? (backend : Backend σ) (capacity : Nat) (moves : List Move) (p : Pipeline σ) :
    Option (Pipeline σ) :=
  moves.foldlM (fun p move => p.step? backend capacity move) p

/-- The moves that carry `count` operations through one after the other, and then end; `listening`
says whether the consumer stays. -/
def lockstep (count : Nat) (listening : Bool) : List Move :=
  let each := if listening then [.send, .work, .publish, .receive] else [.send, .work, .publish]
  (if listening then [] else [.leave]) ++ (List.replicate count each).flatten ++ [.close, .finish]

end Pipeline

end Ipam.Coordinator
