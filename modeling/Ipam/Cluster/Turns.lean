import Ipam.Cluster.Controller

/-!
# Taking turns

A run that is carried out needs an order.  Here the parts take turns: one runs until it has to wait,
and it is queued again as soon as what it waits for is there.  Calls to the server go through a
courier, which is queued like any part, so a caller always loses its turn before its call is made.

* `Turns` — the parts that are to run, and the calls on their way.
* `Turns.step?` — one step of the part whose turn it is.
* `Controller.settle` — steps until nothing moves any more.
-/

namespace Ipam.Cluster

/-- Those who take turns. -/
inductive Part where
  | watcher
  | coordinator
  | writer
  | courier
deriving DecidableEq

/-- A controller whose parts take turns. -/
structure Turns (σ : Type) where
  controller : Controller σ
  /-- The parts that are to run; the first one has its turn. -/
  ready : List Part := [.watcher]
  /-- The callers whose calls the courier has not brought to the server yet. -/
  mail : List Part := []
  /-- The callers whose calls can be made. -/
  admitted : List Part := []
  /-- Whether the status writer has got the resource and is about to patch it. -/
  fetched : Bool := false

namespace Turns

variable {σ : Type}

/-! ## Waiting -/

/-- Queues a part, unless it is queued already. -/
def wake (t : Turns σ) (part : Part) : Turns σ :=
  if part ∈ t.ready then t else { t with ready := t.ready ++ [part] }

/-- Queues a part if it waits. -/
def wakeIf (t : Turns σ) (waits : Bool) (part : Part) : Turns σ :=
  if waits then t.wake part else t

/-- Hands a call to the courier. -/
def post (t : Turns σ) (caller : Part) : Turns σ :=
  { t with mail := t.mail ++ [caller] }.wake .courier

/-- The call of a caller is made. -/
def close (t : Turns σ) (caller : Part) : Turns σ :=
  { t with admitted := t.admitted.erase caller }

/-- Whether the next step of the watcher is a call to the server. -/
def isCalling (w : Watcher) : Bool :=
  match w.changes with
  | change :: _ => change.isDeletion
  | [] => !w.resting && (w.phase matches .unlisted || w.phase matches .listed)

/-- Whether the watcher waits for an event. -/
def awaitsEvent (t : Turns σ) : Bool :=
  t.controller.pipeline.unsent.isEmpty && t.controller.server.watched
    && !t.mail.contains .watcher && !t.admitted.contains .watcher

/-! ## Turns -/

/-- The watcher sends what it has to send, then it looks for more.  It waits while the queue is
full, while a call is on its way, while no event comes, and while it rests. -/
def runWatcher? (e : Controller.Setting σ) (t : Turns σ) : Option (Turns σ) :=
  let s := t.controller
  if !s.pipeline.unsent.isEmpty then
    (s.act? e .send).map fun s' =>
      { t with controller := s' }.wakeIf s.pipeline.pending.isNone .coordinator
  else if isCalling s.watcher then
    if t.admitted.contains .watcher then
      (s.act? e .watch).map fun s' => { t with controller := s' }.close .watcher
    else if t.mail.contains .watcher then none
    else some (t.post .watcher)
  else if s.watcher.changes.isEmpty && s.watcher.resting then none
  else (s.act? e .watch).map fun s' => { t with controller := s' }

/-- The coordinator gets rid of its outcome, then it takes an operation.  It waits while the queue
of outcomes is full and while there are no operations. -/
def runCoordinator? (e : Controller.Setting σ) (t : Turns σ) : Option (Turns σ) :=
  let s := t.controller
  match s.act? e .publish with
  | some s' => some ({ t with controller := s' }.wakeIf s.writing.isNone .writer)
  | none =>
    (s.act? e .work).map fun s' =>
      { t with controller := s' }.wakeIf (!s.pipeline.unsent.isEmpty) .watcher

/-- The status writer is done with its outcome. -/
def finishWrite (e : Controller.Setting σ) (t : Turns σ) : Option (Turns σ) :=
  let s := t.controller
  (s.act? e .write).map fun s' =>
    ({ t with controller := s', fetched := false }.close .writer).wakeIf t.awaitsEvent .watcher

/-- The status writer receives an outcome, gets the resource and patches it.  It waits while there
is no outcome and while a call is on its way. -/
def runWriter? (e : Controller.Setting σ) (t : Turns σ) : Option (Turns σ) :=
  let s := t.controller
  match s.writing with
  | none =>
    (s.act? e .receive).map fun s' =>
      { t with controller := s' }.wakeIf s.pipeline.pending.isSome .coordinator
  | some outcome =>
    if t.mail.contains .writer then none
    else if t.admitted.contains .writer then
      if !t.fetched && (Controller.planWrite s.server outcome).toOption.isSome then
        some ({ t with fetched := true }.close .writer |>.post .writer)
      else finishWrite e t
    else if (Server.pathOf? outcome.operation.owner.name).isSome then some (t.post .writer)
    else finishWrite e t

/-- The courier brings all calls to the server and goes to sleep. -/
def runCourier? (t : Turns σ) : Option (Turns σ) :=
  if t.mail.isEmpty then none
  else some (t.mail.foldl wake { t with mail := [], admitted := t.admitted ++ t.mail })

/-- One step of a part; none if it has to wait. -/
def run? (e : Controller.Setting σ) (t : Turns σ) : Part → Option (Turns σ)
  | .watcher => t.runWatcher? e
  | .coordinator => t.runCoordinator? e
  | .writer => t.runWriter? e
  | .courier => t.runCourier?

/-- One step of the part whose turn it is; one that has to wait loses its turn.  When nobody is to
run, the watcher has rested enough. -/
def step? (e : Controller.Setting σ) (t : Turns σ) : Option (Turns σ) :=
  match t.ready with
  | part :: rest => some ((t.run? e part).getD { t with ready := rest })
  | [] =>
    if t.controller.watcher.resting then
      (t.controller.act? e .watch).map fun s => { t with controller := s, ready := [.watcher] }
    else none

/-- Steps until nobody is to run any more, at most `fuel` of them. -/
def settle (e : Controller.Setting σ) (fuel : Nat) (t : Turns σ) : Turns σ :=
  match fuel with
  | 0 => t
  | fuel + 1 =>
    match t.step? e with
    | none => t
    | some t => t.settle e fuel

end Turns

/-- The controller after its parts took turns until nothing moves any more, in at most `fuel` steps.
-/
def Controller.settle {σ : Type} (e : Setting σ) (fuel : Nat) (s : Controller σ) : Controller σ :=
  (Turns.settle e fuel { controller := s }).controller

end Ipam.Cluster
