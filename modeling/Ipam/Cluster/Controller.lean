import Ipam.Cluster.Server
import Ipam.Coordinator.Queue
import Ipam.Metrics
import Ipam.Status
import Ipam.Watch.Cache

/-!
# The controller in its cluster

Watcher, coordinator and status writer run side by side between the API server and the backend.  The
watcher turns events into operations, the coordinator carries them out one at a time, and the status
writer folds the outcomes into the resources.

* `Controller` — the state of all parts.
* `Activity`, `Controller.act?` — one step of one part; a part that has nothing to do answers none.

The order of the activities is open: any sequence of steps is a run of the controller.
-/

namespace Ipam.Cluster

open Coordinator (Pipeline)

/-- What the watcher is doing. -/
inductive WatchPhase where
  /-- It has to list the resources. -/
  | unlisted
  /-- It goes through a listing; these resources are left. -/
  | listing (rest : List Resource)
  /-- It has to open a watch. -/
  | listed
  /-- It waits for events. -/
  | watching
  /-- It has ended, since nobody takes its operations. -/
  | ended
deriving Inhabited

/-- The watcher. -/
structure Watcher where
  phase : WatchPhase := .unlisted
  cache : Watch.Cache := {}
  /-- The changes whose operations are still to be found. -/
  changes : List Watch.Change := []
  /-- Whether it rests after an event that was an error. -/
  resting : Bool := false

/-- The one cause that ends the watcher: the coordinator takes no more operations. -/
inductive WatchError where
  | coordinatorGone
deriving DecidableEq

/-- The text of the error. -/
def WatchError.message : WatchError → String
  | .coordinatorGone => "Resource watch failed: coordinator request queue closed"

/-- Why the watcher has ended, if it has. -/
def Watcher.error? (w : Watcher) : Option WatchError :=
  match w.phase with
  | .ended => some .coordinatorGone
  | _ => none

/-- All parts together. -/
structure Controller (σ : Type) where
  server : Server
  watcher : Watcher
  /-- The coordinator between the watcher and the status writer. -/
  pipeline : Pipeline σ
  /-- Whether the coordinator runs. -/
  alive : Bool
  /-- The outcome that the status writer has received and not written yet. -/
  writing : Option Outcome
  metrics : Metrics

/-- The parts that can make a step. -/
inductive Activity where
  /-- The watcher lists, watches, and finds operations. -/
  | watch
  /-- The watcher sends an operation to the coordinator. -/
  | send
  /-- The coordinator publishes an outcome. -/
  | publish
  /-- The coordinator carries out an operation. -/
  | work
  /-- The status writer receives an outcome. -/
  | receive
  /-- The status writer writes the outcome that it received. -/
  | write
deriving DecidableEq

namespace Controller

variable {σ : Type}

/-- The controller before its first step. -/
def initial (server : Server) (state : σ) : Controller σ where
  server := server
  watcher := {}
  pipeline := .initial state []
  alive := true
  writing := none
  metrics := {}

/-! ## The watcher -/

/-- The controller with classified changes to be dispatched. -/
def withChanges (s : Controller σ) (changes : List Watch.Change) (cache : Watch.Cache) :
    Controller σ :=
  { s with watcher := { s.watcher with cache, changes := s.watcher.changes ++ changes } }

/-- The controller with the watcher in another phase. -/
def inPhase (s : Controller σ) (phase : WatchPhase) : Controller σ :=
  { s with watcher := { s.watcher with phase } }

/-- The resources that count when one is gone: all that the server lists, or else the copies that
the watcher has. -/
def others (s : Controller σ) : List Resource × Server :=
  let (listed, server) := s.server.list
  (listed.getD s.watcher.cache.resources, server)

/-- The watcher finds the operations of its next change. -/
def dispatch (s : Controller σ) (change : Watch.Change) (rest : List Watch.Change) : Controller σ :=
  let (others, server) := if change.isDeletion then s.others else ([], s.server)
  { s with
    server
    watcher := { s.watcher with changes := rest }
    pipeline := { s.pipeline with unsent := change.operations others } }

/-- The watcher takes an event.  One that it cannot read is skipped; when the events are forgotten
it has to list again.  After either it rests. -/
def take (s : Controller σ) (event : Event) : Controller σ :=
  match event with
  | .applied (some r) =>
    let (change, cache) := s.watcher.cache.see r
    s.withChanges change.toList cache
  | .deleted (some r) =>
    let (change, cache) := s.watcher.cache.forget r
    s.withChanges [change] cache
  | .applied none | .deleted none => { s with watcher := { s.watcher with resting := true } }
  | .expired =>
    { s with
      server := s.server.endWatch
      watcher := { s.watcher with phase := .unlisted, resting := true } }

/-- The watcher looks for changes. -/
def look? (s : Controller σ) : Option (Controller σ) :=
  match s.watcher.phase with
  | .unlisted =>
    match s.server.list with
    | (none, _) => none
    | (some resources, server) =>
      some { s with
        server
        watcher := { s.watcher with
          phase := .listing resources
          cache := s.watcher.cache.beginListing } }
  | .listing (r :: rest) =>
    let (change, cache) := s.watcher.cache.list r
    some ((s.withChanges change.toList cache).inPhase (.listing rest))
  | .listing [] =>
    let (changes, cache) := s.watcher.cache.endListing
    some { (s.withChanges changes cache).inPhase .listed with
      metrics := { s.metrics with ready := true } }
  | .listed => s.server.watch?.map fun server => { s.inPhase .watching with server }
  | .watching =>
    if !s.server.watched then some (s.inPhase .listed)
    else s.server.nextEvent?.map fun (event, server) => { s with server }.take event
  | .ended => none

/-- The watcher makes a step: while it has operations to send it waits, then it dispatches the
changes it has found, and then, having rested, it looks for more. -/
def watch? (s : Controller σ) : Option (Controller σ) :=
  if !s.pipeline.unsent.isEmpty then none
  else
    match s.watcher.changes with
    | change :: rest => some (s.dispatch change rest)
    | [] =>
      if s.watcher.resting then some { s with watcher := { s.watcher with resting := false } }
      else s.look?

/-- The watcher ends: nobody takes its operations. -/
def endWatcher (s : Controller σ) : Controller σ :=
  { s with
    server := s.server.endWatch
    watcher := { s.watcher with phase := .ended, changes := [] }
    pipeline := { s.pipeline with unsent := [] } }

/-- The watcher sends an operation. -/
def send? (capacity : Nat) (s : Controller σ) : Option (Controller σ) :=
  if s.alive then (s.pipeline.send? capacity).map fun pipeline => { s with pipeline }
  else if s.pipeline.unsent.isEmpty then none
  else some s.endWatcher

/-! ## The coordinator -/

/-- The coordinator publishes an outcome. -/
def publish? (capacity : Nat) (s : Controller σ) : Option (Controller σ) :=
  if s.alive then (s.pipeline.publish? capacity).map fun pipeline => { s with pipeline } else none

/-- The coordinator carries out an operation. -/
def work? (backend : Backend σ) (s : Controller σ) : Option (Controller σ) :=
  if s.alive then (s.pipeline.work? backend).map fun pipeline => { s with pipeline } else none

/-- The coordinator stops in the middle of its work. -/
def kill (s : Controller σ) : Controller σ :=
  { s with alive := false, pipeline := { s.pipeline with requests := [], pending := none } }

/-! ## The status writer -/

/-- The status writer receives an outcome and counts it. -/
def receive? (s : Controller σ) : Option (Controller σ) := do
  if s.writing.isSome then none
  let outcome ← s.pipeline.results.head?
  let pipeline ← s.pipeline.receive?
  return { s with pipeline, writing := some outcome, metrics := s.metrics.countOutcome outcome }

/-- The records to be written for an outcome, or what becomes of it when there is nothing to write.
-/
def planWrite (server : Server) (outcome : Outcome) : Except WriteResult (List Record) :=
  match server.get? outcome.operation.owner.name with
  | none => .error .error
  | some none => .error .missing
  | some (some r) =>
    match Status.fold? outcome r.records with
    | none => .error .unchanged
    | some records => .ok records

/-- Folds an outcome into the resource that it was issued for. -/
def writeStatus (now : Timestamp) (server : Server) (outcome : Outcome) :
    WriteResult × Server :=
  match planWrite server outcome with
  | .error result => (result, server)
  | .ok records =>
    match server.patch? outcome.operation.owner.name ⟨records, some now⟩ with
    | none => (.error, server)
    | some server => (.patched, server)

/-- The status writer writes the outcome that it received and counts what became of it. -/
def write? (now : Timestamp) (s : Controller σ) : Option (Controller σ) := do
  let outcome ← s.writing
  let (result, server) := writeStatus now s.server outcome
  return { s with server, writing := none, metrics := s.metrics.countWrite result.label }

/-! ## Runs -/

/-- What a run does not change: the backend, the places in the queues and the time of the writes. -/
structure Setting (σ : Type) where
  backend : Backend σ
  capacity : Nat
  now : Timestamp

/-- One step of one part. -/
def act? (e : Setting σ) (activity : Activity) (s : Controller σ) : Option (Controller σ) :=
  match activity with
  | .watch => s.watch?
  | .send => s.send? e.capacity
  | .publish => s.publish? e.capacity
  | .work => s.work? e.backend
  | .receive => s.receive?
  | .write => s.write? e.now

end Controller

end Ipam.Cluster
