import Ipam.Cluster.Document
import Ipam.Net.Target
import Ipam.Table

/-!
# The API server

The cluster as far as the controller sees it: a table of documents, the events that a watch
delivers, and the calls that can be made.

* `Server` — the documents, the events on their way, and the status patches that were made.
* `Server.put`, `Server.remove` — what users do; `Server.putSilently`, `Server.removeSilently` the
  same without an event.
* `Server.list`, `Server.watch?`, `Server.get?`, `Server.patch?` — the calls; while one is out of
  order it answers none, and so it does when a document cannot be read.
-/

namespace Ipam.Cluster

/-- A kind of call to the server. -/
inductive Call where
  | list
  | watch
  | get
  | patch
deriving DecidableEq

/-- What a watch delivers.  A resource is none if its document cannot be read. -/
inductive Event where
  /-- A resource was added or changed. -/
  | applied (resource : Option Resource)
  /-- A resource is gone; this is its last state. -/
  | deleted (resource : Option Resource)
  /-- What happened since the last listing is forgotten. -/
  | expired

/-- A status that was written. -/
structure Patch where
  /-- The path that was asked for. -/
  path : String
  status : Status

/-- The API server. -/
structure Server where
  /-- The documents by name. -/
  objects : Table Document := .empty
  /-- The kinds of calls that are out of order. -/
  failing : List Call := []
  /-- Whether a watch is open. -/
  watched : Bool := false
  /-- The events that no watch has delivered yet, oldest first. -/
  events : List Event := []
  /-- The status patches, oldest first. -/
  patches : List Patch := []

namespace Server

/-- The path under which the resources are found. -/
def root : String :=
  s!"/apis/{Resource.apiVersion}/namespaces/{home}/ipams/"

/-- The path at which a resource is asked for by name.  Names are not escaped, so one with a
character that no path may hold cannot be asked for, and neither can the empty name. -/
def pathOf? (name : String) : Option String :=
  if name = "" then none else Target.path? (root ++ name)

/-- The path at which the status of a resource is patched. -/
def statusPathOf? (name : String) : Option String :=
  if name = "" then none else Target.path? (root ++ name ++ "/status")

/-- The name that the server sees at a path. -/
def nameAt (path : String) : String :=
  String.ofList (path.toList.drop root.length)

/-- Whether a kind of call works. -/
def works (s : Server) (call : Call) : Bool :=
  !s.failing.contains call

/-! ## What users do -/

/-- The status that is stored under a name. -/
def statusOf (s : Server) (name : String) : Json :=
  ((s.objects.get? name).map Document.status).getD .null

/-- A document as it is stored. -/
def stored (s : Server) (j : Json) : Document :=
  .read (s.statusOf (Document.nameOf j)) j

/-- Creates or replaces a document without an event. -/
def putSilently (s : Server) (j : Json) : Server :=
  { s with objects := s.objects.insert (Document.nameOf j) (s.stored j) }

/-- The server with documents, put one after the other. -/
def ofDocuments (documents : List Json) : Server :=
  documents.foldl putSilently {}

/-- Creates or replaces a document. -/
def put (s : Server) (j : Json) : Server :=
  { s.putSilently j with events := s.events ++ [.applied (s.stored j).resource] }

/-- Removes a document without an event. -/
def removeSilently (s : Server) (name : String) : Server :=
  { s with objects := s.objects.erase name }

/-- Removes a document. -/
def remove (s : Server) (name : String) : Server :=
  match s.objects.get? name with
  | none => s
  | some d => { s.removeSilently name with events := s.events ++ [.deleted d.resource] }

/-- Forgets what happened since the last listing. -/
def expire (s : Server) : Server :=
  { s with events := s.events ++ [.expired] }

/-- Ends the watch. -/
def endWatch (s : Server) : Server :=
  { s with watched := false }

/-- Puts a kind of call out of order, or in order again. -/
def setFailing (s : Server) (call : Call) (failing : Bool) : Server :=
  let others := s.failing.filter (· ≠ call)
  { s with failing := if failing then call :: others else others }

/-! ## Calls -/

/-- The resources in the order of their names, none if a document cannot be read. -/
def resources? (s : Server) : Option (List Resource) :=
  s.objects.entries.mapM fun entry => entry.2.resource

/-- Lists the resources.  Events that wait for a watch are not delivered any more: what they say is
in the listing. -/
def list (s : Server) : Option (List Resource) × Server :=
  if s.works .list then
    (s.resources?, if s.watched then s else { s with events := [] })
  else
    (none, s)

/-- Opens a watch. -/
def watch? (s : Server) : Option Server :=
  if s.works .watch then some { s with watched := true } else none

/-- The next event of an open watch. -/
def nextEvent? (s : Server) : Option (Event × Server) :=
  match s.watched, s.events with
  | true, event :: events => some (event, { s with events })
  | _, _ => none

/-- Gets a resource, which may be missing. -/
def get? (s : Server) (name : String) : Option (Option Resource) := do
  if !s.works .get then none
  match s.objects.get? (nameAt (← pathOf? name)) with
  | none => return none
  | some d => return some (← d.resource)

/-- Replaces the status of a resource. -/
def patch? (s : Server) (name : String) (status : Status) : Option Server := do
  if !s.works .patch then none
  let path ← statusPathOf? name
  let name := nameAt (← pathOf? name)
  let d ← s.objects.get? name
  let d := d.withStatus status
  return { s with
    objects := s.objects.insert name d
    events := s.events ++ [.applied d.resource]
    patches := s.patches ++ [⟨path, status⟩] }

end Server

end Ipam.Cluster
