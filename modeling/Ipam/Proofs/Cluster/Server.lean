import Ipam.Cluster.Controller
import Ipam.Proofs.Status
import Ipam.Proofs.Table

/-!
# A server with a single resource

* `Server.Disturbs` — what users and the network do to a server while a resource lives.
* `Server.Hosts` — the resource is the only one, and can be reached.
* `Server.Hosts.disturbed` — this stays so, and so does the status.
* **`Server.Hosts.writeStatus`** — writing an outcome folds it into the status.
-/

namespace Ipam.Cluster

/-- The status of the resource with this name can be read and written. -/
structure Addressable (name : String) : Prop where
  get : ∃ path, Server.pathOf? name = some path ∧ Server.nameAt path = name
  patch : (Server.statusPathOf? name).isSome = true

namespace Server

/-- The resource that is stored under a name. -/
def resource? (server : Server) (name : String) : Option Resource :=
  (server.objects.get? name).bind Document.resource

/-- What the status of a resource records. -/
def recordsOf (server : Server) (name : String) : List Record :=
  ((server.resource? name).map Resource.records).getD []

/-- What can happen to a server from outside while a resource lives and nobody else writes its
status: its requests are edited, with an event or without, events are forgotten, the watch ends, and
listings and watches fail or work again. -/
inductive Disturbs (name : String) (server : Server) : Server → Prop where
  | edited {j : Json} {before r : Resource} (hname : Document.nameOf j = name)
      (hbefore : server.resource? name = some before)
      (hread : (server.stored j).resource = some r) (href : r.ref = before.ref)
      (hrecords : r.records = before.records) : Disturbs name server (server.put j)
  | editedSilently {j : Json} {before r : Resource} (hname : Document.nameOf j = name)
      (hbefore : server.resource? name = some before)
      (hread : (server.stored j).resource = some r) (href : r.ref = before.ref)
      (hrecords : r.records = before.records) : Disturbs name server (server.putSilently j)
  | expired : Disturbs name server server.expire
  | ended : Disturbs name server server.endWatch
  | failing {call : Call} (hcall : call = .list ∨ call = .watch) (failing : Bool) :
      Disturbs name server (server.setFailing call failing)

/-- A server with a single resource, which can be reached. -/
structure Hosts (ref : ResourceRef) (server : Server) : Prop where
  only : ∃ d r, server.objects.entries = [(ref.name, d)] ∧ d.resource = some r ∧ r.ref = ref
  gets : server.works .get = true
  patches : server.works .patch = true
  events : ∀ event ∈ server.events, event = .expired ∨ ∃ r, event = .applied (some r) ∧ r.ref = ref

variable {ref : ResourceRef} {server server' : Server}

lemma Hosts.get? (h : server.Hosts ref) :
    ∃ d r, server.objects.get? ref.name = some d ∧ d.resource = some r ∧ r.ref = ref ∧
      server.resource? ref.name = some r := by
  obtain ⟨d, r, hentries, hread, href⟩ := h.only
  have hget : server.objects.get? ref.name = some d := by
    rw [Table.get?, hentries]
    simp [Table.lookupIn]
  exact ⟨d, r, hget, hread, href, by simp [resource?, hget, hread]⟩

/-- A document in place of the one that is there is the only one again. -/
lemma entries_insert {objects : Table Document} {name : String} {d d' : Document}
    (h : objects.entries = [(name, d)]) : (objects.insert name d').entries = [(name, d')] := by
  rw [Table.insert]
  simp [h, Table.insertIn]

/-- The server with another state of the resource. -/
lemma Hosts.replace (h : server.Hosts ref) {d : Document} {r : Resource}
    (hread : d.resource = some r) (href : r.ref = ref)
    (hobjects : server'.objects = server.objects.insert ref.name d)
    (hfailing : server'.failing = server.failing)
    (hevents : ∀ event ∈ server'.events, event ∈ server.events ∨ event = .applied (some r)) :
    server'.Hosts ref where
  only := by
    obtain ⟨d₀, -, hentries, -⟩ := h.only
    exact ⟨d, r, hobjects ▸ entries_insert hentries, hread, href⟩
  gets := by
    rw [works, hfailing]
    exact h.gets
  patches := by
    rw [works, hfailing]
    exact h.patches
  events := by
    intro event hevent
    rcases hevents event hevent with hold | rfl
    · exact h.events event hold
    · exact .inr ⟨r, rfl, href⟩

/-- The server with fewer events, or with the news that events are forgotten. -/
lemma Hosts.same (h : server.Hosts ref) (hobjects : server'.objects = server.objects)
    (hgets : server'.works .get = true) (hpatches : server'.works .patch = true)
    (hevents : ∀ event ∈ server'.events, event ∈ server.events ∨ event = .expired) :
    server'.Hosts ref where
  only := hobjects ▸ h.only
  gets := hgets
  patches := hpatches
  events := by
    intro event hevent
    rcases hevents event hevent with hold | rfl
    · exact h.events event hold
    · exact .inl rfl

lemma works_setFailing {call other : Call} (hne : other ≠ call) (failing : Bool) :
    (server.setFailing call failing).works other = server.works other := by
  have hother : ∀ calls : List Call, (calls.filter (· ≠ call)).contains other
      = calls.contains other := by
    intro calls
    rw [Bool.eq_iff_iff]
    simp [hne]
  rw [works, works, setFailing]
  cases failing with
  | true => simp [hne]
  | false => simp only [Bool.false_eq_true, if_false, hother]

/-- What is found under every name after a document was put in. -/
lemma resource?_of_insert {name : String} {d : Document}
    (hobjects : server'.objects = server.objects.insert name d) (other : String) :
    server'.resource? other = if name = other then d.resource else server.resource? other := by
  rw [resource?, hobjects, Table.get?_insert]
  split_ifs <;> rfl

lemma resource?_insert {name : String} {d : Document}
    (hobjects : server'.objects = server.objects.insert name d) :
    server'.resource? name = d.resource :=
  (resource?_of_insert hobjects name).trans (if_pos rfl)

/-- A disturbance leaves the resource reachable and its status as it is.  A state of the resource
that it announces has this status. -/
lemma Hosts.disturbed (h : server.Hosts ref) (hd : server.Disturbs ref.name server') :
    server'.Hosts ref ∧ server'.recordsOf ref.name = server.recordsOf ref.name ∧
      ∀ r, .applied (some r) ∈ server'.events →
        .applied (some r) ∈ server.events ∨ r.records = server.recordsOf ref.name := by
  obtain ⟨d, r₀, -, -, href₀, hresource⟩ := h.get?
  have hrecords₀ : server.recordsOf ref.name = r₀.records := by simp [recordsOf, hresource]
  rw [hrecords₀]
  cases hd with
  | @edited j before r hname hbefore hread href hrecords =>
      rw [hresource] at hbefore
      cases hbefore
      have hobjects : (server.put j).objects
          = server.objects.insert ref.name (server.stored j) := by
        rw [← hname]
        rfl
      have hevents : ∀ event ∈ (server.put j).events, event ∈ server.events ∨
          event = .applied (some r) := by
        intro event hevent
        rw [put, hread] at hevent
        simpa using hevent
      refine ⟨h.replace hread (href.trans href₀) hobjects rfl hevents, ?_, ?_⟩
      · simp [recordsOf, resource?_insert hobjects, hread, hrecords]
      · intro r' hr'
        rcases hevents _ hr' with hold | heq
        · exact .inl hold
        · cases heq
          exact .inr hrecords
  | @editedSilently j before r hname hbefore hread href hrecords =>
      rw [hresource] at hbefore
      cases hbefore
      have hobjects : (server.putSilently j).objects
          = server.objects.insert ref.name (server.stored j) := by
        rw [← hname]
        rfl
      refine ⟨h.replace hread (href.trans href₀) hobjects rfl fun _ => .inl, ?_, fun _ => .inl⟩
      simp [recordsOf, resource?_insert hobjects, hread, hrecords]
  | expired =>
      have hevents : ∀ event ∈ server.expire.events, event ∈ server.events ∨ event = .expired := by
        intro event hevent
        simpa [expire] using hevent
      refine ⟨h.same rfl h.gets h.patches hevents, hrecords₀, fun r hr => .inl ?_⟩
      simpa using hevents _ hr
  | ended => exact ⟨h.same rfl h.gets h.patches fun _ => .inl, hrecords₀, fun _ => .inl⟩
  | @failing call hcall failing =>
      have hkeeps : ∀ other, other = .get ∨ other = .patch →
          (server.setFailing call failing).works other = server.works other := by
        intro other hother
        refine works_setFailing ?_ failing
        rcases hcall with rfl | rfl <;> rcases hother with rfl | rfl <;> simp
      refine ⟨h.same rfl ?_ ?_ fun _ => .inl, hrecords₀, fun _ => .inl⟩
      · rw [hkeeps _ (.inl rfl)]
        exact h.gets
      · rw [hkeeps _ (.inr rfl)]
        exact h.patches

/-! ## The status of a resource -/

section Status

variable {outcome : Outcome} {d : Document} {r : Resource}

lemma patch?_eq (hpatches : server.works .patch = true) {name : String} (ha : Addressable name)
    (hget : server.objects.get? name = some d) (status : Status) :
    ∃ path, server.patch? name status = some { server with
      objects := server.objects.insert name (d.withStatus status)
      events := server.events ++ [.applied (d.withStatus status).resource]
      patches := server.patches ++ [⟨path, status⟩] } := by
  obtain ⟨path, hpath, hname⟩ := ha.get
  obtain ⟨statusPath, hstatus⟩ := Option.isSome_iff_exists.1 ha.patch
  exact ⟨statusPath, by simp [Server.patch?, hpatches, hstatus, hpath, hname, hget]⟩

/-- An outcome whose resource is gone is dropped. -/
lemma writeStatus_of_missing (hgets : server.works .get = true)
    (ha : Addressable outcome.operation.owner.name)
    (hget : server.objects.get? outcome.operation.owner.name = none) (now : Timestamp) :
    (Controller.writeStatus now server outcome).2 = server := by
  obtain ⟨path, hpath, hname⟩ := ha.get
  have hgets : server.get? outcome.operation.owner.name = some none := by
    simp [Server.get?, hgets, hpath, hname, hget]
  rw [Controller.writeStatus, Controller.planWrite, hgets]

/-- An outcome is folded into the status of its resource.  The server announces the new status,
unless it is the old one. -/
lemma writeStatus_of_resource (hgets : server.works .get = true)
    (hpatches : server.works .patch = true) (ha : Addressable outcome.operation.owner.name)
    (hget : server.objects.get? outcome.operation.owner.name = some d)
    (hread : d.resource = some r) (now : Timestamp) :
    ((Controller.writeStatus now server outcome).2 = server ∧
      Status.fold outcome r.records = r.records) ∨
    ∃ d' r' patches, d'.resource = some r' ∧ r'.ref = r.ref ∧ r'.requests = r.requests ∧
      r'.records = Status.fold outcome r.records ∧
      (Controller.writeStatus now server outcome).2 = { server with
        objects := server.objects.insert outcome.operation.owner.name d'
        events := server.events ++ [.applied (some r')]
        patches := patches } := by
  obtain ⟨path, hpath, hname⟩ := ha.get
  have hgets : server.get? outcome.operation.owner.name = some (some r) := by
    simp [Server.get?, hgets, hpath, hname, hget, hread]
  rw [Controller.writeStatus, Controller.planWrite, hgets, Status.fold]
  cases hfold : Status.fold? outcome r.records with
  | none => exact .inl (by simp [hfold])
  | some records =>
      obtain ⟨statusPath, hpatch⟩ := patch?_eq hpatches ha hget ⟨records, some now⟩
      have hwritten : (d.withStatus ⟨records, some now⟩).resource
          = some { r with status := some ⟨records, some now⟩ } := by
        simp [Document.withStatus, hread]
      simp only [hfold, hpatch, hwritten, Option.getD_some]
      exact .inr ⟨_, _, _, hwritten, rfl, rfl, rfl, rfl⟩

end Status

/-- **Writing an outcome folds it into the status.** -/
lemma Hosts.writeStatus (h : server.Hosts ref) (ha : Addressable ref.name) {outcome : Outcome}
    (howner : outcome.operation.owner = ref) (now : Timestamp) :
    (Controller.writeStatus now server outcome).2.Hosts ref ∧
      (Controller.writeStatus now server outcome).2.recordsOf ref.name
        = Status.fold outcome (server.recordsOf ref.name) := by
  subst howner
  obtain ⟨d, r, hget, hread, href, hresource⟩ := h.get?
  have hrecords : server.recordsOf outcome.operation.owner.name = r.records := by
    simp [recordsOf, hresource]
  rw [hrecords]
  rcases writeStatus_of_resource h.gets h.patches ha hget hread now with
    ⟨hsame, hfold⟩ | ⟨d', r', patches, hread', href', -, hfold, heq⟩
  · rw [hsame, hfold]
    exact ⟨h, hrecords⟩
  · rw [heq]
    refine ⟨h.replace hread' (href'.trans href) rfl rfl fun event hevent => ?_, ?_⟩
    · simpa using hevent
    · rw [recordsOf, resource?_insert rfl, hread', ← hfold]
      rfl

end Server

end Ipam.Cluster
