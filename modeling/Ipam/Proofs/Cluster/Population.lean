import Ipam.Proofs.Cluster.Server
import Ipam.Proofs.Cluster.Traffic

/-!
# A server with any number of resources

* `Server.Populated` — every document can be read, and reached by its name.
* `Server.Accepts` — a document that users put keeps this, and leaves the status alone.
* `Server.Populated.put`, `Server.Populated.remove` — what users do.
* `Server.Populated.list` — what a listing brings.
* **`Server.Populated.writeStatus`** — what the status writer does.
-/

namespace Ipam.Cluster

namespace Server

/-- The recorded bindings of the resources that are there. -/
def status (server : Server) (name : String) : Option (List Record) :=
  (server.resource? name).map Resource.records

/-- A server that works, all of whose documents can be read and reached. -/
structure Populated (server : Server) : Prop where
  working : server.failing = []
  documents : ∀ name d, server.objects.get? name = some d → Addressable name ∧
    ∃ r, d.resource = some r ∧ r.ref = ⟨name, home⟩
  events : ∀ event ∈ server.events, ∃ r, event = .applied (some r) ∨ event = .deleted (some r)

/-- A document that users may put: it can be read and reached, and leaves the status as it is. -/
structure Accepts (server : Server) (j : Json) (r : Resource) : Prop where
  read : (server.stored j).resource = some r
  ref : r.ref = ⟨Document.nameOf j, home⟩
  addressable : Addressable (Document.nameOf j)
  records : r.records = server.recordsOf (Document.nameOf j)

variable {server server' : Server} {name : String} {r : Resource}

lemma works_of_failing (h : server.failing = []) (call : Call) : server.works call = true := by
  simp [works, h]

lemma populated_empty : Populated {} where
  working := rfl
  documents name d hd := by cases hd
  events event hevent := by cases hevent

lemma Populated.exists_document (h : server.Populated) (hr : server.resource? name = some r) :
    ∃ d, server.objects.get? name = some d ∧ d.resource = some r ∧ Addressable name ∧
      r.ref = ⟨name, home⟩ := by
  obtain ⟨d, hd, hread⟩ := Option.bind_eq_some_iff.1 hr
  obtain ⟨haddressable, other, hother, href⟩ := h.documents name d hd
  rw [hread] at hother
  cases hother
  exact ⟨d, hd, hread, haddressable, href⟩

lemma Populated.get?_eq_none (h : server.Populated) (hnone : server.resource? name = none) :
    server.objects.get? name = none := by
  cases hd : server.objects.get? name with
  | none => rfl
  | some d =>
      obtain ⟨-, r, hread, -⟩ := h.documents name d hd
      simp [resource?, hd, hread] at hnone

lemma Populated.ref_eq (h : server.Populated) (hr : server.resource? name = some r) :
    r.ref = ⟨name, home⟩ := by
  obtain ⟨-, -, -, -, href⟩ := h.exists_document hr
  exact href

/-! ## Changes of a document -/

lemma status_of_insert {d : Document} (hobjects : server'.objects = server.objects.insert name d)
    (hread : d.resource = some r) :
    server'.status = Function.update server.status name (some r.records) := by
  funext other
  rw [status, resource?_of_insert hobjects, hread]
  by_cases hname : name = other
  · subst hname
    simp
  · rw [if_neg hname, Function.update_of_ne (fun heq => hname heq.symm)]
    rfl

/-- The server with another state of a resource. -/
lemma Populated.replace (h : server.Populated) {d : Document} (hread : d.resource = some r)
    (href : r.ref = ⟨name, home⟩) (haddressable : Addressable name)
    (hobjects : server'.objects = server.objects.insert name d)
    (hfailing : server'.failing = server.failing)
    (hevents : server'.events = server.events ++ [.applied (some r)]) :
    server'.Populated where
  working := hfailing.trans h.working
  documents other found hfound := by
    rw [hobjects, Table.get?_insert] at hfound
    split_ifs at hfound with heq
    · cases hfound
      subst heq
      exact ⟨haddressable, r, hread, href⟩
    · exact h.documents other found hfound
  events event hevent := by
    rw [hevents] at hevent
    rcases List.mem_append.1 hevent with hold | hadded
    · exact h.events event hold
    · exact ⟨r, .inl (List.mem_singleton.1 hadded)⟩

lemma Populated.put (h : server.Populated) {j : Json} (ha : server.Accepts j r) :
    (server.put j).Populated := by
  refine h.replace ha.read ha.ref ha.addressable rfl rfl ?_
  rw [Server.put, ha.read]

lemma Populated.remove_eq (h : server.Populated) (hr : server.resource? name = some r) :
    server.remove name = { server with
      objects := server.objects.erase name
      events := server.events ++ [.deleted (some r)] } := by
  obtain ⟨d, hd, hread, -⟩ := h.exists_document hr
  simp [Server.remove, hd, hread, removeSilently]

lemma Populated.remove_of_none (h : server.Populated) (hnone : server.resource? name = none) :
    server.remove name = server := by
  simp [Server.remove, h.get?_eq_none hnone]

lemma resource?_of_erase (hobjects : server'.objects = server.objects.erase name)
    (other : String) :
    server'.resource? other = if other = name then none else server.resource? other := by
  rw [resource?, hobjects, Table.get?_erase]
  split_ifs <;> rfl

lemma status_of_erase (hobjects : server'.objects = server.objects.erase name) :
    server'.status = Function.update server.status name none := by
  funext other
  rw [status, resource?_of_erase hobjects]
  by_cases hname : other = name
  · subst hname
    simp
  · rw [if_neg hname, Function.update_of_ne hname]
    rfl

lemma Populated.remove (h : server.Populated) (hr : server.resource? name = some r) :
    (server.remove name).Populated := by
  rw [h.remove_eq hr]
  refine ⟨h.working, fun other d hd => ?_, fun event hevent => ?_⟩
  · rw [Table.get?_erase] at hd
    split_ifs at hd
    exact h.documents other d hd
  · rcases List.mem_append.1 hevent with hold | hadded
    · exact h.events event hold
    · exact ⟨r, .inr (List.mem_singleton.1 hadded)⟩

/-! ## Listings -/

/-- Documents that can be read are listed in their order. -/
lemma exists_mapM_resource {entries : List (String × Document)}
    (h : ∀ entry ∈ entries, ∃ r, entry.2.resource = some r ∧ r.ref = ⟨entry.1, home⟩) :
    ∃ rs, entries.mapM (fun entry => entry.2.resource) = some rs ∧
      rs.map (·.ref) = entries.map (fun entry => ⟨entry.1, home⟩) ∧
      ∀ r, r ∈ rs ↔ ∃ entry ∈ entries, entry.2.resource = some r := by
  induction entries with
  | nil => exact ⟨[], rfl, rfl, by simp⟩
  | cons entry rest ih =>
      obtain ⟨⟨r, hread, href⟩, hrest⟩ := List.forall_mem_cons.1 h
      obtain ⟨rs, hrs, hrefs, hmem⟩ := ih hrest
      refine ⟨r :: rs, by simp [hread, hrs], by simp [href, hrefs], fun other => ?_⟩
      simp [hmem, hread, eq_comm]

/-- A listing brings every resource once. -/
lemma Populated.list (h : server.Populated) :
    ∃ rs, server.list = (some rs, if server.watched then server else { server with events := [] }) ∧
      (rs.map (·.ref)).Nodup ∧ ∀ r, r ∈ rs ↔ ∃ name, server.resource? name = some r := by
  have hread : ∀ entry ∈ server.objects.entries, ∃ r, entry.2.resource = some r ∧
      r.ref = ⟨entry.1, home⟩ := by
    intro entry hentry
    obtain ⟨-, r, hread, href⟩ := h.documents entry.1 entry.2 (Table.mem_entries_iff.1 hentry)
    exact ⟨r, hread, href⟩
  obtain ⟨rs, hrs, hrefs, hmem⟩ := exists_mapM_resource hread
  refine ⟨rs, ?_, ?_, fun r => (hmem r).trans ?_⟩
  · rw [Server.list, if_pos (works_of_failing h.working _), resources?, hrs]
  · have hnames : rs.map (·.ref) = server.objects.names.map fun name => ⟨name, home⟩ := by
      rw [hrefs, Table.names, List.map_map]
      rfl
    rw [hnames]
    exact server.objects.nodup_names.map fun a b heq => congrArg ResourceRef.name heq
  · constructor
    · rintro ⟨⟨name, d⟩, hentry, hread⟩
      exact ⟨name, by simpa [resource?, Table.mem_entries_iff.1 hentry] using hread⟩
    · rintro ⟨name, hr⟩
      obtain ⟨d, hd, hread⟩ := Option.bind_eq_some_iff.1 hr
      exact ⟨(name, d), Table.mem_entries_iff.2 hd, hread⟩

/-! ## The status writer -/

/-- **An outcome is folded into the status of its resource, and dropped if the resource is gone.**
The server announces the new status, unless it is the old one. -/
theorem Populated.writeStatus (h : server.Populated) (now : Timestamp) {outcome : Outcome}
    (ha : Addressable outcome.operation.owner.name)
    (hserver : server' = (Controller.writeStatus now server outcome).2) :
    server'.status = foldInto outcome server.status ∧
    (server' = server ∨ ∃ before r d patches,
      server.resource? outcome.operation.owner.name = some before ∧ d.resource = some r ∧
      r.ref = before.ref ∧ r.requests = before.requests ∧ server' = { server with
        objects := server.objects.insert outcome.operation.owner.name d
        events := server.events ++ [.applied (some r)]
        patches := patches }) := by
  have hgets := works_of_failing h.working .get
  cases hresource : server.resource? outcome.operation.owner.name with
  | none =>
      have hsame := writeStatus_of_missing hgets ha (h.get?_eq_none hresource) now
      rw [hserver, hsame]
      exact ⟨by simp [foldInto, status, hresource], .inl rfl⟩
  | some before =>
      obtain ⟨d, hd, hread, -⟩ := h.exists_document hresource
      have hpatches := works_of_failing h.working .patch
      have hstatus : server.status outcome.operation.owner.name = some before.records := by
        simp [status, hresource]
      rcases writeStatus_of_resource hgets hpatches ha hd hread now with
        ⟨hsame, hfold⟩ | ⟨d', r, patches, hread', href, hrequests, hfold, heq⟩
      · rw [hserver, hsame]
        exact ⟨by simp [foldInto, hstatus, hfold], .inl rfl⟩
      · have hwritten : server'.status
            = Function.update server.status outcome.operation.owner.name (some r.records) :=
          status_of_insert (by rw [hserver, heq]) hread'
        refine ⟨?_, .inr ⟨before, r, d', patches, rfl, hread', href, hrequests, hserver.trans heq⟩⟩
        rw [hwritten, foldInto, hstatus, Option.map_some, hfold]

end Server

end Ipam.Cluster
