import Ipam.Coordinator
import Ipam.Proofs.Net.Notation
import Ipam.Proofs.Resource.Codec
import Ipam.Proofs.Status
import Ipam.Reconcile

/-!
# Asking again for what was recorded

The first outcome of a create is recorded, written as JSON and read back after a restart.  The
resource then asks for its binding again, and gets the operation back that the record was made for.

* `Status.first` — the status of a resource after its first outcome.
* `Reconcile.replay?_ofOperation` — the record of a create leads to the same create, with the
  address in it.
* `Status.Replays` — what a status that was read back is good for.
* **`Status.exists_replays`** — the status after a create that succeeded is read back and replays
  it, whatever characters its texts have.
-/

namespace Ipam

open Text (nonEmpty)

variable {owner : ResourceRef} {host key : Option String} {pool : String}

/-- The status of a resource without one, after an operation succeeded with an address. -/
def Status.first (op : Operation) (a : Address) (lastUpdated : Option Timestamp) : Status :=
  { records := Status.fold (.success op (some a)) [], lastUpdated }

lemma Status.records_first (a : Address) (lastUpdated : Option Timestamp) :
    (Status.first (.create owner host key pool) a lastUpdated).records
      = [Record.ofOperation (.create owner host key pool) (toString a)] :=
  rfl

/-- The record of a create leads to the same create, with the address in it. -/
lemma Reconcile.replay?_ofOperation (hpool : pool ≠ "")
    (hname : (nonEmpty host).isSome ∨ (nonEmpty key).isSome) {text : String} (htext : text ≠ "")
    (owner other : ResourceRef) :
    Reconcile.replay? other (Record.ofOperation (.create owner host key pool) text)
      = some { Operation.create other host key pool with recorded := some text } := by
  have hsome : ∀ {s : String}, s ≠ "" → nonEmpty (some s) = some s := by
    intro s hs
    simp [nonEmpty, hs]
  have hrecorded : (Record.ofOperation (.create owner host key pool) text).pool = some pool :=
    (Status.pool_ofOperation ..).trans (hsome hpool)
  have hidentified :
      (Record.ofOperation (.create owner host key pool) text).isIdentified = true := by
    simpa [Request.isIdentified, Record.ofOperation, Operation.create, Operation.of] using hname
  rw [replay?, hrecorded, Option.bind_eq_bind, Option.bind_some, if_pos ⟨htext, hidentified⟩]
  simp [Operation.replay, Operation.create, Operation.of, Record.ofOperation, hsome htext]

/-- What a status that was read back is good for: it is the one that was written, so that its only
record is that of the operation; every resource that carries it asks for the same binding first, in
its own name and with the recorded address; and the coordinator reads this address as the one that
was given out, and asks the backend for it. -/
structure Status.Replays (op : Operation) (a : Address) (written read : Status) : Prop where
  same : read = written
  entries : read.records = [Record.ofOperation op (toString a)]
  first (r : Resource) : r.status = some read →
    (Reconcile.onCreate r).head?
      = some { op with owner := r.ref, recorded := some (toString a) }
  address : Address.parse? (toString a) = some a
  asked {σ : Type} (backend : Backend σ) (replay : Operation) :
    replay.recorded = some (toString a) →
      Coordinator.create backend replay = do
        backend.allocate replay a
        Coordinator.publish backend replay a
        return a

/-- **What was recorded for a create is replayed as this create,** after the status was written and
read back, whatever characters the host name, the key and the pool have. -/
theorem Status.exists_replays (owner : ResourceRef) (hpool : pool ≠ "")
    (hname : (nonEmpty host).isSome ∨ (nonEmpty key).isSome) (a : Address)
    {lastUpdated : Option Timestamp} (htime : ∀ t ∈ lastUpdated, t.Valid) :
    ∃ read,
      Json.parse? (first (.create owner host key pool) a lastUpdated).toJson.render
          >>= Status.ofJson? = some read ∧
        Replays (.create owner host key pool) a
          (first (.create owner host key pool) a lastUpdated) read := by
  refine ⟨_, Status.parse?_render htime, rfl, records_first a lastUpdated, ?_,
    Address.parse?_toString a, ?_⟩
  · intro r hr
    have hrecords :
        r.records = [Record.ofOperation (.create owner host key pool) (toString a)] := by
      rw [Resource.records, hr]
      rfl
    rw [Reconcile.onCreate, hrecords, List.filterMap_cons,
      Reconcile.replay?_ofOperation hpool hname a.toString_ne_empty]
    rfl
  · intro σ backend replay hrecorded
    rw [Coordinator.create, hrecorded]
    simp only [Address.parse?_toString]

/-- A host name that has to be escaped is recorded within a leap second, with an empty key and for a
network. -/
theorem Status.exists_replays_of_leap_second :
    ∃ read,
      Json.parse? (first
          (.create ⟨"lab", "default"⟩ (some "\x22\\\x01é😀") (some "") "10.0.0.0/24")
          ⟨0x0A000007⟩ (some ⟨1483228799, 1500000000⟩)).toJson.render >>= Status.ofJson? = some read ∧
        read.lastUpdated = some ⟨1483228799, 1500000000⟩ ∧
        ∀ r : Resource, r.status = some read →
          (Reconcile.onCreate r).head? = some ⟨r.ref, .create, some "\x22\\\x01é😀", none,
            "10.0.0.0/24", some "10.0.0.7"⟩ := by
  have htime : ∀ t ∈ some (⟨1483228799, 1500000000⟩ : Timestamp), t.Valid := by
    rintro t ⟨rfl⟩
    exact ⟨by decide, .inr (by decide)⟩
  have hpool : "10.0.0.0/24" ≠ "" := by decide
  have hname : (nonEmpty (some "\x22\\\x01é😀")).isSome ∨ (nonEmpty (some "")).isSome :=
    .inl (by decide)
  have haddress : toString (⟨0x0A000007⟩ : Address) = "10.0.0.7" := by decide
  obtain ⟨read, hread, replays⟩ :=
    exists_replays ⟨"lab", "default"⟩ hpool hname ⟨0x0A000007⟩ htime
  refine ⟨read, hread, ?_, fun r hr => ?_⟩
  · rw [replays.same]
    rfl
  · rw [replays.first r hr, haddress]
    rfl

end Ipam
