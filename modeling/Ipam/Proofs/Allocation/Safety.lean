import Ipam.Proofs.Allocation.Requests

/-!
# Operations over a grid that may answer anything

A server may be wrong at every step of an operation: refuse, answer nonsense, or close the
connection.  This file says what an operation does all the same.

* `Infoblox.CreateSafe`, `Infoblox.DeleteSafe` — what a create and a delete may say, and answer.
* `Infoblox.createSafe_of_failure`, `Infoblox.createSafe_of_success` — a create reserves first and then
  publishes, so it is enough to know what is said in each of the two parts.
* **`Infoblox.process_safe`** — every operation, over every link.
-/

namespace Ipam.Infoblox

open Coordinator (process published released)
open Grid (Endpoint Link Exchange Talked About Rest.client Rest.baseUrl joinUrl)

variable {e : Endpoint} {labels : Table LabelNetwork} {op : Operation} {said : List Exchange}

/-! ## What an operation may say -/

/-- What a create may say, and what has to be answered for its outcome. -/
structure CreateSafe (e : Endpoint) (op : Operation) (said : List Exchange) (outcome : Outcome) :
    Prop where
  /-- All requests are for fixed addresses or host records, and none deletes anything. -/
  about : ∀ x ∈ said, About e "fixedaddress" x.1 ∨ About e "record:a" x.1
  no_delete : ∀ x ∈ said, x.1.method ≠ .delete
  /-- One object of each kind is made at most. -/
  one_reservation : said.countP (fun x => x.1.method = .post ∧ About e "fixedaddress" x.1) ≤ 1
  one_record : said.countP (fun x => x.1.method = .post ∧ About e "record:a" x.1) ≤ 1
  /-- A create that succeeds was answered about fixed addresses every time. -/
  answered : outcome ≠ .failure op →
    ∀ x ∈ said, About e "fixedaddress" x.1 → ∃ os, NamesFixed x os
  /-- Without a recorded address, it reports the first one that the last of these answers names. -/
  reported : op.recorded = none → outcome ≠ .failure op →
    ∃ a, outcome = .success op (some a) ∧ Reports (said.filter fun x => About e "fixedaddress" x.1) a
  /-- Once host records are asked for, the create succeeds whatever the answers are. -/
  published : (∃ x ∈ said, About e "record:a" x.1) → ∃ a, outcome = .success op (some a)

/-- What a delete may say, and its outcome. -/
structure DeleteSafe (e : Endpoint) (op : Operation) (said : List Exchange) (outcome : Outcome) :
    Prop where
  no_post : ∀ x ∈ said, x.1.method ≠ .post
  succeeds : outcome = .success op none
  /-- What is deleted was found by a query of the same operation. -/
  targets : ∀ before x after, said = before ++ x :: after → x.1.method = .delete →
    ∃ y ∈ before, ∃ reference, Cites e y reference ∧ x.1.url = joinUrl (Rest.baseUrl e) reference

/-- What an operation may say, and answer. -/
structure Safe (e : Endpoint) (labels : Table LabelNetwork) (op : Operation)
    (said : List Exchange) (outcome : Outcome) : Prop where
  create : op.kind = .create → CreateSafe e op said outcome
  delete : op.kind = .delete → DeleteSafe e op said outcome
  /-- Without a reference, or with a label that is blank or unknown, nothing is said. -/
  silent : op.reference? = none ∨ Pool.isBlankText op.pool = true ∨ labels.get? op.pool = none →
    said = []

/-! ## Creating -/

lemma published_sends (e : Endpoint) (labels : Table LabelNetwork) (op : Operation) (a : Address)
    (link : Link) : ∃ said,
      Talked link said (published (backend (Rest.client e) labels) op link a) ∧
        Sends e "record:a" 1 said := by
  rw [published]
  split_ifs
  · exact createDns_sends e labels op a link
  · exact ⟨[], Grid.talked_nil link, sends_nil e _ 1⟩

lemma countP_le_of_sends {object : String} {n : Nat} (h : Sends e object n said)
    (p : Exchange → Prop) [DecidablePred p] (hp : ∀ x, p x → x.1.method = .post) :
    said.countP (fun x => p x) ≤ n :=
  (List.countP_mono_left fun x _ hx => by simpa using hp x (by simpa using hx)).trans h.posts

lemma createSafe_of_failure (h : Sends e "fixedaddress" 1 said) :
    CreateSafe e op said (.failure op) where
  about x hx := .inl (h.about x hx)
  no_delete := h.kept
  one_reservation := countP_le_of_sends h _ fun x hx => hx.1
  one_record := countP_le_of_sends h _ fun x hx => hx.1
  answered hsucceeds := absurd rfl hsucceeds
  reported _ hsucceeds := absurd rfl hsucceeds
  published := by
    rintro ⟨x, hx, habout⟩
    exact absurd habout (h.about x hx).ne_record

/-- A create that succeeds reserves first and then publishes. -/
lemma createSafe_of_success {first rest : List Exchange} {a : Address}
    (hfirst : Sends e "fixedaddress" 1 first) (hrest : Sends e "record:a" 1 rest)
    (hnamed : ∀ x ∈ first, ∃ os, NamesFixed x os)
    (hreported : op.recorded = none → Reports first a) :
    CreateSafe e op (first ++ rest) (.success op (some a)) where
  about := List.forall_mem_append.2
    ⟨fun x hx => .inl (hfirst.about x hx), fun x hx => .inr (hrest.about x hx)⟩
  no_delete := List.forall_mem_append.2 ⟨hfirst.kept, hrest.kept⟩
  one_reservation := by
    have hnone : rest.countP (fun x => x.1.method = .post ∧ About e "fixedaddress" x.1) = 0 :=
      List.countP_eq_zero.2 fun x hx hpost =>
        (of_decide_eq_true hpost).2.ne_record (hrest.about x hx)
    rw [List.countP_append, hnone, Nat.add_zero]
    exact countP_le_of_sends hfirst _ fun x hx => hx.1
  one_record := by
    have hnone : first.countP (fun x => x.1.method = .post ∧ About e "record:a" x.1) = 0 :=
      List.countP_eq_zero.2 fun x hx hpost =>
        (hfirst.about x hx).ne_record (of_decide_eq_true hpost).2
    rw [List.countP_append, hnone, Nat.zero_add]
    exact countP_le_of_sends hrest _ fun x hx => hx.1
  answered _ := by
    refine List.forall_mem_append.2 ⟨fun x hx _ => hnamed x hx, fun x hx habout => ?_⟩
    exact absurd (hrest.about x hx) habout.ne_record
  reported hplain _ := by
    have hsome : first.filter (fun x => About e "fixedaddress" x.1) = first :=
      List.filter_eq_self.2 fun x hx => decide_eq_true (hfirst.about x hx)
    have hnone : rest.filter (fun x => About e "fixedaddress" x.1) = [] :=
      List.filter_eq_nil_iff.2 fun x hx habout =>
        (of_decide_eq_true habout).ne_record (hrest.about x hx)
    refine ⟨a, rfl, ?_⟩
    rw [List.filter_append, hsome, hnone, List.append_nil]
    exact hreported hplain
  published _ := ⟨a, rfl⟩

/-- A create without a recorded address asks what is bound, and reserves the next address if
nothing is. -/
lemma createSafe_plain (hkind : op.kind = .create) (hplain : op.recorded = none) (link : Link) :
    ∃ said, Talked link said (process (backend (Rest.client e) labels) op link).2 ∧
      CreateSafe e op said (process (backend (Rest.client e) labels) op link).1 := by
  obtain ⟨first, hfirst, hlookup⟩ := lookup_asks e labels op link
  rw [Coordinator.process_plain _ _ _ hkind hplain]
  generalize (backend (Rest.client e) labels).lookup op link = answer at hfirst hlookup
  have hasked : Sends e "fixedaddress" 0 first := sends_of_asks hlookup (by decide)
  obtain ⟨cause | _ | a, link⟩ := answer
  · exact ⟨first, hfirst, createSafe_of_failure (hasked.mono (Nat.zero_le 1))⟩
  · simp only
    obtain ⟨second, hsecond, hnext⟩ := allocateNext_asks e labels op link
    generalize (backend (Rest.client e) labels).allocateNext op link = answer at hsecond hnext
    have hreserved := hasked.append (sends_of_asks hnext (by decide))
    obtain ⟨cause | a, link⟩ := answer
    · exact ⟨first ++ second, hfirst.append hsecond, createSafe_of_failure hreserved⟩
    · obtain ⟨rest, hrest, hpublished⟩ := published_sends e labels op a link
      exact ⟨first ++ second ++ rest, (hfirst.append hsecond).append hrest,
        createSafe_of_success hreserved hpublished
          (List.forall_mem_append.2 ⟨naming_first.of_asks hlookup, naming_made.of_asks hnext⟩)
          fun _ => (reports_of_made hnext).append first⟩
  · refine ⟨first ++ [], hfirst.append (Grid.talked_nil link), ?_⟩
    exact createSafe_of_success (hasked.mono (Nat.zero_le 1)) (sends_nil e _ 1)
      (naming_first.of_asks hlookup) fun _ => reports_of_first hlookup

/-- A create with a recorded text reserves the address of the text. -/
lemma createSafe_recorded (hkind : op.kind = .create) {text : String}
    (hrecorded : op.recorded = some text) (link : Link) :
    ∃ said, Talked link said (process (backend (Rest.client e) labels) op link).2 ∧
      CreateSafe e op said (process (backend (Rest.client e) labels) op link).1 := by
  rw [Coordinator.process_recorded _ _ _ hkind hrecorded]
  cases Address.parse? text with
  | none => exact ⟨[], Grid.talked_nil link, createSafe_of_failure (sends_nil e _ 1)⟩
  | some a =>
      simp only
      obtain ⟨first, hfirst, hreserves⟩ := allocate_reserves e labels op a link
      generalize (backend (Rest.client e) labels).allocate op a link = answer at hfirst hreserves
      obtain ⟨cause | ⟨⟩, link⟩ := answer
      · exact ⟨first, hfirst, createSafe_of_failure hreserves.sends⟩
      · obtain ⟨rest, hrest, hpublished⟩ := published_sends e labels op a link
        refine ⟨first ++ rest, hfirst.append hrest, ?_⟩
        refine createSafe_of_success hreserves.sends hpublished (hreserves.named () rfl) ?_
        rw [hrecorded]
        exact fun hnone => by cases hnone

/-! ## Deleting -/

lemma released_retracts (e : Endpoint) (labels : Table LabelNetwork) (op : Operation)
    (a : Address) (link : Link) : ∃ said,
      Talked link said (released (backend (Rest.client e) labels) op link a) ∧
        Retracts e said := by
  obtain ⟨first, hfirst, hrelease⟩ := release_retracts e labels op a link
  rw [released]
  split_ifs
  · obtain ⟨rest, hrest, hdelete⟩ := deleteDns_retracts e labels op a
      ((backend (Rest.client e) labels).release op a link).2
    exact ⟨first ++ rest, hfirst.append hrest, hrelease.append hdelete⟩
  · exact ⟨first, hfirst, hrelease⟩

lemma deleteSafe (hkind : op.kind = .delete) (link : Link) :
    ∃ said, Talked link said (process (backend (Rest.client e) labels) op link).2 ∧
      DeleteSafe e op said (process (backend (Rest.client e) labels) op link).1 := by
  obtain ⟨first, hfirst, hlookup⟩ := lookup_asks e labels op link
  rw [Coordinator.process_delete _ _ _ hkind]
  generalize (backend (Rest.client e) labels).lookup op link = answer at hfirst hlookup
  have hasked : Retracts e first := retracts_of_asks hlookup
  obtain ⟨cause | _ | a, link⟩ := answer
  · exact ⟨first, hfirst, hasked.no_post, rfl, hasked.targets⟩
  · exact ⟨first, hfirst, hasked.no_post, rfl, hasked.targets⟩
  · obtain ⟨rest, hrest, hreleased⟩ := released_retracts e labels op a link
    have hall := hasked.append hreleased
    exact ⟨first ++ rest, hfirst.append hrest, hall.no_post, rfl, hall.targets⟩

/-! ## Every operation -/

/-- An operation that does not name a reference and a known label leaves the link alone. -/
lemma snd_process_of_not_names (h : ∀ net reference, ¬ Names labels op net reference)
    (link : Link) : (process (backend (Rest.client e) labels) op link).2 = link := by
  obtain ⟨cause, hlookup⟩ := checks_of_not_names h
    (fun reference net => boundAddress (Rest.client e) reference net) link
  replace hlookup : (backend (Rest.client e) labels).lookup op link = (.error cause, link) :=
    hlookup
  cases hkind : op.kind with
  | delete => rw [Coordinator.process_delete _ _ _ hkind, hlookup]
  | create =>
      cases hrecorded : op.recorded with
      | none => rw [Coordinator.process_plain _ _ _ hkind hrecorded, hlookup]
      | some text =>
          rw [Coordinator.process_recorded _ _ _ hkind hrecorded]
          cases Address.parse? text with
          | none => rfl
          | some a =>
              obtain ⟨cause, hallocate⟩ : ∃ cause,
                  (backend (Rest.client e) labels).allocate op a link = (.error cause, link) :=
                checks_of_not_names h _ link
              simp only [hallocate]

/-- **Whatever a server answers, an operation says only what is safe, and answers accordingly.** -/
theorem process_safe (e : Endpoint) (labels : Table LabelNetwork) (op : Operation) (link : Link) :
    ∃ said, Talked link said (process (backend (Rest.client e) labels) op link).2 ∧
      Safe e labels op said (process (backend (Rest.client e) labels) op link).1 := by
  have hsilent : ∀ said, Talked link said (process (backend (Rest.client e) labels) op link).2 →
      op.reference? = none ∨ Pool.isBlankText op.pool = true ∨ labels.get? op.pool = none →
      said = [] := by
    intro said htalked hunnamed
    rw [snd_process_of_not_names] at htalked
    · exact htalked.eq_nil
    · intro net reference hnames
      rcases hunnamed with h | h | h
      · rw [hnames.reference] at h
        cases h
      · rw [hnames.labelled] at h
        cases h
      · rw [hnames.site] at h
        cases h
  cases hkind : op.kind with
  | create =>
      have hcreate : ∃ said,
          Talked link said (process (backend (Rest.client e) labels) op link).2 ∧
            CreateSafe e op said (process (backend (Rest.client e) labels) op link).1 := by
        cases hrecorded : op.recorded with
        | none => exact createSafe_plain hkind hrecorded link
        | some text => exact createSafe_recorded hkind hrecorded link
      obtain ⟨said, htalked, hsafe⟩ := hcreate
      refine ⟨said, htalked, fun _ => hsafe, fun h => ?_, hsilent said htalked⟩
      rw [hkind] at h
      cases h
  | delete =>
      have hdelete : ∃ said,
          Talked link said (process (backend (Rest.client e) labels) op link).2 ∧
            DeleteSafe e op said (process (backend (Rest.client e) labels) op link).1 :=
        deleteSafe hkind link
      obtain ⟨said, htalked, hsafe⟩ := hdelete
      refine ⟨said, htalked, fun h => ?_, fun _ => hsafe, hsilent said htalked⟩
      rw [hkind] at h
      cases h

end Ipam.Infoblox
