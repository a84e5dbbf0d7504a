import Ipam.Proofs.Allocation.Infoblox
import Ipam.Proofs.Grid.Conversation

/-!
# What the calls of the Infoblox backend say to a grid

A grid behind a link may answer anything, or nothing.  Whatever it does, the calls of the backend say
only a few things.

* `Infoblox.NamesFixed`, `Infoblox.Reports`, `Infoblox.Cites` — the fixed addresses that an answer
  names, the address that the last answer reports, and the references that the answer of a query
  contains.
* `Infoblox.Sends`, `Infoblox.Reserves`, `Infoblox.Retracts` — what is said to make objects of one
  kind, with what has to be answered for a success, and what is said to delete objects.
* `Infoblox.lookup_asks`, `Infoblox.allocateNext_asks` — one request at most, and what its answer says.
* **`Infoblox.allocate_reserves`**, **`Infoblox.createDns_sends`** — what is said to bind one address,
  and to publish it.
* **`Infoblox.release_retracts`**, **`Infoblox.deleteDns_retracts`** — what is said to undo both.
-/

namespace Ipam.Infoblox

open Grid (Endpoint Link Answer Exchange Talked Says Asks Decodes About FixedAddress
  HostRecord Rest.requestOf Rest.client Rest.baseUrl joinUrl)

variable {e : Endpoint} {labels : Table LabelNetwork} {op : Operation} {α β : Type}

/-! ## What answers name -/

/-- The fixed addresses that the answer of a query, or of a reservation, names. -/
inductive NamesFixed (x : Exchange) : List FixedAddress → Prop
  | found {answer : Answer} {os : List FixedAddress} (hmethod : x.1.method = .get)
      (hanswer : x.2 = some answer) (h : Decodes (Json.asList? FixedAddress.ofJson?) answer os) :
      NamesFixed x os
  | reserved {answer : Answer} {o : FixedAddress} (hmethod : x.1.method = .post)
      (hanswer : x.2 = some answer) (h : Decodes FixedAddress.ofJson? answer o) : NamesFixed x [o]

/-- The last exchange names some fixed addresses, and the first of them has an address. -/
def Reports (said : List Exchange) (a : Address) : Prop :=
  ∃ x o os, said.getLast? = some x ∧ NamesFixed x (o :: os) ∧ Address.parse? o.address = some a

lemma Reports.append {rest : List Exchange} {a : Address} (h : Reports rest a)
    (first : List Exchange) : Reports (first ++ rest) a := by
  obtain ⟨x, o, os, hlast, hreports⟩ := h
  refine ⟨x, o, os, ?_, hreports⟩
  rw [List.getLast?_append, hlast, Option.some_or]

/-- The answer of a query contains a reference. -/
inductive Cites (e : Endpoint) (x : Exchange) (reference : String) : Prop
  | fixed {answer : Answer} {os : List FixedAddress} {o : FixedAddress}
      (habout : About e "fixedaddress" x.1) (hmethod : x.1.method = .get)
      (hanswer : x.2 = some answer) (h : Decodes (Json.asList? FixedAddress.ofJson?) answer os)
      (ho : o ∈ os) (hreference : o.reference = reference)
  | record {answer : Answer} {rs : List HostRecord} {r : HostRecord}
      (habout : About e "record:a" x.1) (hmethod : x.1.method = .get)
      (hanswer : x.2 = some answer) (h : Decodes (Json.asList? HostRecord.ofJson?) answer rs)
      (hr : r ∈ rs) (hreference : r.reference = reference)

/-! ## Chains of calls -/

/-- Requests for the objects of one kind, none to delete and `n` at most to make one. -/
structure Sends (e : Endpoint) (object : String) (n : Nat) (said : List Exchange) : Prop where
  about : ∀ x ∈ said, About e object x.1
  kept : ∀ x ∈ said, x.1.method ≠ .delete
  posts : said.countP (fun x => x.1.method = .post) ≤ n

lemma sends_nil (e : Endpoint) (object : String) (n : Nat) : Sends e object n [] where
  about := by simp
  kept := by simp
  posts := by simp

lemma Sends.append {object : String} {m n : Nat} {first rest : List Exchange}
    (h : Sends e object m first) (h' : Sends e object n rest) :
    Sends e object (m + n) (first ++ rest) where
  about := List.forall_mem_append.2 ⟨h.about, h'.about⟩
  kept := List.forall_mem_append.2 ⟨h.kept, h'.kept⟩
  posts := by
    rw [List.countP_append]
    exact Nat.add_le_add h.posts h'.posts

lemma Sends.mono {object : String} {m n : Nat} {said : List Exchange} (h : Sends e object m said)
    (hle : m ≤ n) : Sends e object n said :=
  ⟨h.about, h.kept, h.posts.trans hle⟩

/-- One request at most, for the objects of a kind. -/
abbrev AsksFor (e : Endpoint) (method : Grid.Method) (object : String)
    (reads : Answer → α → Prop) : List Exchange → Except AllocationError α → Prop :=
  Asks (fun request => request.method = method ∧ About e object request) reads

variable {method : Grid.Method} {reads : Answer → α → Prop} {said : List Exchange}
  {answer : Except AllocationError α}

lemma sends_of_asks {object : String} (h : AsksFor e method object reads said answer)
    (hkept : method ≠ .delete) : Sends e object method.makes said := by
  cases h with
  | unsent => exact sends_nil e object _
  | failed hrequest | answered hrequest =>
      obtain ⟨rfl, habout⟩ := hrequest
      exact ⟨by simpa using habout, by simpa using hkept, by simp [Grid.Method.makes]⟩

/-- Requests for fixed addresses, which all name some if the chain succeeds. -/
structure Reserves (e : Endpoint) (n : Nat) (said : List Exchange)
    (answer : Except AllocationError α) : Prop where
  sends : Sends e "fixedaddress" n said
  named : ∀ value, answer = .ok value → ∀ x ∈ said, ∃ os, NamesFixed x os

/-- An exchange whose answer was read by `reads` names fixed addresses. -/
def Naming (method : Grid.Method) (reads : Answer → α → Prop) : Prop :=
  ∀ (x : Exchange) given value, x.1.method = method → x.2 = some given → reads given value →
    ∃ os, NamesFixed x os

lemma Naming.of_asks {object : String} {value : α} (hreads : Naming method reads)
    (h : AsksFor e method object reads said (.ok value)) : ∀ x ∈ said, ∃ os, NamesFixed x os := by
  cases h with
  | answered hrequest hread =>
      intro x hx
      cases List.mem_singleton.1 hx
      exact hreads _ _ _ hrequest.1 rfl hread

lemma Naming.reserves (hreads : Naming method reads)
    (h : AsksFor e method "fixedaddress" reads said answer) (hkept : method ≠ .delete) :
    Reserves e method.makes said answer where
  sends := sends_of_asks h hkept
  named := by
    rintro value rfl
    exact hreads.of_asks h

/-- A chain of reservations is a reservation. -/
lemma says_bind_reserves {m n : Nat} {x : AllocationM Link α} {f : α → AllocationM Link β}
    (hx : Says x (Reserves e m)) (hf : ∀ value, Says (f value) (Reserves e n)) :
    Says (x >>= f) (Reserves e (m + n)) := by
  refine Says.bind hx ?_ fun said value hsaid => (hf value).mono fun rest answer hrest => ?_
  · intro said cause hsaid
    exact ⟨hsaid.sends.mono (Nat.le_add_right m n), fun _ hvalue => by cases hvalue⟩
  · refine ⟨hsaid.sends.append hrest.sends, fun found hfound => ?_⟩
    exact List.forall_mem_append.2 ⟨hsaid.named value rfl, hrest.named found hfound⟩

/-! ## Calls of the backend -/

lemma says_onGrid {allows : Grid.Request → Prop} {call : Grid.GridM Link α}
    (h : Says call (Asks allows reads)) : Says (onGrid call) (Asks allows reads) := by
  intro link
  obtain ⟨said, htalked, hasks⟩ := h link
  rw [onGrid, ExceptT.run]
  generalize call link = given at htalked hasks
  obtain ⟨cause | value, link'⟩ := given
  · refine ⟨said, htalked, ?_⟩
    cases hasks with
    | unsent => exact .unsent
    | failed hrequest => exact .failed hrequest
  · refine ⟨said, htalked, ?_⟩
    cases hasks with
    | answered hrequest hread => exact .answered hrequest hread

/-- What follows the checks of an operation is said only if it names a network and a reference. -/
lemma says_checks {f : String → LabelNetwork → AllocationM Link α}
    {P : List Exchange → Except AllocationError α → Prop}
    (h : ∀ reference net, Names labels op net reference → Says (f reference net) P)
    (hsilent : ∀ cause, P [] (.error cause)) :
    Says (do
      let reference ← Backend.requireReference op
      let net ← networkOf labels op
      f reference net) P := by
  intro link
  by_cases hnames : ∃ net reference, Names labels op net reference
  · obtain ⟨net, reference, hnames⟩ := hnames
    rw [hnames.checks_apply]
    exact h reference net hnames link
  · obtain ⟨cause, hcause⟩ := checks_of_not_names
      (fun net reference hsome => hnames ⟨net, reference, hsome⟩) f link
    rw [hcause]
    exact ⟨[], Grid.talked_nil link, hsilent cause⟩

lemma says_networkOf {f : LabelNetwork → AllocationM Link α}
    {P : List Exchange → Except AllocationError α → Prop} (h : ∀ net, Says (f net) P)
    (hsilent : ∀ cause, P [] (.error cause)) :
    Says (networkOf labels op >>= f) P := by
  intro link
  rw [Call.bind_apply, networkOf_apply]
  split_ifs
  · exact ⟨[], Grid.talked_nil link, hsilent _⟩
  · cases labels.get? op.pool with
    | none => exact ⟨[], Grid.talked_nil link, hsilent _⟩
    | some net => exact h net link

/-- A call that sends a request with a query about the objects of a kind. -/
lemma says_asksFor {object : String} {filters : List Grid.Filter} {body : Option Json}
    {call : Grid.GridM Link α} {c : Char} {rest : List Char}
    (h : Says call (Asks
      (· = Rest.requestOf e method (Grid.withQuery object filters) body) reads))
    (hfilters : filters ≠ []) (hobject : object.toList = c :: rest) (hhttp : c ≠ 'h')
    (hslash : c ≠ '/') : Says (onGrid call) (AsksFor e method object reads) := by
  refine (says_onGrid h).mono fun said answer hasks => hasks.mono ?_
  rintro request rfl
  exact ⟨rfl, Grid.about_requestOf e method hfilters body hobject hhttp hslash⟩

lemma fixedAddresses_asks (e : Endpoint) (filters : List Grid.Filter) :
    Says (onGrid ((Rest.client e).fixedAddresses filters))
      (AsksFor e .get "fixedaddress" (Decodes (Json.asList? FixedAddress.ofJson?))) :=
  says_asksFor (Grid.Rest.query_asks e _ _ _) (by simp) rfl (by decide) (by decide)

lemma hostRecords_asks (e : Endpoint) (filters : List Grid.Filter) :
    Says (onGrid ((Rest.client e).hostRecords filters))
      (AsksFor e .get "record:a" (Decodes (Json.asList? HostRecord.ofJson?))) :=
  says_asksFor (Grid.Rest.query_asks e _ _ _) (by simp) rfl (by decide) (by decide)

lemma postFixed_asks (e : Endpoint) (view address name : String) (attributes : Grid.Attributes) :
    Says (onGrid (Grid.Rest.postFixed e view address name attributes))
      (AsksFor e .post "fixedaddress" (Decodes FixedAddress.ofJson?)) := by
  rw [Grid.Rest.postFixed]
  split_ifs
  · exact fun link => ⟨[], Grid.talked_nil link, .unsent⟩
  · exact says_asksFor (Grid.Rest.post_asks e _ _ _) (by simp) rfl (by decide) (by decide)

lemma createHostRecord_asks (e : Endpoint) (name address : String)
    (attributes : Grid.Attributes) :
    Says (onGrid ((Rest.client e).createHostRecord name address attributes))
      (AsksFor e .post "record:a" (Decodes HostRecord.ofJson?)) :=
  says_asksFor (Grid.Rest.post_asks e _ _ _) (by simp) rfl (by decide) (by decide)

/-! ## Reserving -/

/-- What the answer of a query says about the address of the first fixed address. -/
inductive ReadsFirst (answer : Answer) : Option Address → Prop
  | nothing (h : Decodes (Json.asList? FixedAddress.ofJson?) answer []) : ReadsFirst answer none
  | first {o : FixedAddress} {os : List FixedAddress} {a : Address}
      (h : Decodes (Json.asList? FixedAddress.ofJson?) answer (o :: os))
      (ha : Address.parse? o.address = some a) : ReadsFirst answer (some a)

/-- What the answer of a reservation says about the address. -/
inductive ReadsMade (answer : Answer) : Address → Prop
  | made {o : FixedAddress} {a : Address} (h : Decodes FixedAddress.ofJson? answer o)
      (ha : Address.parse? o.address = some a) : ReadsMade answer a

lemma addressOf_quiet (text : String) : ∃ result : Except AllocationError Address,
    (∀ link : Link, addressOf text link = (result, link)) ∧
      ∀ a, result = .ok a → Address.parse? text = some a := by
  cases ha : Address.parse? text with
  | none =>
      refine ⟨.error (.badAddress text), fun link => ?_, fun a h => by cases h⟩
      rw [addressOf, ha]
      rfl
  | some a =>
      refine ⟨.ok a, fun link => ?_, fun _ h => by cases h; rfl⟩
      rw [addressOf, ha]
      rfl

lemma boundAddress_asks (e : Endpoint) (reference : String) (net : LabelNetwork) :
    Says (boundAddress (Rest.client e) reference net) (AsksFor e .get "fixedaddress" ReadsFirst) := by
  refine (fixedAddresses_asks e _).bind_asks fun answer found h => ?_
  cases found with
  | nil =>
      refine ⟨.ok none, fun link => rfl, ?_⟩
      rintro _ ⟨⟩
      exact .nothing h
  | cons o os =>
      obtain ⟨result, hrun, hread⟩ := addressOf_quiet o.address
      refine ⟨result.map some, fun link => ?_, ?_⟩
      · simp only [Call.bind_apply, hrun]
        cases result <;> rfl
      · rintro read hvalue
        cases result with
        | error => cases hvalue
        | ok a =>
            cases hvalue
            exact .first h (hread a rfl)

lemma lookup_asks (e : Endpoint) (labels : Table LabelNetwork) (op : Operation) :
    Says ((backend (Rest.client e) labels).lookup op) (AsksFor e .get "fixedaddress" ReadsFirst) :=
  says_checks (fun reference net _ => boundAddress_asks e reference net) fun _ => .unsent

lemma allocateNext_asks (e : Endpoint) (labels : Table LabelNetwork) (op : Operation) :
    Says ((backend (Rest.client e) labels).allocateNext op)
      (AsksFor e .post "fixedaddress" ReadsMade) := by
  refine says_checks (fun reference net _ => ?_) fun _ => .unsent
  refine (postFixed_asks e _ _ _ _).bind_asks fun answer o h => ?_
  obtain ⟨result, hrun, hread⟩ := addressOf_quiet o.address
  exact ⟨result, hrun, fun a ha => .made h (hread a ha)⟩

lemma naming_query : Naming .get (Decodes (Json.asList? FixedAddress.ofJson?)) :=
  fun _ _ _ hmethod hgiven h => ⟨_, .found hmethod hgiven h⟩

lemma naming_reservation : Naming .post (Decodes FixedAddress.ofJson?) :=
  fun _ _ _ hmethod hgiven h => ⟨_, .reserved hmethod hgiven h⟩

lemma naming_first : Naming .get ReadsFirst := by
  intro x given value hmethod hgiven hread
  cases hread with
  | nothing h | first h => exact ⟨_, .found hmethod hgiven h⟩

lemma naming_made : Naming .post ReadsMade := by
  intro x given value hmethod hgiven hread
  cases hread with
  | made h => exact ⟨_, .reserved hmethod hgiven h⟩

lemma reports_of_first {a : Address}
    (h : AsksFor e .get "fixedaddress" ReadsFirst said (.ok (some a))) : Reports said a := by
  cases h with
  | answered hrequest hread =>
      cases hread with
      | first h ha => exact ⟨_, _, _, rfl, .found hrequest.1 rfl h, ha⟩

lemma reports_of_made {a : Address}
    (h : AsksFor e .post "fixedaddress" ReadsMade said (.ok a)) : Reports said a := by
  cases h with
  | answered hrequest hread =>
      cases hread with
      | made h ha => exact ⟨_, _, _, rfl, .reserved hrequest.1 rfl h, ha⟩

lemma boundAddress_reserves (e : Endpoint) (reference : String) (net : LabelNetwork) :
    Says (boundAddress (Rest.client e) reference net) (Reserves e 0) :=
  (boundAddress_asks e reference net).mono fun _ _ h => naming_first.reserves h (by decide)

lemma fixedAt_reserves (e : Endpoint) (net : LabelNetwork) (a : Address) :
    Says (fixedAt (Rest.client e) net a) (Reserves e 0) :=
  (fixedAddresses_asks e _).mono fun _ _ h => naming_query.reserves h (by decide)

lemma createFixed_reserves (e : Endpoint) (view address name : String)
    (attributes : Grid.Attributes) :
    Says (onGrid ((Rest.client e).createFixed view address name attributes)) (Reserves e 1) :=
  (postFixed_asks e _ _ _ _).mono fun _ _ h => naming_reservation.reserves h (by decide)

lemma reserves_nil (e : Endpoint) (n : Nat) (answer : Except AllocationError α) :
    Reserves e n [] answer :=
  ⟨sends_nil e _ n, by simp⟩

/-- **To bind one address, one reservation at most is sent.** -/
theorem allocate_reserves (e : Endpoint) (labels : Table LabelNetwork) (op : Operation)
    (a : Address) : Says ((backend (Rest.client e) labels).allocate op a) (Reserves e 1) := by
  change Says (allocate (Rest.client e) labels op a) _
  rw [allocate]
  refine says_checks (fun reference net _ => ?_) fun cause => reserves_nil e 1 _
  split_ifs
  · exact Says.throw (reserves_nil e 1 _)
  · refine says_bind_reserves (n := 1) (boundAddress_reserves e reference net) fun bound => ?_
    cases bound with
    | some bound =>
        simp only
        split_ifs
        · exact Says.pure (reserves_nil e 1 _)
        · exact Says.throw (reserves_nil e 1 _)
    | none =>
        refine says_bind_reserves (n := 1) (fixedAt_reserves e net a) fun found => ?_
        cases found with
        | nil =>
            refine says_bind_reserves (n := 0) (createFixed_reserves e _ _ _ _) fun _ => ?_
            exact Says.pure (reserves_nil e 0 _)
        | cons current rest =>
            simp only
            split_ifs
            · exact Says.pure (reserves_nil e 1 _)
            · exact Says.throw (reserves_nil e 1 _)

/-! ## Publishing -/

/-- **To publish an address, one host record at most is asked for.** -/
theorem createDns_sends (e : Endpoint) (labels : Table LabelNetwork) (op : Operation)
    (a : Address) : Says ((backend (Rest.client e) labels).createDns op a)
      fun said _ => Sends e "record:a" 1 said := by
  simp only [backend]
  cases op.host with
  | none => exact Says.pure (sends_nil e _ 1)
  | some host =>
      refine says_networkOf (fun net => ?_) fun _ => sends_nil e _ 1
      refine Says.bind (hostRecords_asks e _) (fun said cause hsaid => ?_) fun said found hsaid => ?_
      · exact (sends_of_asks hsaid (by decide)).mono (Nat.zero_le 1)
      · have hquery : Sends e "record:a" 0 said := sends_of_asks hsaid (by decide)
        split_ifs
        · refine Says.bind (createHostRecord_asks e _ _ _) (fun rest cause hrest => ?_)
            fun rest _ hrest => Says.pure ?_
          · exact hquery.append (sends_of_asks hrest (by decide))
          · rw [List.append_nil]
            exact hquery.append (sends_of_asks hrest (by decide))
        · refine Says.pure ?_
          rw [List.append_nil]
          exact hquery.mono (Nat.zero_le 1)

/-! ## Retracting -/

/-- Objects are deleted by references that were read before, and none is made. -/
structure Retracts (e : Endpoint) (said : List Exchange) : Prop where
  no_post : ∀ x ∈ said, x.1.method ≠ .post
  targets : ∀ before x after, said = before ++ x :: after → x.1.method = .delete →
    ∃ y ∈ before, ∃ reference, Cites e y reference ∧ x.1.url = joinUrl (Rest.baseUrl e) reference

lemma retracts_nil (e : Endpoint) : Retracts e [] where
  no_post := by simp
  targets before x after h := by simp at h

lemma Retracts.append {first rest : List Exchange} (h : Retracts e first)
    (h' : Retracts e rest) : Retracts e (first ++ rest) where
  no_post := List.forall_mem_append.2 ⟨h.no_post, h'.no_post⟩
  targets := by
    intro before x after hsplit hdelete
    rcases List.append_eq_append_iff.1 hsplit with ⟨middle, rfl, hrest⟩ | ⟨middle, hfirst, hrest⟩
    · obtain ⟨y, hy, hcites⟩ := h'.targets middle x after hrest hdelete
      exact ⟨y, List.mem_append_right _ hy, hcites⟩
    · cases middle with
      | nil =>
          obtain ⟨y, hy, -⟩ := h'.targets [] x after hrest.symm hdelete
          cases hy
      | cons x' middle =>
          cases hrest
          exact h.targets before x middle hfirst hdelete

/-- A query, and then deletions by references of its answer. -/
lemma retracts_cons {x : Exchange} {rest : List Exchange} (hx : x.1.method = .get)
    (hrest : ∀ y ∈ rest, y.1.method = .delete ∧
      ∃ reference, Cites e x reference ∧ y.1.url = joinUrl (Rest.baseUrl e) reference) :
    Retracts e (x :: rest) where
  no_post := by
    refine List.forall_mem_cons.2 ⟨by simp [hx], fun y hy => ?_⟩
    simp [(hrest y hy).1]
  targets := by
    intro before y after hsplit hdelete
    cases before with
    | nil =>
        cases hsplit
        rw [hx] at hdelete
        cases hdelete
    | cons first before =>
        cases hsplit
        obtain ⟨-, hcites⟩ := hrest y (List.mem_append_right _ List.mem_cons_self)
        exact ⟨x, List.mem_cons_self, hcites⟩

lemma retracts_of_asks {object : String} (h : AsksFor e .get object reads said answer) :
    Retracts e said := by
  cases h with
  | unsent => exact retracts_nil e
  | failed hrequest | answered hrequest => exact retracts_cons hrequest.1 (by simp)

lemma deletes (e : Endpoint) {values : List α} (referenceOf : α → String) :
    Says (values.forM fun o => onGrid ((Rest.client e).delete (referenceOf o))) fun said _ =>
      ∀ y ∈ said, y.1.method = .delete ∧
        ∃ o ∈ values, y.1.url = joinUrl (Rest.baseUrl e) (referenceOf o) := by
  refine Says.forM fun o ho => ?_
  refine (says_onGrid (Grid.Rest.delete_asks e _)).mono fun said answer hasks => ?_
  cases hasks with
  | unsent => simp
  | failed hrequest | answered hrequest =>
      subst hrequest
      simpa using ⟨rfl, o, ho, rfl⟩

/-- Objects that a query found are deleted by their references. -/
lemma retracts_of_query {object : String} {item : Json → Option α} {referenceOf : α → String}
    {query : AllocationM Link (List α)}
    (hquery : Says query (AsksFor e .get object (Decodes (Json.asList? item))))
    (hcites : ∀ (x : Exchange) answer values value, About e object x.1 → x.1.method = .get →
      x.2 = some answer → Decodes (Json.asList? item) answer values → value ∈ values →
      Cites e x (referenceOf value)) :
    Says (query >>= fun values =>
      values.forM fun o => onGrid ((Rest.client e).delete (referenceOf o)))
      fun said _ => Retracts e said := by
  refine Says.bind hquery (fun said cause hsaid => retracts_of_asks hsaid)
    fun said values hsaid => ?_
  refine (deletes e referenceOf).mono fun rest _ hrest => ?_
  cases hsaid with
  | answered hrequest h =>
      refine retracts_cons hrequest.1 fun y hy => ?_
      obtain ⟨hdelete, value, hvalue, hurl⟩ := hrest y hy
      exact ⟨hdelete, _, hcites _ _ _ value hrequest.2 hrequest.1 rfl h hvalue, hurl⟩

/-- **To release an address, only fixed addresses that were found are deleted.** -/
theorem release_retracts (e : Endpoint) (labels : Table LabelNetwork) (op : Operation)
    (a : Address) : Says ((backend (Rest.client e) labels).release op a)
      fun said _ => Retracts e said := by
  refine says_networkOf (fun net => ?_) fun _ => retracts_nil e
  refine retracts_of_query (fixedAddresses_asks e _) ?_
  exact fun x answer values value habout hmethod hanswer h hvalue =>
    .fixed habout hmethod hanswer h hvalue rfl

/-- **To withdraw a host name, only host records that were found are deleted.** -/
theorem deleteDns_retracts (e : Endpoint) (labels : Table LabelNetwork) (op : Operation)
    (a : Address) : Says ((backend (Rest.client e) labels).deleteDns op a)
      fun said _ => Retracts e said := by
  simp only [backend]
  cases op.host with
  | none => exact Says.pure (retracts_nil e)
  | some host =>
      refine says_networkOf (fun net => ?_) fun _ => retracts_nil e
      refine retracts_of_query (hostRecords_asks e _) ?_
      exact fun x answer values value habout hmethod hanswer h hvalue =>
        .record habout hmethod hanswer h hvalue rfl

end Ipam.Infoblox
