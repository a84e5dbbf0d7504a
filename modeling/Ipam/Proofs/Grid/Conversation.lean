import Ipam.Grid.Rest
import Ipam.Proofs.Coordinator.Calls
import Ipam.Proofs.Grid.Query

/-!
# What a client says to a server

A server may answer anything, or close the connection.  What a client says is then a matter of the
client alone, and this file follows it from one request to chains of calls.

* `Exchange`, `Talked` — a request with its answer, and what was said between two states of a link.
* `Says` — after every start of a call, what was said and what the call answered fit together; with
  `Says.pure`, `Says.throw`, `Says.bind` and `Says.forM` for chains.
* `Asks` — one request at most, and what the answer has to be for a success.
* **`Rest.exchange_asks`** — every request of the client is one of these, and so are its calls.
* `About` — a request is for the objects of a kind, by its URL.
-/

namespace Ipam.Grid

variable {α β ε : Type}

/-! ## Exchanges -/

/-- A request with its answer; none stands for a connection that was closed without one. -/
abbrev Exchange := Request × Option Answer

/-- What was said between two states of a link.  The answers are taken in order; where they end,
connections are closed. -/
structure Talked (before : Link) (said : List Exchange) (after : Link) : Prop where
  received : after.received = before.received ++ said.map Prod.fst
  answered : ∀ (i : Nat) (x : Exchange), said[i]? = some x → x.2 = before.answers[i]?.join
  answers : after.answers = before.answers.drop said.length
  reachable : after.reachable = before.reachable
  trusted : after.trusted = before.trusted

lemma talked_nil (link : Link) : Talked link [] link where
  received := by simp
  answered i x h := by cases h
  answers := rfl
  reachable := rfl
  trusted := rfl

lemma Talked.append {before between after : Link} {first rest : List Exchange}
    (h : Talked before first between) (h' : Talked between rest after) :
    Talked before (first ++ rest) after where
  received := by
    rw [h'.received, h.received, List.map_append, List.append_assoc]
  answered := by
    intro i x hx
    rw [List.getElem?_append] at hx
    split_ifs at hx with hi
    · exact h.answered i x hx
    · rw [h'.answered _ x hx, h.answers, List.getElem?_drop, Nat.add_sub_cancel' (Nat.le_of_not_lt hi)]
  answers := by
    rw [h'.answers, h.answers, List.drop_drop, List.length_append]
  reachable := h'.reachable.trans h.reachable
  trusted := h'.trusted.trans h.trusted

/-- Nothing was said if the link is as it was. -/
lemma Talked.eq_nil {link : Link} {said : List Exchange} (h : Talked link said link) :
    said = [] := by
  have hlength := congrArg List.length h.received
  rw [List.length_append, List.length_map] at hlength
  exact List.length_eq_zero_iff.1 (by omega)

/-! ## Calls -/

/-- From every state of the link, what a call says and what it answers fit together. -/
def Says (x : ExceptT ε (StateM Link) α) (P : List Exchange → Except ε α → Prop) : Prop :=
  ∀ link, ∃ said, Talked link said (x link).2 ∧ P said (x link).1

namespace Says

variable {x : ExceptT ε (StateM Link) α} {f : α → ExceptT ε (StateM Link) β}
  {P : List Exchange → Except ε α → Prop} {Q : List Exchange → Except ε β → Prop}

lemma mono {P' : List Exchange → Except ε α → Prop} (h : Says x P)
    (himp : ∀ said answer, P said answer → P' said answer) : Says x P' := by
  intro link
  obtain ⟨said, htalked, hsaid⟩ := h link
  exact ⟨said, htalked, himp said _ hsaid⟩

lemma pure {value : α} (h : P [] (.ok value)) :
    Says (Pure.pure value : ExceptT ε (StateM Link) α) P :=
  fun link => ⟨[], talked_nil link, h⟩

lemma throw {e : ε} (h : P [] (.error e)) : Says (throw e : ExceptT ε (StateM Link) α) P :=
  fun link => ⟨[], talked_nil link, h⟩

/-- A chain says what its first call says, and then what the rest says if that succeeded. -/
lemma bind (hx : Says x P) (herror : ∀ said e, P said (.error e) → Q said (.error e))
    (hok : ∀ said value, P said (.ok value) →
      Says (f value) fun rest answer => Q (said ++ rest) answer) : Says (x >>= f) Q := by
  intro link
  obtain ⟨said, htalked, hsaid⟩ := hx link
  rw [Call.bind_apply]
  generalize x link = answer at htalked hsaid
  obtain ⟨e | value, between⟩ := answer
  · exact ⟨said, htalked, herror said e hsaid⟩
  · obtain ⟨rest, hrest, hQ⟩ := hok said value hsaid between
    exact ⟨said ++ rest, htalked.append hrest, hQ⟩

/-- Calls one after the other say what each of them may say. -/
lemma forM {f : α → ExceptT ε (StateM Link) Unit} {p : Exchange → Prop} {values : List α}
    (h : ∀ value ∈ values, Says (f value) fun said _ => ∀ x ∈ said, p x) :
    Says (values.forM f) fun said _ => ∀ x ∈ said, p x := by
  induction values with
  | nil => exact pure (by simp)
  | cons value rest ih =>
      obtain ⟨hvalue, hrest⟩ := List.forall_mem_cons.1 h
      refine bind hvalue (fun said e hsaid => hsaid) fun said answer hsaid => ?_
      exact (ih hrest).mono fun more _ hmore => List.forall_mem_append.2 ⟨hsaid, hmore⟩

end Says

/-! ## One request -/

/-- One request at most is sent, which is allowed.  Success needs an answer that can be read. -/
inductive Asks (allows : Request → Prop) (reads : Answer → α → Prop) :
    List Exchange → Except ε α → Prop
  | unsent {e : ε} : Asks allows reads [] (.error e)
  | failed {request : Request} {answer : Option Answer} {e : ε} (hrequest : allows request) :
      Asks allows reads [(request, answer)] (.error e)
  | answered {request : Request} {answer : Answer} {value : α} (hrequest : allows request)
      (h : reads answer value) : Asks allows reads [(request, some answer)] (.ok value)

lemma Asks.mono {allows allows' : Request → Prop} {reads : Answer → α → Prop} {said : List Exchange}
    {answer : Except ε α} (h : Asks allows reads said answer)
    (hallows : ∀ request, allows request → allows' request) : Asks allows' reads said answer := by
  cases h with
  | unsent => exact .unsent
  | failed hrequest => exact .failed (hallows _ hrequest)
  | answered hrequest hread => exact .answered (hallows _ hrequest) hread

/-- What is computed from the answer of a request, without more requests, may fail too. -/
lemma Says.bind_asks {x : ExceptT ε (StateM Link) α} {f : α → ExceptT ε (StateM Link) β}
    {allows : Request → Prop} {reads : Answer → α → Prop} {reads' : Answer → β → Prop}
    (hx : Says x (Asks allows reads))
    (hf : ∀ answer value, reads answer value → ∃ result : Except ε β,
      (∀ link, f value link = (result, link)) ∧ ∀ read, result = .ok read → reads' answer read) :
    Says (x >>= f) (Asks allows reads') := by
  refine Says.bind hx ?_ ?_
  · intro said e hsaid
    cases hsaid with
    | unsent => exact .unsent
    | failed hrequest => exact .failed hrequest
  · intro said value hsaid link
    cases hsaid with
    | answered hrequest h =>
        obtain ⟨result, hresult, hreads⟩ := hf _ value h
        rw [hresult]
        refine ⟨[], talked_nil link, ?_⟩
        cases result with
        | error e => exact .failed hrequest
        | ok read => exact .answered hrequest (hreads read rfl)

/-- An answer that says that the request was carried out and has a body that denotes a value. -/
def Decodes (item : Json → Option α) (answer : Answer) (value : α) : Prop :=
  isSuccess answer.status = true ∧ (Json.parse? answer.body >>= item) = some value

namespace Rest

variable (e : Endpoint)

/-- The request for an object path. -/
def requestOf (method : Method) (path : String) (body : Option Json) : Request :=
  ⟨method, joinUrl (baseUrl e) path, authorization e, body⟩

lemma send_apply (request : Request) (link : Link) : send request link =
    (link.answers.head?.join.elim (.error .unreachable) .ok,
      { link with answers := link.answers.tail, received := link.received ++ [request] }) := by
  rw [send]
  rcases link.answers.head? with _ | _ | answer <;> rfl

lemma talked_send (request : Request) (link : Link) :
    Talked link [(request, link.answers.head?.join)] (send request link).2 := by
  rw [send_apply]
  refine ⟨rfl, fun i x hx => ?_, List.drop_one.symm, rfl, rfl⟩
  obtain ⟨rfl, rfl⟩ : i = 0 ∧ x = (request, link.answers.head?.join) := by
    cases i with
    | zero => exact ⟨rfl, (Option.some.inj hx).symm⟩
    | succ i => cases hx
  rw [List.head?_eq_getElem?]

lemma send_asks (request : Request) :
    Says (send request) (Asks (· = request) fun answer value => value = answer) := by
  intro link
  refine ⟨_, talked_send request link, ?_⟩
  rw [send_apply]
  cases link.answers.head?.join with
  | none => exact .failed rfl
  | some answer => exact .answered rfl rfl

lemma isSuccess_of_refusal?_eq_none {method : Method} {path : String} {answer : Answer}
    (h : refusal? method path answer = none) : isSuccess answer.status = true := by
  rw [refusal?] at h
  split_ifs at h with hsuccess
  exact hsuccess

/-- A request is sent where there is a server that can be trusted, and a refusal is an error. -/
lemma exchange_apply (method : Method) (path : String) (body : Option Json) (link : Link) :
    exchange e method path body link =
      if (!link.reachable || e.verifyTls && !link.trusted) = true then
        (.error .unreachable, link)
      else (send (requestOf e method path body) >>= fun answer =>
        (refusal? method path answer).elim (pure answer) throw : GridM Link Answer) link := by
  rw [exchange, Call.bind_apply]
  change (if _ then _ else _ : GridM Link Answer) link = _
  split_ifs
  · rfl
  · refine congrFun (congrArg (send (requestOf e method path body) >>= ·) ?_) link
    funext answer
    cases refusal? method path answer <;> rfl

/-- **A request is answered with success, or the call fails.** -/
theorem exchange_asks (method : Method) (path : String) (body : Option Json) :
    Says (exchange e method path body) (Asks (· = requestOf e method path body)
      fun answer value => isSuccess answer.status = true ∧ value = answer) := by
  have hsent : Says (send (requestOf e method path body) >>= fun answer =>
      (refusal? method path answer).elim (pure answer) throw)
      (Asks (· = requestOf e method path body)
        fun answer value => isSuccess answer.status = true ∧ value = answer) := by
    refine (send_asks _).bind_asks ?_
    intro answer value hvalue
    subst hvalue
    cases hrefused : refusal? method path value with
    | some error => exact ⟨.error error, fun link => rfl, fun _ h => by cases h⟩
    | none =>
        refine ⟨.ok value, fun link => rfl, ?_⟩
        rintro _ ⟨⟩
        exact ⟨isSuccess_of_refusal?_eq_none hrefused, rfl⟩
  intro link
  rw [exchange_apply]
  split_ifs
  · exact ⟨[], talked_nil link, .unsent⟩
  · exact hsent link

/-- A value is decoded from an answer that says that the request was carried out. -/
lemma decode_asks {item : Json → Option α} {allows : Request → Prop} {x : GridM Link Answer}
    (hx : Says x (Asks allows
      fun answer value => isSuccess answer.status = true ∧ value = answer)) :
    Says (x >>= decode item) (Asks allows (Decodes item)) := by
  refine hx.bind_asks ?_
  rintro answer _ ⟨hsuccess, rfl⟩
  cases hread : Json.parse? _ >>= item with
  | none => exact ⟨.error .unreadable, fun link => by rw [decode, hread]; rfl, fun _ h => by cases h⟩
  | some read =>
      refine ⟨.ok read, fun link => by rw [decode, hread]; rfl, ?_⟩
      rintro _ ⟨⟩
      exact ⟨hsuccess, hread⟩

lemma query_asks (item : Json → Option α) (object : String) (filters : List Filter) :
    Says (query e item object filters)
      (Asks (· = requestOf e .get (withQuery object filters) none) (Decodes (Json.asList? item))) :=
  decode_asks (exchange_asks e .get _ none)

lemma post_asks (item : Json → Option α) (path : String) (body : Json) :
    Says (post e item path body) (Asks (· = requestOf e .post path (some body)) (Decodes item)) :=
  decode_asks (exchange_asks e .post path (some body))

lemma delete_asks (reference : String) : Says ((client e).delete reference)
    (Asks (· = requestOf e .delete reference none) fun answer _ => isSuccess answer.status = true) := by
  refine (exchange_asks e .delete reference none).bind_asks fun answer value h => ?_
  exact ⟨.ok (), fun link => rfl, fun _ _ => h.1⟩

end Rest

/-! ## What a request is about -/

/-- The number of objects that a request may make. -/
def Method.makes (method : Method) : Nat :=
  if method = .post then 1 else 0

/-- A request is for the objects of a kind: its URL is that of the kind with a query. -/
def About (e : Endpoint) (object : String) (request : Request) : Prop :=
  (Rest.baseUrl e ++ "/" ++ object ++ "?").toList <+: request.url.toList

instance (e : Endpoint) (object : String) : DecidablePred (About e object) :=
  fun _ => inferInstanceAs (Decidable (_ <+: _))

lemma joinUrl_of_head {base path : String} {c : Char} {rest : List Char}
    (hpath : path.toList = c :: rest) (hhttp : c ≠ 'h') (hslash : c ≠ '/') :
    joinUrl base path = base ++ "/" ++ path := by
  have hlead : Text.stripLead? "http".toList path.toList = none := by
    rw [hpath]
    exact if_neg (Ne.symm hhttp)
  rw [joinUrl, hlead, hpath, List.dropWhile_cons_of_neg (by simpa using hslash), ← hpath,
    String.ofList_toList]
  rfl

lemma about_requestOf (e : Endpoint) {object : String} (method : Method) {filters : List Filter}
    (hfilters : filters ≠ []) (body : Option Json) {c : Char} {rest : List Char}
    (hobject : object.toList = c :: rest) (hhttp : c ≠ 'h') (hslash : c ≠ '/') :
    About e object (Rest.requestOf e method (withQuery object filters) body) := by
  have hpath : (withQuery object filters).toList
      = c :: (rest ++ '?' :: (queryString filters).toList) := by
    have hmark : "?".toList = ['?'] := rfl
    rw [withQuery_of_ne_nil object hfilters]
    simp [hobject, hmark]
  rw [About, Rest.requestOf, joinUrl_of_head hpath hhttp hslash,
    withQuery_of_ne_nil object hfilters]
  refine ⟨(queryString filters).toList, ?_⟩
  simp only [String.toList_append, List.append_assoc]

/-- No request is for fixed addresses and for host records. -/
lemma About.ne_record {e : Endpoint} {request : Request} (h : About e "fixedaddress" request) :
    ¬ About e "record:a" request := by
  intro h'
  have hclash : ¬ ("fixedaddress".toList ++ "?".toList <+: "record:a".toList ++ "?".toList) ∧
      ¬ ("record:a".toList ++ "?".toList <+: "fixedaddress".toList ++ "?".toList) := by
    decide
  rcases List.prefix_or_prefix_of_prefix h h' with hprefix | hprefix
  all_goals
    simp only [String.toList_append, List.append_assoc, List.prefix_append_right_inj] at hprefix
  · exact hclash.1 hprefix
  · exact hclash.2 hprefix

end Ipam.Grid
