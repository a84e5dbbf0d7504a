import Ipam.Proofs.Coordinator.Calls
import Ipam.Proofs.Grid.Objects

/-!
# A grid under any commands

An administrator and clients set up a grid, ask it, create and delete in it, and put it out of order
and in order again, in any order and with any texts.

* `Memory.Command`, `Memory.Reply`, `Memory.Command.run` — what can be asked of a grid, and what it
  answers.
* `Memory.Command.made` — what a command made, as its answer tells.
* **`Memory.Command.change`** — every command is a change of the grid.
* `Memory.after`, `Memory.log` — the grid after some commands, and all that they made.
* `Memory.Free`, `Memory.Lowest` — what may be allocated; `Memory.FixedMatches`,
  `Memory.RecordMatches` — what a query asks for.
* **`Memory.commands_sound`** — what holds after any commands.
-/

namespace Ipam.Grid.Memory

variable {url : String} {g g' : Memory} {reference : String} {x : Object} {α : Type}

/-! ## Commands -/

/-- What can be asked of a grid. -/
inductive Command where
  | addView (name : String)
  | addNetwork (view cidr : String)
  | setFailure (message : Option String)
  | networkView (name : String)
  | network (view cidr : String)
  | definition (name : String)
  | createDefinition (d : AttributeDefinition)
  | allocateNext (view cidr name : String) (attributes : Attributes)
  | createFixed (view address name : String) (attributes : Attributes)
  | fixedAddresses (filters : List Filter)
  | createHostRecord (name address : String) (attributes : Attributes)
  | hostRecords (filters : List Filter)
  | delete (reference : String)

/-- What a grid answers. -/
inductive Reply where
  | done
  | networkView (found : Option NetworkView)
  | network (found : Option NetworkObject)
  | definition (found : Option AttributeDefinition)
  | reference (reference : String)
  | fixed (o : FixedAddress)
  | fixedAddresses (os : List FixedAddress)
  | record (r : HostRecord)
  | hostRecords (rs : List HostRecord)

/-- Runs a command on a grid.  The first three are the administrator's and cannot fail. -/
def Command.run (url : String) : Command → GridM Memory Reply
  | .addView name => fun g => (.ok .done, g.addView name)
  | .addNetwork view cidr => fun g => (.ok .done, g.addNetwork view cidr)
  | .setFailure message => fun g => (.ok .done, { g with failure := message })
  | .networkView name => .networkView <$> (client url).networkView? name
  | .network view cidr => .network <$> (client url).network? view cidr
  | .definition name => .definition <$> (client url).attribute? name
  | .createDefinition d => .reference <$> (client url).createAttribute d
  | .allocateNext view cidr name attributes =>
    .fixed <$> (client url).allocateNext view cidr name attributes
  | .createFixed view address name attributes =>
    .fixed <$> (client url).createFixed view address name attributes
  | .fixedAddresses filters => .fixedAddresses <$> (client url).fixedAddresses filters
  | .createHostRecord name address attributes =>
    .record <$> (client url).createHostRecord name address attributes
  | .hostRecords filters => .hostRecords <$> (client url).hostRecords filters
  | .delete reference => (fun _ => .done) <$> (client url).delete reference

/-- What a command made, from its answer.  The answer about a network does not tell its reference;
the grid does. -/
def Command.made : Command → Except GridError Reply → Memory → Option (String × Object)
  | .addNetwork view cidr, _, g =>
    (g.findNetwork? view cidr).map fun n => (n.reference, .network n)
  | .createDefinition d, .ok (.reference reference), _ =>
    some (reference, .definition { d with reference := some reference })
  | _, .ok (.fixed o), _ => some (o.reference, .fixed o)
  | _, .ok (.record r), _ => some (r.reference, .record r)
  | _, _, _ => none

/-! ## Allocations -/

/-- A grid has a network under a text in a view. -/
def Registered (g : Memory) (view cidr : String) : Prop :=
  ∃ n ∈ g.networks, n.view = view ∧ n.network = cidr

/-- A host address of the network of a text that no fixed address of a view has. -/
def Free (g : Memory) (view cidr : String) (a : Address) : Prop :=
  HostOf cidr (toString a) ∧
    ∀ key o, g.fixed.get? key = some o → ¬ (o.view = view ∧ o.address = toString a)

/-- The lowest of these. -/
def Lowest (g : Memory) (view cidr : String) (a : Address) : Prop :=
  g.Free view cidr a ∧ ∀ b, g.Free view cidr b → a ≤ b

section

variable {view cidr name : String} {n : Network} {a : Address} {o : FixedAddress}

lemma isSome_findNetwork?_iff :
    (g.findNetwork? view cidr).isSome = true ↔ g.Registered view cidr := by
  simp only [findNetwork?, Registered, List.find?_isSome, Bool.and_eq_true, decide_eq_true_eq]

lemma free_iff :
    g.Free view cidr a ↔ HostOf cidr (toString a) ∧ g.isTaken view (toString a) = false := by
  refine and_congr_right' ?_
  rw [Bool.eq_false_iff, ne_eq, isTaken_iff, not_exists]
  constructor
  · rintro hfree name ⟨key, o, ho, hview, haddress, -⟩
    exact hfree key o ho ⟨hview, haddress⟩
  · rintro hnone key o ho ⟨hview, haddress⟩
    exact hnone o.name ⟨key, o, ho, hview, haddress, rfl⟩

lemma hostOf_toString_iff (hn : hostNetwork? cidr = some n) :
    HostOf cidr (toString a) ↔ a ∈ n.hosts := by
  rw [← isHostText_iff, isHostText, hn, Address.toList_toString, Address.parseQuad?_quad,
    Network.mem_hosts_iff]

/-- The search finds the lowest free host. -/
lemma lowestFree?_eq_some_iff (hn : hostNetwork? cidr = some n) :
    g.lowestFree? view n = some a ↔ g.Lowest view cidr a := by
  have hfree : ∀ b, g.Free view cidr b ↔ b ∈ n.hosts ∧ g.isTaken view (toString b) = false :=
    fun b => free_iff.trans (and_congr_left' (hostOf_toString_iff hn))
  rw [lowestFree?_eq, List.find?_eq_some_iff_append, Lowest, hfree]
  constructor
  · rintro ⟨ha, before, after, hsplit, hbefore⟩
    have hpairwise := n.pairwise_hosts
    rw [hsplit, List.pairwise_append, List.pairwise_cons] at hpairwise
    refine ⟨⟨hsplit ▸ by simp, by simpa using ha⟩, fun b hb => ?_⟩
    obtain ⟨hmem, hb⟩ := (hfree b).1 hb
    rw [hsplit, List.mem_append, List.mem_cons] at hmem
    rcases hmem with hmem | rfl | hmem
    · have htaken := hbefore b hmem
      rw [hb] at htaken
      cases htaken
    · exact Nat.le_refl _
    · exact Nat.le_of_lt (hpairwise.2.1.1 b hmem)
  · rintro ⟨⟨hmem, ha⟩, hlowest⟩
    obtain ⟨before, after, hsplit⟩ := List.append_of_mem hmem
    have hpairwise := n.pairwise_hosts
    rw [hsplit, List.pairwise_append] at hpairwise
    refine ⟨by simpa using ha, before, after, hsplit, fun b hb => ?_⟩
    by_contra htaken
    have hlt := hpairwise.2.2 b hb a List.mem_cons_self
    have hle := hlowest b ((hfree b).2 ⟨hsplit ▸ List.mem_append_left _ hb, by simpa using htaken⟩)
    exact Nat.not_lt_of_le hle hlt

lemma lowestFree?_eq_none_iff (hn : hostNetwork? cidr = some n) :
    g.lowestFree? view n = none ↔ ∀ a, ¬ g.Free view cidr a := by
  rw [lowestFree?_eq, List.find?_eq_none]
  refine forall_congr' fun a => ?_
  rw [free_iff, hostOf_toString_iff hn, not_and]
  simp

/-- A host text is of a network that has room for hosts. -/
lemma HostOf.exists_hostNetwork {address : String} (h : HostOf cidr address) :
    ∃ n, hostNetwork? cidr = some n := by
  obtain ⟨n, a, hparsed, hlength, -⟩ := h
  exact ⟨n, hostNetwork?_eq_some_iff.2 ⟨hparsed, hlength⟩⟩

/-- **What is allocated is the lowest free host address of a registered network.** -/
theorem allocates_iff {answer : FixedAddress × Memory} :
    g.allocateNext view cidr name = .ok answer ↔ g.Registered view cidr ∧
      ∃ a, g.Lowest view cidr a ∧ g.insertFixed view a name = answer := by
  rw [allocateNext_eq_ok_iff, isSome_findNetwork?_iff]
  refine and_congr_right fun _ => ⟨?_, ?_⟩
  · rintro ⟨n, a, hn, ha, hanswer⟩
    exact ⟨a, (lowestFree?_eq_some_iff hn).1 ha, hanswer⟩
  · rintro ⟨a, ha, hanswer⟩
    obtain ⟨n, hn⟩ := ha.1.1.exists_hostNetwork
    exact ⟨n, a, hn, (lowestFree?_eq_some_iff hn).2 ha, hanswer⟩

/-- If any host address is free, one is the lowest. -/
lemma Free.exists_lowest (h : g.Free view cidr a) : ∃ b, g.Lowest view cidr b := by
  obtain ⟨n, hn⟩ := h.1.exists_hostNetwork
  cases hfound : g.lowestFree? view n with
  | none => exact absurd h ((lowestFree?_eq_none_iff hn).1 hfound a)
  | some b => exact ⟨b, (lowestFree?_eq_some_iff hn).1 hfound⟩

end

/-! ## One command -/

/-- A call answers and changes the grid, or fails and changes nothing. -/
lemma map_call_cases (wrap : α → Reply) (f : Memory → Except GridError (α × Memory)) (g : Memory) :
    (∃ value g', f g = .ok (value, g') ∧
      (wrap <$> call f : GridM Memory Reply) g = (.ok (wrap value), g')) ∨
    ∃ e, (g.failure = none → f g = .error e) ∧
      (wrap <$> call f : GridM Memory Reply) g = (.error e, g) := by
  rw [Call.map_apply, call]
  cases hfailure : g.failure with
  | some message => exact .inr ⟨_, by simp, rfl⟩
  | none =>
      cases hf : f g with
      | error e => exact .inr ⟨e, fun _ => rfl, rfl⟩
      | ok answer => exact .inl ⟨answer.1, answer.2, rfl, rfl⟩

lemma map_view_of_healthy (wrap : α → Reply) (f : Memory → α) (hg : g.failure = none) :
    (wrap <$> view f : GridM Memory Reply) g = (.ok (wrap (f g)), g) := by
  rcases map_call_cases wrap (fun g => .ok (f g, g)) g with ⟨value, g', hf, hrun⟩ | ⟨e, hf, -⟩
  · cases hf
    exact hrun
  · cases hf hg

section

variable {c : Command} {wrap : α → Reply} {f : Memory → Except GridError (α × Memory)}

lemma change_of_call (hrun : c.run url = wrap <$> call f)
    (hfails : ∀ e, c.made (.error e) g = none)
    (hsucceeds : ∀ value g', f g = .ok (value, g') →
      Change g g' (c.made (.ok (wrap value)) g')) :
    Change g (c.run url g).2 (c.made (c.run url g).1 (c.run url g).2) := by
  rw [hrun]
  rcases map_call_cases wrap f g with ⟨value, g', hf, hanswer⟩ | ⟨e, -, hanswer⟩
  · rw [hanswer]
    exact hsucceeds value g' hf
  · rw [hanswer, hfails]
    exact .same

lemma unchanged_of_view {f : Memory → α} (hrun : c.run url = wrap <$> view f) :
    (c.run url g).2 = g := by
  rw [hrun]
  rcases map_call_cases wrap (fun g => .ok (f g, g)) g with ⟨value, g', hf, hanswer⟩ | ⟨e, -, hanswer⟩
  · cases hf
    exact congrArg Prod.snd hanswer
  · exact congrArg Prod.snd hanswer

lemma change_of_view {f : Memory → α} (hrun : c.run url = wrap <$> view f)
    (hfails : ∀ e, c.made (.error e) g = none)
    (hsucceeds : ∀ value, c.made (.ok (wrap value)) g = none) :
    Change g (c.run url g).2 (c.made (c.run url g).1 (c.run url g).2) := by
  refine change_of_call (f := fun g => .ok (f g, g)) hrun hfails fun value g' h => ?_
  cases h
  rw [hsucceeds]
  exact .same

lemma unchanged_of_call {e : GridError} (hrun : c.run url = wrap <$> call f)
    (h : (c.run url g).1 = .error e) : (c.run url g).2 = g := by
  rw [hrun] at h ⊢
  rcases map_call_cases wrap f g with ⟨value, g', -, hanswer⟩ | ⟨e', -, hanswer⟩
  · rw [hanswer] at h
    cases h
  · rw [hanswer]

end

/-- The grid finds the network that was added last. -/
lemma findNetwork?_addNetwork (g : Memory) (view cidr : String) :
    (g.addNetwork view cidr).findNetwork? view cidr = some (g.newNetwork view cidr) := by
  have hothers : (g.networks.filter fun n => !(n.view = view && n.network = cidr)).find?
      (fun n => n.view = view && n.network = cidr) = none := by
    rw [List.find?_eq_none]
    intro n hn
    simpa [imp_iff_not_or] using (List.mem_filter.1 hn).2
  rw [findNetwork?, addNetwork, List.find?_append, hothers, Option.none_or, List.find?_singleton]
  simp [newNetwork]

lemma change_createFixed {view address name : String} {o : FixedAddress}
    (h : g.createFixed view address name = .ok (o, g')) :
    Change g g' (some (o.reference, .fixed o)) := by
  rw [createFixed] at h
  split at h
  · cases h
  · rename_i a hquad
    rw [parseQuad?_toList_eq_some_iff] at hquad
    subst hquad
    split_ifs at h with huncovered htaken
    cases h
    exact .fixed view a name (by simpa using huncovered) (Bool.eq_false_iff.2 htaken)

lemma change_delete {answer : Unit} (h : g.delete reference = .ok (answer, g')) :
    Change g g' none := by
  rw [delete] at h
  split_ifs at h
  · cases h
    exact .dropFixed reference
  · cases h
    exact .dropRecord reference

lemma change_allocateNext {view cidr name : String} {o : FixedAddress}
    (h : g.allocateNext view cidr name = .ok (o, g')) :
    Change g g' (some (o.reference, .fixed o)) := by
  obtain ⟨⟨n, hn, hview, hcidr⟩, a, ⟨hlowest, -⟩, hinsert⟩ := allocates_iff.1 h
  obtain ⟨hhost, hfree⟩ := free_iff.1 hlowest
  cases hinsert
  exact .fixed view a name (isCovered_iff.2 ⟨n, hn, hview, hcidr ▸ hhost⟩) hfree

/-- **Every command is a change of the grid, which makes what the answer tells.** -/
theorem Command.change (c : Command) (g : Memory) :
    Change g (c.run url g).2 (c.made (c.run url g).1 (c.run url g).2) := by
  cases c with
  | addView name => exact .view name
  | addNetwork view cidr =>
      have hmade : Command.made (.addNetwork view cidr) (.ok .done) (g.addNetwork view cidr)
          = some ((g.newNetwork view cidr).reference, .network (g.newNetwork view cidr)) := by
        rw [made, findNetwork?_addNetwork]
        rfl
      exact hmade ▸ .network view cidr
  | setFailure message => exact .failure message
  | createDefinition d =>
      refine change_of_call (f := fun g => .ok (g.insertAttribute d)) rfl (fun _ => rfl)
        fun value g' h => ?_
      cases h
      exact .definition d
  | createHostRecord name address =>
      refine change_of_call (f := fun g => .ok (g.insertRecord name address)) rfl (fun _ => rfl)
        fun value g' h => ?_
      cases h
      exact .record name address
  | allocateNext =>
      exact change_of_call rfl (fun _ => rfl) fun value g' h => change_allocateNext h
  | createFixed =>
      exact change_of_call rfl (fun _ => rfl) fun value g' h => change_createFixed h
  | delete => exact change_of_call rfl (fun _ => rfl) fun value g' h => change_delete h
  | networkView | network | definition | fixedAddresses | hostRecords =>
      exact change_of_view rfl (fun _ => rfl) fun _ => rfl

/-- **A command that fails changes nothing.** -/
theorem Command.unchanged {c : Command} {e : GridError} (h : (c.run url g).1 = .error e) :
    (c.run url g).2 = g := by
  cases c with
  | addView | addNetwork | setFailure => cases h
  | createDefinition d =>
      exact unchanged_of_call (f := fun g => .ok (g.insertAttribute d)) rfl h
  | createHostRecord name address =>
      exact unchanged_of_call (f := fun g => .ok (g.insertRecord name address)) rfl h
  | allocateNext | createFixed | delete => exact unchanged_of_call rfl h
  | networkView | network | definition | fixedAddresses | hostRecords =>
      exact unchanged_of_view rfl

/-! ## Queries -/

/-- What a query for fixed addresses asks for.  Other filters let everything pass. -/
structure FixedMatches (filters : List Filter) (o : FixedAddress) : Prop where
  name : ∀ value, ("name", value) ∈ filters → o.name = value
  address : ∀ value, ("ipv4addr", value) ∈ filters → o.address = value
  view : ∀ value, ("network_view", value) ∈ filters → o.view = value
  network : ∀ value, ("network", value) ∈ filters → HostOf value o.address

/-- What a query for host records asks for. -/
structure RecordMatches (filters : List Filter) (r : HostRecord) : Prop where
  name : ∀ value, ("name", value) ∈ filters → r.name = value
  address : ∀ value, ("ipv4addr", value) ∈ filters → r.address = value

lemma passesFixed_iff {f : Filter} {o : FixedAddress} : passesFixed f o = true ↔
    (f.1 = "name" → o.name = f.2) ∧ (f.1 = "ipv4addr" → o.address = f.2) ∧
      (f.1 = "network_view" → o.view = f.2) ∧ (f.1 = "network" → HostOf f.2 o.address) := by
  rw [passesFixed]
  split <;> simp_all [isHostText_iff]

lemma passesRecord_iff {f : Filter} {r : HostRecord} : passesRecord f r = true ↔
    (f.1 = "name" → r.name = f.2) ∧ (f.1 = "ipv4addr" → r.address = f.2) := by
  rw [passesRecord]
  split <;> simp_all

lemma fixedMatches_iff {filters : List Filter} {o : FixedAddress} :
    (∀ f ∈ filters, passesFixed f o = true) ↔ FixedMatches filters o := by
  simp only [passesFixed_iff]
  constructor
  · intro h
    exact ⟨fun value hf => (h _ hf).1 rfl, fun value hf => (h _ hf).2.1 rfl,
      fun value hf => (h _ hf).2.2.1 rfl, fun value hf => (h _ hf).2.2.2 rfl⟩
  · rintro ⟨hname, haddress, hview, hnetwork⟩ ⟨key, value⟩ hf
    refine ⟨?_, ?_, ?_, ?_⟩ <;> rintro rfl
    · exact hname value hf
    · exact haddress value hf
    · exact hview value hf
    · exact hnetwork value hf

lemma recordMatches_iff {filters : List Filter} {r : HostRecord} :
    (∀ f ∈ filters, passesRecord f r = true) ↔ RecordMatches filters r := by
  simp only [passesRecord_iff]
  constructor
  · intro h
    exact ⟨fun value hf => (h _ hf).1 rfl, fun value hf => (h _ hf).2 rfl⟩
  · rintro ⟨hname, haddress⟩ ⟨key, value⟩ hf
    refine ⟨?_, ?_⟩ <;> rintro rfl
    · exact hname value hf
    · exact haddress value hf

/-! ## Many commands -/

/-- The grid after some commands. -/
def after (url : String) (commands : List Command) (g : Memory) : Memory :=
  commands.foldl (fun g c => (c.run url g).2) g

/-- All that some commands make, with its references, oldest first. -/
def log (url : String) : List Command → Memory → List (String × Object)
  | [], _ => []
  | c :: rest, g =>
    (c.made (c.run url g).1 (c.run url g).2).toList ++ log url rest (c.run url g).2

variable {made : List (String × Object)}

/-- Commands keep what holds of a grid. -/
lemma Settled.after (hg : Settled g made) (commands : List Command) :
    Settled (after url commands g) (made ++ log url commands g) := by
  induction commands generalizing g made with
  | nil =>
      rw [log, List.append_nil]
      exact hg
  | cons c rest ih =>
      rw [log, ← List.append_assoc]
      exact ih (hg.change (c.change g))

/-- A reference that was given out denotes later at most what it denotes now. -/
lemma Settled.denotes_of_after (hg : Settled g made) (hreference : reference ∈ made.map Prod.fst)
    (later : List Command) (hx : (Memory.after url later g).Denotes reference x) :
    g.Denotes reference x := by
  induction later generalizing g made with
  | nil => exact hx
  | cons c rest ih =>
      have hchange : Change g (c.run url g).2 (c.made (c.run url g).1 (c.run url g).2) := c.change g
      have hmem : reference ∈
          (made ++ (c.made (c.run url g).1 (c.run url g).2).toList).map Prod.fst := by
        rw [List.map_append]
        exact List.mem_append_left _ hreference
      rcases hchange.denotes (ih (hg.change hchange) hmem hx) with hbefore | hmade
      · exact hbefore
      · rw [hmade] at hchange
        exact absurd hreference (hg.kept.made_notMem hchange)

/-- What an allocation from a network of a view answers: the lowest free host address, or an error
if there is none. -/
inductive Allocates (g : Memory) (view cidr name : String) : Except GridError Reply → Prop
  | lowest {a : Address} {o : FixedAddress} (h : g.Lowest view cidr a)
      (haddress : o.address = toString a) (hview : o.view = view) (hname : o.name = name) :
      Allocates g view cidr name (.ok (.fixed o))
  | none {e : GridError} (h : ∀ a, ¬ g.Free view cidr a) : Allocates g view cidr name (.error e)

/-- What holds of a grid, with `made` all that was ever made in it, oldest first. -/
structure Sound (url : String) (g : Memory) (made : List (String × Object)) : Prop where
  /-- No two fixed addresses of a view have one address. -/
  exclusive : ∀ key key' o o', g.fixed.get? key = some o → g.fixed.get? key' = some o' →
    o.view = o'.view → o.address = o'.address → key = key'
  /-- Every fixed address is a host address of a network of its view. -/
  covered : ∀ key o, g.fixed.get? key = some o →
    ∃ n ∈ g.networks, n.view = o.view ∧ HostOf n.network o.address
  /-- The references of all that was made carry the numbers from one on, and they are distinct. -/
  numbered : ∀ i reference x, made[i]? = some (reference, x) →
    ∃ rest, reference = referenceOf x.kind (i + 1) rest
  distinct : (made.map Prod.fst).Nodup
  counted : g.nextNumber = made.length + 1
  /-- What a command makes is there afterwards. -/
  present : ∀ (c : Command) entry, c.made (c.run url g).1 (c.run url g).2 = some entry →
    (c.run url g).2.Denotes entry.1 entry.2
  /-- The grid has nothing else, under the references that it was made with. -/
  logged : ∀ reference x, g.Denotes reference x → (reference, x) ∈ made
  /-- What a reference denotes after more commands it denotes already, if it was given out. -/
  stale : ∀ later reference x, reference ∈ made.map Prod.fst →
    (after url later g).Denotes reference x → g.Denotes reference x
  /-- The lowest free host address is allocated, if there is one. -/
  allocates : g.failure = none → ∀ view cidr name attributes, g.Registered view cidr →
    Allocates g view cidr name ((Command.allocateNext view cidr name attributes).run url g).1
  /-- A query answers what it asks for, each once. -/
  fixedAddresses : g.failure = none → ∀ filters, ∃ os,
    ((Command.fixedAddresses filters).run url g).1 = .ok (.fixedAddresses os) ∧ os.Nodup ∧
      ∀ o, o ∈ os ↔ (∃ reference, g.Denotes reference (.fixed o)) ∧ FixedMatches filters o
  hostRecords : g.failure = none → ∀ filters, ∃ rs,
    ((Command.hostRecords filters).run url g).1 = .ok (.hostRecords rs) ∧ rs.Nodup ∧
      ∀ r, r ∈ rs ↔ (∃ reference, g.Denotes reference (.record r)) ∧ RecordMatches filters r
  /-- A command that fails changes nothing. -/
  unchanged : ∀ c e, (Command.run url c g).1 = .error e → (Command.run url c g).2 = g

lemma allocates_run (hg : g.failure = none) {view cidr : String} (name : String)
    (attributes : Attributes) (hregistered : g.Registered view cidr) :
    Allocates g view cidr name ((Command.allocateNext view cidr name attributes).run url g).1 := by
  rcases map_call_cases .fixed (fun g => g.allocateNext view cidr name) g with
    ⟨o, g', hanswer, hrun⟩ | ⟨e, hfails, hrun⟩
  · obtain ⟨-, a, hlowest, hinsert⟩ := allocates_iff.1 hanswer
    have hreply := congrArg Prod.fst hrun
    cases hinsert
    exact hreply ▸ .lowest hlowest rfl rfl rfl
  · have hreply := congrArg Prod.fst hrun
    refine hreply ▸ .none fun a hfree => ?_
    obtain ⟨b, hlowest⟩ := hfree.exists_lowest
    have hanswer : g.allocateNext view cidr name = .ok (g.insertFixed view b name) :=
      allocates_iff.2 ⟨hregistered, b, hlowest, rfl⟩
    rw [hfails hg] at hanswer
    cases hanswer

lemma Settled.sound (hg : Settled g made) : Sound url g made where
  exclusive := hg.exclusive
  covered := hg.covered
  numbered i reference x := hg.kept.numbered i (reference, x)
  distinct := hg.kept.nodup
  counted := hg.kept.next
  present c entry hentry := by
    have hchange : Change g (c.run url g).2 (c.made (c.run url g).1 (c.run url g).2) := c.change g
    rw [hentry] at hchange
    exact hchange.made_denotes
  logged := hg.kept.logged
  stale later reference x hreference := hg.denotes_of_after hreference later
  allocates hhealthy view cidr name attributes := allocates_run hhealthy name attributes
  fixedAddresses hhealthy filters := by
    refine ⟨g.selectFixed filters, congrArg Prod.fst (map_view_of_healthy _ _ hhealthy), ?_,
      fun o => mem_selectFixed_iff.trans (and_congr_right' fixedMatches_iff)⟩
    have hnamed : ∀ key o, g.fixed.get? key = some o → o.reference = key :=
      fun key o ho => Option.some.inj (hg.kept.reference?_eq (x := .fixed o) ho)
    exact (Table.nodup_references hnamed _).of_map
  hostRecords hhealthy filters := by
    refine ⟨g.selectRecords filters, congrArg Prod.fst (map_view_of_healthy _ _ hhealthy), ?_,
      fun r => mem_selectRecords_iff.trans (and_congr_right' recordMatches_iff)⟩
    have hnamed : ∀ key r, g.records.get? key = some r → r.reference = key :=
      fun key r hr => Option.some.inj (hg.kept.reference?_eq (x := .record r) hr)
    exact (Table.nodup_references hnamed _).of_map
  unchanged _ _ := Command.unchanged

/-- **After any commands, a grid that was new is sound.** -/
theorem commands_sound (url : String) (commands : List Command) :
    Sound url (after url commands {}) (log url commands {}) :=
  (settled_new.after commands).sound

end Ipam.Grid.Memory
