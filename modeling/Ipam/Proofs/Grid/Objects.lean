import Ipam.Proofs.Grid.Orderly
import Ipam.Proofs.Net.Spelling

/-!
# The objects of a grid

Networks, attribute definitions, fixed addresses and host records share one row of numbers, and each
is denoted by a reference with its number.

* `Memory.Object`, `Memory.Denotes` — an object, and that a reference denotes it in a grid.
* `Memory.HostOf`, `Memory.Covered` — host addresses of the network of a text; grids in which every
  fixed address is one.
* `Memory.Change` — what one call may do to a grid, with the object that it makes.
* `Memory.Kept` — a grid has only objects of a log of what was made, and their references carry the
  numbers of their places in the log.
* **`Memory.Kept.change`**, **`Memory.Exclusive.change`**, **`Memory.Covered.change`** — every change
  keeps all this.

Nothing is assumed about texts.  The address of a host record may be any text here, so the grids of
this file need not be tidy.
-/

namespace Ipam.Grid.Memory

/-! ## References -/

/-- An object with a number. -/
inductive Object where
  | network (n : NetworkObject)
  | definition (d : AttributeDefinition)
  | fixed (o : FixedAddress)
  | record (r : HostRecord)

/-- The kind of an object, as it stands in its reference. -/
def Object.kind : Object → String
  | .network _ => "network"
  | .definition _ => "extensibleattributedef"
  | .fixed _ => "fixedaddress"
  | .record _ => "record:a"

/-- The reference that an object carries. -/
def Object.reference? : Object → Option String
  | .network n => some n.reference
  | .definition d => d.reference
  | .fixed o => some o.reference
  | .record r => some r.reference

/-- A reference denotes an object of a grid. -/
def Denotes (g : Memory) (reference : String) : Object → Prop
  | .network n => n ∈ g.networks ∧ n.reference = reference
  | .definition d => (∃ name, g.attributes.get? name = some d) ∧ d.reference = some reference
  | .fixed o => g.fixed.get? reference = some o
  | .record r => g.records.get? reference = some r

variable {g g' : Memory} {reference : String} {x : Object} {made : Option (String × Object)}
  {log : List (String × Object)} {entry : String × Object}

lemma slash_notMem_kind (x : Object) : '/' ∉ x.kind.toList := by
  have hkinds : ∀ kind ∈ ["network", "extensibleattributedef", "fixedaddress", "record:a"],
      '/' ∉ kind.toList := by
    decide
  exact hkinds _ (by cases x <;> simp [Object.kind])

/-- References with different numbers are different, be they of one kind or of two. -/
lemma number_eq_of_kinds {x y : Object} {i j : Nat} {rest rest' : String}
    (h : referenceOf x.kind i rest = referenceOf y.kind j rest') : i = j := by
  have hlists := congrArg String.toList h
  rw [toList_referenceOf, toList_referenceOf] at hlists
  have hpieces := congrArg (Text.splitOnce '/') hlists
  rw [Text.splitOnce_append (slash_notMem_kind x), Text.splitOnce_append (slash_notMem_kind y)]
    at hpieces
  have hkind : x.kind = y.kind :=
    String.toList_inj.1 (congrArg Prod.fst (Option.some.inj hpieces))
  rw [hkind] at h
  exact number_eq_of_referenceOf h

/-! ## Hosts -/

/-- An address text is a host address of the network of a text: the network has at most 30 leading
bits, and the address is in it and neither its first nor its last one. -/
def HostOf (cidr address : String) : Prop :=
  ∃ n a, Network.parseExact? cidr.toList = some n ∧ n.length.val ≤ 30 ∧ address = toString a ∧
    n.contains a = true ∧ a ≠ n.first ∧ a ≠ n.last

lemma hostNetwork?_eq_some_iff {cidr : String} {n : Network} :
    hostNetwork? cidr = some n ↔ Network.parseExact? cidr.toList = some n ∧ n.length.val ≤ 30 := by
  rw [hostNetwork?, Option.filter_eq_some_iff, decide_eq_true_eq]

lemma parseQuad?_toList_eq_some_iff {address : String} {a : Address} :
    Address.parseQuad? address.toList = some a ↔ address = toString a := by
  rw [Address.parseQuad?_eq_some_iff, ← Address.toList_toString, String.toList_inj]

lemma isHostText_iff {cidr address : String} :
    isHostText cidr address = true ↔ HostOf cidr address := by
  have hhost : ∀ n : Network, ∀ a, n.isHost a = true ↔
      n.contains a = true ∧ a ≠ n.first ∧ a ≠ n.last := by
    intro n a
    simp only [Network.isHost, Bool.and_eq_true, bne_iff_ne, and_assoc]
  simp only [HostOf, ← parseQuad?_toList_eq_some_iff, ← and_assoc, ← hostNetwork?_eq_some_iff]
  simp only [and_assoc, ← hhost]
  rw [isHostText]
  cases hostNetwork? cidr with
  | none => simp
  | some n => cases Address.parseQuad? address.toList <;> simp

lemma isCovered_iff {view address : String} : g.isCovered view address = true ↔
    ∃ n ∈ g.networks, n.view = view ∧ HostOf n.network address := by
  simp only [isCovered, List.any_eq_true, Bool.and_eq_true, decide_eq_true_eq, isHostText_iff]

/-- Every fixed address is a host address of a network of its view. -/
def Covered (g : Memory) : Prop :=
  ∀ key o, g.fixed.get? key = some o →
    ∃ n ∈ g.networks, n.view = o.view ∧ HostOf n.network o.address

/-! ## Changes -/

/-- The network that is added to a grid. -/
def newNetwork (g : Memory) (view cidr : String) : NetworkObject :=
  ⟨s!"network/{g.nextNumber}:{cidr}/{view}", cidr, view⟩

/-- The attribute definition that is added to a grid. -/
def newAttribute (g : Memory) (d : AttributeDefinition) : AttributeDefinition :=
  { d with reference := some (g.insertAttribute d).1 }

lemma newNetwork_reference (g : Memory) (view cidr : String) :
    s!"network/{g.nextNumber}:{cidr}/{view}"
      = referenceOf "network" g.nextNumber s!"{cidr}/{view}" := by
  rw [referenceOf_eq (by decide : "network/" = "network" ++ "/")]
  simp only [String.append_assoc]
  rfl

lemma insertAttribute_reference (g : Memory) (name : String) :
    s!"extensibleattributedef/{g.nextNumber}:{name}"
      = referenceOf "extensibleattributedef" g.nextNumber name := by
  rw [referenceOf_eq (by decide : "extensibleattributedef/" = "extensibleattributedef" ++ "/")]
  simp only [String.append_assoc]
  rfl

/-- What one call does to a grid, and what it makes. -/
inductive Change (g : Memory) : Memory → Option (String × Object) → Prop
  | same : Change g g none
  | view (name : String) : Change g (g.addView name) none
  | failure (message : Option String) : Change g { g with failure := message } none
  | network (view cidr : String) : Change g (g.addNetwork view cidr)
      (some ((g.newNetwork view cidr).reference, .network (g.newNetwork view cidr)))
  | definition (d : AttributeDefinition) : Change g (g.insertAttribute d).2
      (some ((g.insertAttribute d).1, .definition (g.newAttribute d)))
  | fixed (view : String) (a : Address) (name : String)
      (hcovered : g.isCovered view (toString a) = true)
      (hfree : g.isTaken view (toString a) = false) : Change g (g.insertFixed view a name).2
        (some ((g.insertFixed view a name).1.reference, .fixed (g.insertFixed view a name).1))
  | record (name address : String) : Change g (g.insertRecord name address).2
      (some ((g.insertRecord name address).1.reference, .record (g.insertRecord name address).1))
  | dropFixed (reference : String) : Change g { g with fixed := g.fixed.erase reference } none
  | dropRecord (reference : String) : Change g { g with records := g.records.erase reference } none

lemma addView_eq (g : Memory) (name : String) :
    ∃ views, g.addView name = { g with views := views } := by
  rw [addView]
  split_ifs
  · exact ⟨_, rfl⟩
  · exact ⟨_, rfl⟩

/-- The counter counts what is made. -/
lemma Change.next (h : Change g g' made) :
    g'.nextNumber = g.nextNumber + made.toList.length := by
  cases h with
  | view name =>
      obtain ⟨views, hviews⟩ := g.addView_eq name
      rw [hviews]
      rfl
  | same => rfl
  | failure => rfl
  | network => rfl
  | definition => rfl
  | fixed => rfl
  | record => rfl
  | dropFixed => rfl
  | dropRecord => rfl

/-- What is made gets the number of the counter. -/
lemma Change.numbered (h : Change g g' (some entry)) :
    ∃ rest, entry.1 = referenceOf entry.2.kind g.nextNumber rest := by
  cases h with
  | network view cidr => exact ⟨_, g.newNetwork_reference view cidr⟩
  | definition d => exact ⟨_, g.insertAttribute_reference d.name⟩
  | fixed view a name => exact ⟨_, g.insertFixed_reference view a⟩
  | record name => exact ⟨_, g.insertRecord_reference name⟩

/-- What is made carries its reference. -/
lemma Change.named (h : Change g g' (some entry)) : entry.2.reference? = some entry.1 := by
  cases h <;> rfl

/-- **A reference denotes what it did before a change, or what the change made.** -/
theorem Change.denotes (h : Change g g' made) (hx : g'.Denotes reference x) :
    g.Denotes reference x ∨ made = some (reference, x) := by
  cases h with
  | same => exact .inl hx
  | view name =>
      obtain ⟨views, hviews⟩ := g.addView_eq name
      rw [hviews] at hx
      cases x <;> exact .inl hx
  | failure => cases x <;> exact .inl hx
  | network view cidr =>
      cases x with
      | network n =>
          obtain ⟨hmem, rfl⟩ := hx
          rcases List.mem_append.1 hmem with hother | hnew
          · exact .inl ⟨(List.mem_filter.1 hother).1, rfl⟩
          · rw [List.mem_singleton.1 hnew]
            exact .inr rfl
      | definition | fixed | record => exact .inl hx
  | definition d =>
      cases x with
      | definition d' =>
          obtain ⟨⟨name, hd⟩, hreference⟩ := hx
          rcases Table.get?_insert_cases hd with hd | ⟨-, rfl⟩
          · exact .inl ⟨⟨name, hd⟩, hreference⟩
          · cases hreference
            exact .inr rfl
      | network | fixed | record => exact .inl hx
  | fixed view a name =>
      cases x with
      | fixed o =>
          rcases Table.get?_insert_cases hx with ho | ⟨rfl, rfl⟩
          · exact .inl ho
          · exact .inr rfl
      | network | definition | record => exact .inl hx
  | record name address =>
      cases x with
      | record r =>
          rcases Table.get?_insert_cases hx with hr | ⟨rfl, rfl⟩
          · exact .inl hr
          · exact .inr rfl
      | network | definition | fixed => exact .inl hx
  | dropFixed =>
      cases x with
      | fixed o => exact .inl (Table.get?_of_erase hx)
      | network | definition | record => exact .inl hx
  | dropRecord =>
      cases x with
      | record r => exact .inl (Table.get?_of_erase hx)
      | network | definition | fixed => exact .inl hx

/-- What a change made is there afterwards. -/
lemma Change.made_denotes (h : Change g g' (some entry)) : g'.Denotes entry.1 entry.2 := by
  cases h with
  | network view cidr => exact ⟨List.mem_append_right _ (List.mem_singleton.2 rfl), rfl⟩
  | definition d => exact ⟨⟨d.name, (Table.get?_insert ..).trans (if_pos rfl)⟩, rfl⟩
  | fixed view a name => exact (Table.get?_insert ..).trans (if_pos rfl)
  | record name address => exact (Table.get?_insert ..).trans (if_pos rfl)

/-! ## What changes keep -/

/-- **Changes reserve no address of a view twice.** -/
theorem Exclusive.change (hg : g.Exclusive) (h : Change g g' made) : g'.Exclusive := by
  cases h with
  | view name =>
      obtain ⟨views, hviews⟩ := g.addView_eq name
      rw [hviews]
      exact hg
  | fixed view a name hcovered hfree => exact hg.insertFixed hfree name
  | dropFixed => exact hg.of_subset fun key o ho => Table.get?_of_erase ho
  | same | failure | network | definition | record | dropRecord => exact hg

/-- A network that is added takes the place of an equal one only. -/
lemma exists_network_addNetwork {P : String → String → Prop} (view cidr : String)
    (h : ∃ n ∈ g.networks, P n.view n.network) :
    ∃ n ∈ (g.addNetwork view cidr).networks, P n.view n.network := by
  obtain ⟨n, hn, hP⟩ := h
  by_cases hsame : n.view = view ∧ n.network = cidr
  · refine ⟨g.newNetwork view cidr, List.mem_append_right _ (List.mem_singleton.2 rfl), ?_⟩
    obtain ⟨rfl, rfl⟩ := hsame
    exact hP
  · refine ⟨n, List.mem_append_left _ (List.mem_filter.2 ⟨hn, ?_⟩), hP⟩
    simpa [imp_iff_not_or] using hsame

/-- **Changes leave every fixed address a host of a network of its view.** -/
theorem Covered.change (hg : g.Covered) (h : Change g g' made) : g'.Covered := by
  cases h with
  | view name =>
      obtain ⟨views, hviews⟩ := g.addView_eq name
      rw [hviews]
      exact hg
  | network view cidr =>
      intro key o ho
      exact exists_network_addNetwork (P := fun v c => v = o.view ∧ HostOf c o.address) view cidr
        (hg key o ho)
  | fixed view a name hcovered hfree =>
      intro key o ho
      rcases Table.get?_insert_cases ho with ho | ⟨-, rfl⟩
      · exact hg key o ho
      · exact isCovered_iff.1 hcovered
  | dropFixed => exact fun key o ho => hg key o (Table.get?_of_erase ho)
  | same | failure | definition | record | dropRecord => exact hg

/-- A grid has only objects that are in a log of what was made, oldest first, and references carry
the places of their objects in the log. -/
structure Kept (g : Memory) (log : List (String × Object)) : Prop where
  next : g.nextNumber = log.length + 1
  numbered : ∀ i entry, log[i]? = some entry →
    ∃ rest, entry.1 = referenceOf entry.2.kind (i + 1) rest
  named : ∀ entry ∈ log, entry.2.reference? = some entry.1
  logged : ∀ reference x, g.Denotes reference x → (reference, x) ∈ log

lemma kept_new : Kept {} [] where
  next := rfl
  numbered i entry h := by cases h
  named entry h := by cases h
  logged reference x hx := by
    cases x with
    | network n => cases hx.1
    | definition d' =>
        obtain ⟨⟨name, hd⟩, -⟩ := hx
        cases hd
    | fixed o => cases hx
    | record r => cases hx

/-- **Changes make objects with new numbers only.** -/
theorem Kept.change (hg : Kept g log) (h : Change g g' made) : Kept g' (log ++ made.toList) where
  next := by
    rw [h.next, hg.next, List.length_append]
    omega
  numbered := by
    intro i entry hentry
    rw [List.getElem?_append] at hentry
    split_ifs at hentry with hi
    · exact hg.numbered i entry hentry
    · cases made with
      | none => cases hentry
      | some new =>
          have hlast : i - log.length = 0 := by
            have hlt := (List.getElem?_eq_some_iff.1 hentry).1
            rw [Option.toList_some, List.length_singleton] at hlt
            omega
          rw [hlast] at hentry
          cases hentry
          have hnumber : i + 1 = g.nextNumber := by
            rw [hg.next]
            omega
          exact hnumber ▸ h.numbered
  named := by
    intro entry hentry
    rcases List.mem_append.1 hentry with hold | hnew
    · exact hg.named entry hold
    · exact (Option.mem_toList.1 hnew ▸ h).named
  logged := by
    intro reference x hx
    rcases h.denotes hx with hold | rfl
    · exact List.mem_append_left _ (hg.logged reference x hold)
    · exact List.mem_append_right _ (List.mem_singleton.2 rfl)

/-- No two objects of the log have one reference. -/
lemma Kept.nodup (hg : Kept g log) : (log.map Prod.fst).Nodup := by
  rw [List.nodup_iff_getElem?_ne_getElem?]
  intro i j hij hj heq
  rw [List.length_map] at hj
  rw [List.getElem?_map, List.getElem?_map, List.getElem?_eq_getElem hj,
    List.getElem?_eq_getElem (hij.trans hj)] at heq
  obtain ⟨rest, hi⟩ := hg.numbered i _ (List.getElem?_eq_getElem (hij.trans hj))
  obtain ⟨rest', hj'⟩ := hg.numbered j _ (List.getElem?_eq_getElem hj)
  have hsame := Option.some.inj heq
  rw [hi, hj'] at hsame
  have hnumber := number_eq_of_kinds hsame
  omega

/-- What is made has a reference that nothing had before. -/
lemma Kept.made_notMem (hg : Kept g log) (h : Change g g' (some entry)) :
    entry.1 ∉ log.map Prod.fst := by
  have hnodup := (hg.change h).nodup
  rw [List.map_append, List.nodup_append] at hnodup
  intro hmem
  exact hnodup.2.2 _ hmem _ (List.mem_singleton.2 rfl) rfl

/-- What is kept under a reference carries it. -/
lemma Kept.reference?_eq (hg : Kept g log) (h : g.Denotes reference x) :
    x.reference? = some reference :=
  hg.named _ (hg.logged reference x h)

/-- What holds of a grid that only changes led to. -/
structure Settled (g : Memory) (log : List (String × Object)) : Prop where
  kept : g.Kept log
  exclusive : g.Exclusive
  covered : g.Covered

lemma settled_new : Settled {} [] where
  kept := kept_new
  exclusive _ _ _ _ ho := by cases ho
  covered _ _ ho := by cases ho

lemma Settled.change (hg : Settled g log) (h : Change g g' made) :
    Settled g' (log ++ made.toList) where
  kept := hg.kept.change h
  exclusive := hg.exclusive.change h
  covered := hg.covered.change h

end Ipam.Grid.Memory
