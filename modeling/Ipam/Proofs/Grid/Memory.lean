import Ipam.Grid.Memory
import Ipam.Proofs.Net.Hosts
import Ipam.Proofs.Table

/-!
# What a grid in memory keeps

A grid is seen through two questions: for which names an address of a view is reserved, and under
which host names an address is published.

* `Memory.Reserved`, `Memory.Published` — the two questions.
* `Memory.Tidy` — every object is kept under its own reference, which carries a number that was
  given out, so that the next number makes a new reference.
* `Memory.Becomes` — what a change of the grid leaves; `Memory.Tidy.insertFixed`,
  `Memory.Tidy.insertRecord`, `Memory.Tidy.dropFixed` and `Memory.Tidy.dropRecords` are the changes.
* **`Memory.lowestFree?_eq`** — the search among the first few hosts of a network finds the lowest
  free one of all.
-/

namespace Ipam.Grid.Memory

open Text (digits)

/-- Some fixed address reserves an address of a view for a name. -/
def Reserved (g : Memory) (view : String) (a : Address) (name : String) : Prop :=
  ∃ key o, g.fixed.get? key = some o ∧ o.view = view ∧ o.address = toString a ∧ o.name = name

/-- Some host record publishes an address under a host name. -/
def Published (g : Memory) (host : String) (a : Address) : Prop :=
  ∃ key o, g.records.get? key = some o ∧ o.name = host ∧ o.address = toString a

/-! ## References -/

/-- The reference of an object of a kind. -/
def referenceOf (kind : String) (number : Nat) (rest : String) : String :=
  s!"{kind}/{number}:{rest}"

/-- A reference of a kind whose number is below the next one. -/
def Numbered (kind : String) (next : Nat) (key : String) : Prop :=
  ∃ number < next, ∃ rest, key = referenceOf kind number rest

lemma toList_referenceOf (kind : String) (number : Nat) (rest : String) :
    (referenceOf kind number rest).toList
      = kind.toList ++ '/' :: (digits number ++ ':' :: rest.toList) := by
  have hslash : "/".toList = ['/'] := rfl
  have hcolon : ":".toList = [':'] := rfl
  change (kind ++ "/" ++ toString number ++ ":" ++ rest).toList = _
  simp [digits, hslash, hcolon]

/-- A reference as it is written down, the kind together with its slash. -/
lemma referenceOf_eq {lead kind : String} (h : lead = kind ++ "/") (number : Nat) (rest : String) :
    referenceOf kind number rest = lead ++ (toString number ++ (":" ++ rest)) := by
  subst h
  change kind ++ "/" ++ toString number ++ ":" ++ rest = _
  simp only [String.append_assoc]

/-- References of a kind with different numbers are different. -/
lemma number_eq_of_referenceOf {kind : String} {i j : Nat} {rest rest' : String}
    (h : referenceOf kind i rest = referenceOf kind j rest') : i = j := by
  have hcolon : ∀ n, ':' ∉ digits n := fun n => Text.not_mem_digits n (by decide)
  have hlists := congrArg String.toList h
  rw [toList_referenceOf, toList_referenceOf, List.append_cancel_left_eq] at hlists
  have hpieces := congrArg (Text.splitOnce ':') (List.cons.inj hlists).2
  rw [Text.splitOnce_append (hcolon i), Text.splitOnce_append (hcolon j)] at hpieces
  exact Text.digits_injective (congrArg Prod.fst (Option.some.inj hpieces))

lemma Numbered.mono {kind key : String} {next next' : Nat} (h : Numbered kind next key)
    (hle : next ≤ next') : Numbered kind next' key := by
  obtain ⟨number, hlt, rest, rfl⟩ := h
  exact ⟨number, hlt.trans_le hle, rest, rfl⟩

/-- The next number makes a new reference. -/
lemma Numbered.ne_next {kind key : String} {next : Nat} (h : Numbered kind next key)
    (rest : String) : key ≠ referenceOf kind next rest := by
  obtain ⟨number, hlt, rest', rfl⟩ := h
  intro heq
  have hnumber := number_eq_of_referenceOf heq
  omega

/-- No reference is both that of a fixed address and that of a host record. -/
lemma Numbered.kinds_ne {key : String} {next next' : Nat} (h : Numbered "fixedaddress" next key)
    (h' : Numbered "record:a" next' key) : False := by
  obtain ⟨number, -, rest, rfl⟩ := h
  obtain ⟨number', -, rest', heq⟩ := h'
  have hlists := congrArg String.toList heq
  rw [toList_referenceOf, toList_referenceOf] at hlists
  have hhead := congrArg List.head? hlists
  simp at hhead

/-! ## Tidy grids -/

/-- Every object is kept under its own numbered reference, and is about an address. -/
structure Tidy (g : Memory) : Prop where
  fixed : ∀ key o, g.fixed.get? key = some o →
    o.reference = key ∧ Numbered "fixedaddress" g.nextNumber key ∧
      ∃ a : Address, o.address = toString a
  records : ∀ key o, g.records.get? key = some o →
    o.reference = key ∧ Numbered "record:a" g.nextNumber key ∧ ∃ a : Address, o.address = toString a

/-- What a change of the grid leaves: the networks, and the given reservations and publications. -/
structure Becomes (g g' : Memory) (reserved : String → Address → String → Prop)
    (published : String → Address → Prop) : Prop where
  tidy : g'.Tidy
  networks : g'.networks = g.networks
  failure : g'.failure = g.failure
  reserved : ∀ view a name, g'.Reserved view a name ↔ reserved view a name
  published : ∀ host a, g'.Published host a ↔ published host a

variable {g : Memory}

lemma Tidy.refl (hg : g.Tidy) : Becomes g g g.Reserved g.Published :=
  ⟨hg, rfl, rfl, fun _ _ _ => Iff.rfl, fun _ _ => Iff.rfl⟩

/-- A change after a change. -/
lemma Becomes.trans {g' g'' : Memory} {reserved reserved' : String → Address → String → Prop}
    {published published' : String → Address → Prop} (h : Becomes g g' reserved published)
    (h' : Becomes g' g'' reserved' published') {reserved'' : String → Address → String → Prop}
    {published'' : String → Address → Prop}
    (hreserved : ∀ view a name, reserved' view a name ↔ reserved'' view a name)
    (hpublished : ∀ host a, published' host a ↔ published'' host a) :
    Becomes g g'' reserved'' published'' where
  tidy := h'.tidy
  networks := h'.networks.trans h.networks
  failure := h'.failure.trans h.failure
  reserved view a name := (h'.reserved view a name).trans (hreserved view a name)
  published host a := (h'.published host a).trans (hpublished host a)

/-! ## New objects -/

lemma Tidy.fixed_new (hg : g.Tidy) (rest : String) :
    g.fixed.get? (referenceOf "fixedaddress" g.nextNumber rest) = none := by
  rw [Option.eq_none_iff_forall_ne_some]
  intro o ho
  exact (hg.fixed _ o ho).2.1.ne_next rest rfl

lemma Tidy.records_new (hg : g.Tidy) (rest : String) :
    g.records.get? (referenceOf "record:a" g.nextNumber rest) = none := by
  rw [Option.eq_none_iff_forall_ne_some]
  intro o ho
  exact (hg.records _ o ho).2.1.ne_next rest rfl

lemma insertFixed_reference (g : Memory) (view : String) (a : Address) :
    s!"fixedaddress/{g.nextNumber}:{a}/{view}"
      = referenceOf "fixedaddress" g.nextNumber s!"{a}/{view}" := by
  rw [referenceOf_eq (by decide : "fixedaddress/" = "fixedaddress" ++ "/")]
  simp only [String.append_assoc]
  rfl

lemma insertRecord_reference (g : Memory) (host : String) :
    s!"record:a/{g.nextNumber}:{host}/default"
      = referenceOf "record:a" g.nextNumber s!"{host}/default" := by
  rw [referenceOf_eq (by decide : "record:a/" = "record:a" ++ "/")]
  simp only [String.append_assoc]
  rfl

/-- One more fixed address is one more reservation. -/
lemma Tidy.insertFixed (hg : g.Tidy) (view : String) (a : Address) (name : String) :
    Becomes g (g.insertFixed view a name).2
      (fun v b n => g.Reserved v b n ∨ (v = view ∧ b = a ∧ n = name)) g.Published := by
  unfold Memory.insertFixed
  rw [insertFixed_reference]
  set key := referenceOf "fixedaddress" g.nextNumber s!"{a}/{view}" with hkey
  have hnew : g.fixed.get? key = none := hg.fixed_new _
  refine ⟨⟨?_, ?_⟩, rfl, rfl, ?_, fun _ _ => Iff.rfl⟩
  · intro other o ho
    simp only [Table.get?_insert] at ho
    split_ifs at ho with heq
    · cases ho
      exact ⟨heq, ⟨g.nextNumber, Nat.lt_succ_self _, _, heq ▸ hkey⟩, a, rfl⟩
    · obtain ⟨hreference, hnumber, haddress⟩ := hg.fixed other o ho
      exact ⟨hreference, hnumber.mono (Nat.le_succ _), haddress⟩
  · intro other o ho
    obtain ⟨hreference, hnumber, haddress⟩ := hg.records other o ho
    exact ⟨hreference, hnumber.mono (Nat.le_succ _), haddress⟩
  · intro v b n
    refine (Table.exists_insert_iff hnew fun o =>
      o.view = v ∧ o.address = toString b ∧ o.name = n).trans (or_congr_right ?_)
    constructor
    · rintro ⟨rfl, haddress, rfl⟩
      exact ⟨rfl, (Address.toString_injective haddress).symm, rfl⟩
    · rintro ⟨rfl, rfl, rfl⟩
      exact ⟨rfl, rfl, rfl⟩

/-- One more host record is one more publication. -/
lemma Tidy.insertRecord (hg : g.Tidy) (host : String) (a : Address) :
    Becomes g (g.insertRecord host (toString a)).2 g.Reserved
      (fun h b => g.Published h b ∨ (h = host ∧ b = a)) := by
  unfold Memory.insertRecord
  rw [insertRecord_reference]
  set key := referenceOf "record:a" g.nextNumber s!"{host}/default" with hkey
  have hnew : g.records.get? key = none := hg.records_new _
  refine ⟨⟨?_, ?_⟩, rfl, rfl, fun _ _ _ => Iff.rfl, ?_⟩
  · intro other o ho
    obtain ⟨hreference, hnumber, haddress⟩ := hg.fixed other o ho
    exact ⟨hreference, hnumber.mono (Nat.le_succ _), haddress⟩
  · intro other o ho
    simp only [Table.get?_insert] at ho
    split_ifs at ho with heq
    · cases ho
      exact ⟨heq, ⟨g.nextNumber, Nat.lt_succ_self _, _, heq ▸ hkey⟩, a, rfl⟩
    · obtain ⟨hreference, hnumber, haddress⟩ := hg.records other o ho
      exact ⟨hreference, hnumber.mono (Nat.le_succ _), haddress⟩
  · intro h b
    refine (Table.exists_insert_iff hnew fun r =>
      r.name = h ∧ r.address = toString b).trans (or_congr_right ?_)
    constructor
    · rintro ⟨rfl, haddress⟩
      exact ⟨rfl, (Address.toString_injective haddress).symm⟩
    · rintro ⟨rfl, rfl⟩
      exact ⟨rfl, rfl⟩

/-! ## Deleted objects -/

/-- The grid without the objects with some references. -/
def without (g : Memory) (keys : List String) : Memory :=
  { g with
    fixed := g.fixed.filter fun key _ => key ∉ keys
    records := g.records.filter fun key _ => key ∉ keys }

lemma get?_fixed_without (g : Memory) (keys : List String) (key : String) :
    (g.without keys).fixed.get? key = if key ∈ keys then none else g.fixed.get? key :=
  g.fixed.get?_filter_notMem keys key

lemma get?_records_without (g : Memory) (keys : List String) (key : String) :
    (g.without keys).records.get? key = if key ∈ keys then none else g.records.get? key :=
  g.records.get?_filter_notMem keys key

lemma Tidy.without (hg : g.Tidy) (keys : List String) : (g.without keys).Tidy where
  fixed := by
    intro key o ho
    rw [get?_fixed_without] at ho
    split_ifs at ho
    exact hg.fixed key o ho
  records := by
    intro key o ho
    rw [get?_records_without] at ho
    split_ifs at ho
    exact hg.records key o ho

/-- Whether a reference is that of a fixed address or of a host record. -/
def Keeps (g : Memory) (key : String) : Prop :=
  g.fixed.contains key = true ∨ g.records.contains key = true

/-- An object that is kept is deleted, and nothing else is. -/
lemma Tidy.delete_eq (hg : g.Tidy) {key : String} (hkey : g.Keeps key) :
    g.delete key = .ok ((), g.without [key]) := by
  rw [delete, Memory.without, ← Table.erase_eq_filter, ← Table.erase_eq_filter]
  cases hfixed : g.fixed.get? key with
  | some o =>
      have hrecords : g.records.get? key = none := by
        rw [Option.eq_none_iff_forall_ne_some]
        intro r hr
        exact (hg.fixed key o hfixed).2.1.kinds_ne (hg.records key r hr).2.1
      rw [if_pos (Table.contains_iff.2 ⟨o, hfixed⟩), Table.erase_of_get?_eq_none hrecords]
  | none =>
      have hnot : ¬ g.fixed.contains key = true := by
        rw [Table.contains_iff]
        simp [hfixed]
      rw [if_neg hnot, if_pos (hkey.resolve_left hnot), Table.erase_of_get?_eq_none hfixed]

/-- Objects may be deleted one after the other. -/
lemma without_cons (g : Memory) (key : String) (keys : List String) :
    g.without (key :: keys) = (g.without [key]).without keys := by
  simp only [without, Table.filter_notMem_cons _ key keys]

lemma without_nil (g : Memory) : g.without [] = g := by
  simp only [without, Table.filter_notMem_nil]

/-- Objects that are deleted in two turns are deleted in one. -/
lemma without_without (g : Memory) (keys keys' : List String) :
    (g.without keys).without keys' = g.without (keys ++ keys') := by
  induction keys generalizing g with
  | nil => rw [without_nil, List.nil_append]
  | cons key keys ih => rw [without_cons, ih, List.cons_append, without_cons g key (keys ++ keys')]

lemma reserved_without {keys : List String} {view : String} {a : Address} {name : String} :
    (g.without keys).Reserved view a name ↔ ∃ key o, g.fixed.get? key = some o ∧ key ∉ keys ∧
      o.view = view ∧ o.address = toString a ∧ o.name = name :=
  Table.exists_filter_iff _

lemma published_without {keys : List String} {host : String} {a : Address} :
    (g.without keys).Published host a ↔ ∃ key r, g.records.get? key = some r ∧ key ∉ keys ∧
      r.name = host ∧ r.address = toString a :=
  Table.exists_filter_iff _

/-- Without some fixed addresses, all that is published stays. -/
lemma Tidy.published_without_fixed (hg : g.Tidy) {keys : List String}
    (hkeys : ∀ key ∈ keys, ∃ o, g.fixed.get? key = some o) (host : String) (a : Address) :
    (g.without keys).Published host a ↔ g.Published host a := by
  rw [published_without]
  constructor
  · rintro ⟨key, r, hr, -, hpublished⟩
    exact ⟨key, r, hr, hpublished⟩
  · rintro ⟨key, r, hr, hpublished⟩
    refine ⟨key, r, hr, ?_, hpublished⟩
    intro hmem
    obtain ⟨o, ho⟩ := hkeys key hmem
    exact (hg.fixed key o ho).2.1.kinds_ne (hg.records key r hr).2.1

/-- Without some host records, all that is reserved stays. -/
lemma Tidy.reserved_without_records (hg : g.Tidy) {keys : List String}
    (hkeys : ∀ key ∈ keys, ∃ r, g.records.get? key = some r) (view : String) (a : Address)
    (name : String) : (g.without keys).Reserved view a name ↔ g.Reserved view a name := by
  rw [reserved_without]
  constructor
  · rintro ⟨key, o, ho, -, hreserved⟩
    exact ⟨key, o, ho, hreserved⟩
  · rintro ⟨key, o, ho, hreserved⟩
    refine ⟨key, o, ho, ?_, hreserved⟩
    intro hmem
    obtain ⟨r, hr⟩ := hkeys key hmem
    exact (hg.fixed key o ho).2.1.kinds_ne (hg.records key r hr).2.1

/-- Without the fixed addresses of an address in a view, the address is reserved for nobody there.
-/
lemma Tidy.dropFixed (hg : g.Tidy) {view : String} {a : Address} {keys : List String}
    (hkeys : ∀ key, key ∈ keys ↔
      ∃ o, g.fixed.get? key = some o ∧ o.view = view ∧ o.address = toString a) :
    Becomes g (g.without keys) (fun v b n => g.Reserved v b n ∧ ¬ (v = view ∧ b = a))
      g.Published := by
  refine ⟨hg.without keys, rfl, rfl, ?_, hg.published_without_fixed fun key hkey => ?_⟩
  · intro v b n
    rw [reserved_without]
    constructor
    · rintro ⟨key, o, ho, hmem, rfl, haddress, rfl⟩
      refine ⟨⟨key, o, ho, rfl, haddress, rfl⟩, ?_⟩
      rintro ⟨rfl, rfl⟩
      exact hmem ((hkeys key).2 ⟨o, ho, rfl, haddress⟩)
    · rintro ⟨⟨key, o, ho, rfl, haddress, rfl⟩, hnot⟩
      refine ⟨key, o, ho, ?_, rfl, haddress, rfl⟩
      intro hmem
      obtain ⟨o', ho', hview, haddress'⟩ := (hkeys key).1 hmem
      cases ho.symm.trans ho'
      exact hnot ⟨hview, Address.toString_injective (haddress.symm.trans haddress')⟩
  · obtain ⟨o, ho, -⟩ := (hkeys key).1 hkey
    exact ⟨o, ho⟩

/-- Without the host records of a name and an address, the address is not published under it. -/
lemma Tidy.dropRecords (hg : g.Tidy) {host : String} {a : Address} {keys : List String}
    (hkeys : ∀ key, key ∈ keys ↔
      ∃ r, g.records.get? key = some r ∧ r.name = host ∧ r.address = toString a) :
    Becomes g (g.without keys) g.Reserved
      (fun h b => g.Published h b ∧ ¬ (h = host ∧ b = a)) := by
  refine ⟨hg.without keys, rfl, rfl, hg.reserved_without_records fun key hkey => ?_, ?_⟩
  · obtain ⟨r, hr, -⟩ := (hkeys key).1 hkey
    exact ⟨r, hr⟩
  · intro h b
    rw [published_without]
    constructor
    · rintro ⟨key, r, hr, hmem, rfl, haddress⟩
      refine ⟨⟨key, r, hr, rfl, haddress⟩, ?_⟩
      rintro ⟨rfl, rfl⟩
      exact hmem ((hkeys key).2 ⟨r, hr, rfl, haddress⟩)
    · rintro ⟨⟨key, r, hr, rfl, haddress⟩, hnot⟩
      refine ⟨key, r, hr, ?_, rfl, haddress⟩
      intro hmem
      obtain ⟨r', hr', hname, haddress'⟩ := (hkeys key).1 hmem
      cases hr.symm.trans hr'
      exact hnot ⟨hname, Address.toString_injective (haddress.symm.trans haddress')⟩

/-! ## Selections -/

lemma mem_selectFixed_iff {filters : List Filter} {o : FixedAddress} :
    o ∈ g.selectFixed filters ↔
      (∃ key, g.fixed.get? key = some o) ∧ ∀ f ∈ filters, passesFixed f o = true := by
  simp only [selectFixed, List.mem_filter, List.mem_map, Prod.exists, exists_eq_right,
    Table.mem_entries_iff, List.all_eq_true]

lemma mem_selectRecords_iff {filters : List Filter} {r : HostRecord} :
    r ∈ g.selectRecords filters ↔
      (∃ key, g.records.get? key = some r) ∧ ∀ f ∈ filters, passesRecord f r = true := by
  simp only [selectRecords, List.mem_filter, List.mem_map, Prod.exists, exists_eq_right,
    Table.mem_entries_iff, List.all_eq_true]

/-- Objects that are selected have different references. -/
lemma Tidy.nodup_selectFixed (hg : g.Tidy) (filters : List Filter) :
    ((g.selectFixed filters).map (·.reference)).Nodup :=
  Table.nodup_references (fun key o ho => (hg.fixed key o ho).1) _

lemma Tidy.nodup_selectRecords (hg : g.Tidy) (filters : List Filter) :
    ((g.selectRecords filters).map (·.reference)).Nodup :=
  Table.nodup_references (fun key r hr => (hg.records key r hr).1) _

/-! ## Networks and free addresses -/

lemma isTaken_iff {view : String} {a : Address} :
    g.isTaken view (toString a) = true ↔ ∃ name, g.Reserved view a name := by
  simp only [isTaken, List.any_eq_true, Bool.and_eq_true, decide_eq_true_eq]
  constructor
  · rintro ⟨⟨key, o⟩, hentry, hview, haddress⟩
    exact ⟨o.name, key, o, Table.mem_entries_iff.1 hentry, hview, haddress, rfl⟩
  · rintro ⟨name, key, o, ho, hview, haddress, -⟩
    exact ⟨(key, o), Table.mem_entries_iff.2 ho, hview, haddress⟩

lemma hostNetwork?_toString {n : Network} (hn : n.Canonical) (hlength : n.length.val ≤ 30) :
    hostNetwork? (toString n) = some n := by
  rw [hostNetwork?, Network.parseExact?_toString hn]
  simp [Option.filter, hlength]

lemma isHostText_toString {n : Network} (hn : n.Canonical) (hlength : n.length.val ≤ 30)
    (a : Address) : isHostText (toString n) (toString a) = n.isHost a := by
  rw [isHostText, hostNetwork?_toString hn hlength, Address.toList_toString,
    Address.parseQuad?_quad]

/-- Among one more host than there are fixed addresses, one is not taken. -/
lemma exists_not_taken (g : Memory) (view : String) {n : Network}
    (hlt : g.fixed.entries.length < n.hostCount) :
    ∃ a ∈ (List.range (g.fixed.entries.length + 1)).map n.host,
      g.isTaken view (toString a) = false := by
  by_contra hnone
  push Not at hnone
  set hosts := (List.range (g.fixed.entries.length + 1)).map n.host with hhosts
  have hdistinct : (hosts.map (toString : Address → String)).Nodup := by
    refine (List.nodup_range.map_on ?_).map Address.toString_injective
    intro i hi j hj heq
    rw [List.mem_range] at hi hj
    exact Network.host_injOn (by omega) (by omega) heq
  have hsub : hosts.map (toString : Address → String)
      ⊆ g.fixed.entries.map fun entry => entry.2.address := by
    intro text htext
    obtain ⟨a, ha, rfl⟩ := List.mem_map.1 htext
    have htaken : g.isTaken view (toString a) = true := by
      simpa using hnone a ha
    obtain ⟨name, key, o, ho, -, haddress, -⟩ := isTaken_iff.1 htaken
    exact List.mem_map.2 ⟨(key, o), Table.mem_entries_iff.2 ho, haddress⟩
  have hle := (List.subperm_of_subset hdistinct hsub).length_le
  simp only [hhosts, List.length_map, List.length_range] at hle
  omega

/-- **The grid hands out the lowest host of all that are not taken**, though it looks at a few only.
-/
theorem lowestFree?_eq (g : Memory) (view : String) (n : Network) :
    g.lowestFree? view n = n.hosts.find? fun a => !g.isTaken view (toString a) := by
  rw [lowestFree?, Network.hosts]
  rcases Nat.lt_or_ge g.fixed.entries.length n.hostCount with hlt | hge
  · obtain ⟨a, ha, hfree⟩ := exists_not_taken g view hlt
    obtain ⟨rest, hrest⟩ := Nat.exists_eq_add_of_le hlt
    rw [Nat.min_eq_right hlt]
    set few := g.fixed.entries.length + 1 with hfew
    have hfound : (((List.range few).map n.host).find? fun a =>
        !g.isTaken view (toString a)).isSome = true := by
      rw [List.find?_isSome]
      exact ⟨a, ha, by simp [hfree]⟩
    rw [hrest, List.range_add, List.map_append, List.find?_append,
      Option.or_of_isSome hfound]
  · rw [Nat.min_eq_left (by omega)]

/-! ## Calls that succeed -/

variable {g' : Memory} {view cidr name : String} {a : Address} {o : FixedAddress}

lemma allocateNext_eq_ok_iff {answer : FixedAddress × Memory} :
    g.allocateNext view cidr name = .ok answer ↔
      (g.findNetwork? view cidr).isSome = true ∧ ∃ n a, hostNetwork? cidr = some n ∧
        g.lowestFree? view n = some a ∧ g.insertFixed view a name = answer := by
  rw [allocateNext]
  cases g.findNetwork? view cidr with
  | none => simp
  | some found =>
      cases hostNetwork? cidr with
      | none => simp
      | some n => cases hlowest : g.lowestFree? view n <;> simp [hlowest]

/-- The grid hands out hosts that are not taken. -/
lemma allocateNext_eq_ok (h : g.allocateNext view cidr name = .ok (o, g')) :
    ∃ a, isHostText cidr (toString a) = true ∧ g.isTaken view (toString a) = false ∧
      o.address = toString a ∧ g' = (g.insertFixed view a name).2 := by
  obtain ⟨-, n, a, hnetwork, hlowest, hanswer⟩ := allocateNext_eq_ok_iff.1 h
  rw [lowestFree?_eq] at hlowest
  have hfree : g.isTaken view (toString a) = false := by
    simpa using List.find?_some hlowest
  have hhost := Network.mem_hosts_iff.1 (List.mem_of_find?_eq_some hlowest)
  refine ⟨a, ?_, hfree, congrArg (·.1.address) hanswer.symm, congrArg Prod.snd hanswer.symm⟩
  rw [isHostText, hnetwork, Address.toList_toString, Address.parseQuad?_quad]
  exact hhost

lemma createFixed_eq_ok (h : g.createFixed view (toString a) name = .ok (o, g')) :
    g.isTaken view (toString a) = false ∧ g' = (g.insertFixed view a name).2 := by
  rw [createFixed, Address.toList_toString, Address.parseQuad?_quad] at h
  simp only at h
  split_ifs at h with hcovered htaken
  exact ⟨Bool.eq_false_iff.2 htaken, (congrArg Prod.snd (Except.ok.inj h)).symm⟩

/-- Only objects that are kept can be deleted. -/
lemma keeps_of_delete {key : String} (h : g.delete key = .ok ((), g')) : g.Keeps key := by
  rw [delete] at h
  split_ifs at h with hfixed hrecords
  · exact .inl hfixed
  · exact .inr hrecords

end Ipam.Grid.Memory
