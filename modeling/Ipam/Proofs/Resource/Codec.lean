import Ipam.Proofs.Json
import Ipam.Proofs.Timestamp
import Ipam.Proofs.Traversal
import Ipam.Resource.Codec

/-!
# Reading back bindings and statuses

A writer lists the members of a record in the order of their declaration and leaves out those that
have no value; a reader looks each of them up by name.

* `Json.asRecord?_obj` — members in the order of their declaration are the members of a record.
* `Json.Members.optional?_of_get?` — an optional member is read back, whether it has a value or not.
* **`Record.ofJson?_toJson`** — a record is read back from its value.
* **`Status.parse?_render`** — a status is read back from its text, when its time is one that a
  clock can show.
-/

namespace Ipam

namespace Json

/-! ## Members -/

lemma asMembers?_obj (members : List (String × Json)) :
    (obj members).asMembers? = some members :=
  Traversal.mapM_eq_some fun _ _ => rfl

/-- Members that were written in the order of their declaration are the members of a record. -/
lemma asRecord?_obj {known : List String} (hknown : known.Nodup) {members : List (String × Json)}
    (h : (members.map Prod.fst).Sublist known) (least : Nat) :
    (obj members).asRecord? known least = some ⟨members⟩ := by
  have hkept : members.filter (fun member => known.contains member.1) = members :=
    List.filter_eq_self.2 fun member hmember => by
      rw [List.contains_iff_mem]
      exact h.subset (List.mem_map_of_mem hmember)
  have hread := asMembers?_obj members
  rw [obj] at hread ⊢
  simp only [asRecord?, membersOfObject?, hread, Option.bind_eq_bind, Option.bind_some, hkept,
    if_pos (h.nodup hknown)]

lemma sublist_member? (name : String) (value : Option Json) :
    ((member? name value).map Prod.fst).Sublist [name] := by
  cases value <;> simp [member?]

/-- The value of a member for a text is plain. -/
lemma plain_of_mem_member? {α : Type} {name : String} {value : Option α} {text : α → String}
    {member : String × Json} (h : member ∈ member? name (value.map fun v => str (text v))) :
    member.2.Plain := by
  cases value with
  | none => cases h
  | some v =>
      rw [List.mem_singleton.1 h]
      exact .str (text v)

lemma lookup_member? (name other : String) (value : Option Json) :
    (member? name value).lookup other = if other = name then value else none := by
  cases value with
  | none => simp [member?]
  | some v =>
      by_cases h : other = name
      · simp [member?, h]
      · have hne : (other == name) = false := by simp [h]
        simp [member?, List.lookup_cons, h, hne]

/-- An optional member that was written, or left out for want of a value, is read back. -/
lemma Members.optional?_of_get? {α : Type} {ms : Members} {name : String} {read : Json → Option α}
    {write : α → Json} {value : Option α} (hget : ms.get? name = value.map write)
    (hread : ∀ v ∈ value, read (write v) = some v) (hnull : ∀ v, write v ≠ .null) :
    ms.optional? name read = some value := by
  rw [optional?, hget]
  cases value with
  | none => rfl
  | some v =>
      rw [Option.map_some]
      split
      case h_1 heq => cases heq
      case h_2 heq => exact absurd (Option.some.inj heq) (hnull v)
      case h_3 heq =>
        cases heq
        rw [hread v rfl, Option.map_some]

/-- A text that was written, or left out, is read back. -/
lemma Members.optional?_text {ms : Members} {name : String} {text : Option String}
    (hget : ms.get? name = text.map str) : ms.optional? name asString? = some text :=
  optional?_of_get? hget (fun _ _ => rfl) (by simp [str])

end Json

/-! ## Bindings -/

lemma Request.sublist_members (r : Request) :
    (r.members.map Prod.fst).Sublist ["host", "key", "cidr", "ipamLabel"] := by
  simp only [Request.members, List.map_append]
  exact (((Json.sublist_member? ..).append (Json.sublist_member? ..)).append
    (Json.sublist_member? ..)).append (Json.sublist_member? ..)

lemma Request.plain_of_mem {r : Request} {member : String × Json} (h : member ∈ r.members) :
    member.2.Plain := by
  simp only [Request.members, List.mem_append] at h
  rcases h with ((h | h) | h) | h <;> exact Json.plain_of_mem_member? h

/-- The members of a binding are read back, whatever other members come after them. -/
lemma Request.ofMembers?_members (r : Request) {others : List (String × Json)}
    (h : ∀ name ∈ ["host", "key", "cidr", "ipamLabel"], others.lookup name = none) :
    Request.ofMembers? ⟨r.members ++ others⟩ = some r := by
  have hhost : Json.Members.get? ⟨r.members ++ others⟩ "host" = r.host.map Json.str := by
    simp [Json.Members.get?, members, List.lookup_append, Json.lookup_member?, h "host"]
  have hkey : Json.Members.get? ⟨r.members ++ others⟩ "key" = r.key.map Json.str := by
    simp [Json.Members.get?, members, List.lookup_append, Json.lookup_member?, h "key"]
  have hcidr : Json.Members.get? ⟨r.members ++ others⟩ "cidr" = r.cidr.map Json.str := by
    simp [Json.Members.get?, members, List.lookup_append, Json.lookup_member?, h "cidr"]
  have hlabel : Json.Members.get? ⟨r.members ++ others⟩ "ipamLabel" = r.label.map Json.str := by
    simp [Json.Members.get?, members, List.lookup_append, Json.lookup_member?, h "ipamLabel"]
  rw [ofMembers?, Json.Members.optional?_text hhost, Json.Members.optional?_text hkey,
    Json.Members.optional?_text hcidr, Json.Members.optional?_text hlabel]
  rfl

/-- **A record is read back from the value that is written for it.** -/
theorem Record.ofJson?_toJson (r : Record) : Record.ofJson? r.toJson = some r := by
  have hnames : ((r.members ++ [("ip", Json.str r.ip)]).map Prod.fst).Sublist
      ["host", "key", "cidr", "ipamLabel", "ip"] := by
    rw [List.map_append]
    exact r.sublist_members.append (.refl _)
  have hip : Json.Members.orElse? ⟨r.members ++ [("ip", Json.str r.ip)]⟩ "ip" "" Json.asString?
      = some r.ip := by
    simp [Json.Members.orElse?, Json.Members.get?, Request.members, List.lookup_append,
      Json.lookup_member?, Json.str, Json.asString?]
  rw [ofJson?, toJson, Json.asRecord?_obj (by decide) hnames, Option.bind_eq_bind, Option.bind_some,
    Request.ofMembers?_members _ (by simp [List.lookup_cons]), hip]
  rfl

lemma Record.plain_toJson (r : Record) : r.toJson.Plain := by
  refine .obj fun member hmember => ?_
  rcases List.mem_append.1 hmember with hmember | hmember
  · exact Request.plain_of_mem hmember
  · rw [List.mem_singleton.1 hmember]
    exact .str r.ip

/-! ## The status -/

lemma Timestamp.ofJson?_str (text : String) :
    Timestamp.ofJson? (.str text) = Timestamp.parse? text :=
  rfl

namespace Status

variable {s : Status}

lemma ofJson?_toJson (h : ∀ t ∈ s.lastUpdated, t.Valid) : Status.ofJson? s.toJson = some s := by
  obtain ⟨records, lastUpdated⟩ := s
  set writeTime : Timestamp → Json := fun t => .str t.render with hwriteTime
  set members : List (String × Json) := ("ipStatus", .array (records.map Record.toJson)) ::
    Json.member? "lastUpdated" (lastUpdated.map writeTime) with hmembers
  have hnames : (members.map Prod.fst).Sublist ["ipStatus", "lastUpdated"] :=
    (Json.sublist_member? ..).cons_cons _
  have hrecords : Json.Members.orElse? ⟨members⟩ "ipStatus" [] (Json.asList? Record.ofJson?)
      = some records := by
    have hread : (records.map Record.toJson).mapM Record.ofJson? = some records :=
      Traversal.mapM_eq_some fun r _ => r.ofJson?_toJson
    simp [Json.Members.orElse?, Json.Members.get?, hmembers, Json.asList?, Json.asArray?, hread]
  have htime : Json.Members.optional? ⟨members⟩ "lastUpdated" Timestamp.ofJson?
      = some lastUpdated := by
    have hget : Json.Members.get? ⟨members⟩ "lastUpdated" = lastUpdated.map writeTime := by
      simp [Json.Members.get?, hmembers, List.lookup_cons, Json.lookup_member?]
    refine Json.Members.optional?_of_get? hget (fun t ht => ?_) (by simp [hwriteTime, Json.str])
    rw [hwriteTime, Timestamp.ofJson?_str, Timestamp.parse?_render (h t ht)]
  have hobj : toJson ⟨records, lastUpdated⟩ = .obj members := rfl
  rw [hobj, ofJson?, Json.asRecord?_obj (by decide) hnames, Option.bind_eq_bind, Option.bind_some,
    hrecords, htime]
  rfl

lemma plain_toJson (s : Status) : s.toJson.Plain := by
  refine .obj fun member hmember => ?_
  rcases List.mem_cons.1 hmember with rfl | hmember
  · refine .array fun item hitem => ?_
    obtain ⟨r, -, rfl⟩ := List.mem_map.1 hitem
    exact r.plain_toJson
  · exact Json.plain_of_mem_member? hmember

/-- **A status is read back from its text.** -/
theorem parse?_render (h : ∀ t ∈ s.lastUpdated, t.Valid) :
    Json.parse? s.toJson.render >>= Status.ofJson? = some s := by
  rw [s.plain_toJson.parse?_render, Option.bind_eq_bind, Option.bind_some, ofJson?_toJson h]

end Status

end Ipam
