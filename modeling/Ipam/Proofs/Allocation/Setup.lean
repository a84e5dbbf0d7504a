import Ipam.Proofs.Allocation.Deployment
import Ipam.Proofs.Grid.Commands
import Ipam.Proofs.Traversal

/-!
# Starting over a grid

A controller that starts over a grid reads its label map, makes sure that the grid knows its
attribute, and looks for the network of every label.  The first fault ends the start.

* `Infoblox.First` — the first label of a label map with a property, in the order of the names.
* `Infoblox.TextFault`, `Infoblox.Reads` — what is wrong with a text, and what it says otherwise;
  **`Infoblox.start_of_textFault`** — a faulty text is an error before anything is asked.
* `Infoblox.Has`, `Infoblox.Lacks` — what the grid must have for a label, and what it may lack.
* `Infoblox.Starts` — the ways in which a start ends; **`Infoblox.start_eq_iff`**.
* `Infoblox.Event`, `Infoblox.madeByStarts` — starts among other commands, and the number of objects
  that they make; **`Infoblox.madeByStarts_le_one`**.
* **`Infoblox.start_exact`** — all of it.
-/

namespace Ipam.Infoblox

open Grid (Memory Client LabelConfig)

variable {σ : Type} {url labels defaultView : String} {g g' : Memory} {configs : Table LabelConfig}
  {label : String} {c : LabelConfig} {e : SetupError}

/-! ## First labels -/

/-- A label is the first one of a label map with a property. -/
def First (configs : Table LabelConfig) (P : LabelConfig → Prop) (label : String)
    (c : LabelConfig) : Prop :=
  configs.get? label = some c ∧ P c ∧
    ∀ other c', other < label → configs.get? other = some c' → ¬ P c'

/-- All labels of a label map have a property, or there is a first one that has not. -/
lemma forall_or_first (configs : Table LabelConfig) (P : LabelConfig → Prop) :
    (∀ label c, configs.get? label = some c → P c) ∨
      ∃ label c, First configs (fun c => ¬ P c) label c := by
  rcases Traversal.forall_or_split (fun entry => P entry.2) configs.entries with
    hall | ⟨before, ⟨label, c⟩, after, hsplit, hbefore, hP⟩
  · exact .inl fun label c hc => hall (label, c) (Table.mem_entries_iff.2 hc)
  · refine .inr ⟨label, c, Table.mem_entries_iff.1 (hsplit ▸ by simp), hP, ?_⟩
    intro other c' hlt hother
    have hascending := configs.ascending
    rw [← Table.mem_entries_iff, hsplit, List.mem_append, List.mem_cons] at hother
    rw [hsplit, List.pairwise_append, List.pairwise_cons] at hascending
    rcases hother with hother | hother | hother
    · exact not_not_intro (hbefore _ hother)
    · cases hother
      exact absurd hlt (String.lt_irrefl label)
    · exact absurd (String.lt_trans hlt (hascending.2.1.1 _ hother)) (String.lt_irrefl other)

/-- The labels before the first one come before it in the list of entries. -/
lemma First.split {P : LabelConfig → Prop} (h : First configs P label c) :
    ∃ before after, configs.entries = before ++ (label, c) :: after ∧
      ∀ entry ∈ before, configs.get? entry.1 = some entry.2 ∧ ¬ P entry.2 := by
  obtain ⟨hc, -, hfirst⟩ := h
  obtain ⟨before, after, hsplit⟩ := List.append_of_mem (Table.mem_entries_iff.2 hc)
  refine ⟨before, after, hsplit, fun entry hentry => ?_⟩
  have hascending := configs.ascending
  rw [hsplit, List.pairwise_append] at hascending
  have hlt : entry.1 < label := hascending.2.2 entry hentry _ List.mem_cons_self
  have hget : configs.get? entry.1 = some entry.2 :=
    Table.mem_entries_iff.1 (hsplit ▸ List.mem_append_left _ hentry)
  exact ⟨hget, hfirst entry.1 entry.2 hlt hget⟩

/-! ## Texts -/

/-- What is wrong with a text. -/
inductive TextFault (labels : String) : SetupError → Prop
  /-- It is not a label map, or one without labels. -/
  | labels {cause : Grid.LabelsError} (h : Grid.parseLabels labels = .error cause) :
      TextFault labels (.labels cause)
  /-- The text under a label is not a network; the first such label is reported. -/
  | network {configs : Table LabelConfig} {label : String} {c : LabelConfig}
      (h : Grid.parseLabels labels = .ok configs)
      (hfirst : First configs (fun c => Network.parse? c.cidr = none) label c) :
      TextFault labels (.labelNetwork label c.cidr)

/-- A text is a label map that is not empty, with a network under every label. -/
structure Reads (labels : String) (configs : Table LabelConfig) : Prop where
  parsed : Grid.parseLabels labels = .ok configs
  nonempty : configs.isEmpty = false
  networks : ∀ label c, configs.get? label = some c → ∃ n, Network.parse? c.cidr = some n

/-- A text is faulty or can be read. -/
lemma textFault_or_reads (labels : String) :
    (∃ e, TextFault labels e) ∨ ∃ configs, Reads labels configs := by
  cases hparsed : Grid.parseLabels labels with
  | error cause => exact .inl ⟨_, .labels hparsed⟩
  | ok configs =>
      rcases forall_or_first configs fun c => ∃ n, Network.parse? c.cidr = some n with
        hall | ⟨label, c, hc, hfault, hfirst⟩
      · exact .inr ⟨configs, hparsed, Grid.isEmpty_of_parseLabels hparsed, hall⟩
      · have hnone : ∀ {c : LabelConfig}, (¬ ∃ n, Network.parse? c.cidr = some n) →
            Network.parse? c.cidr = none :=
          fun h => Option.eq_none_iff_forall_ne_some.2 fun n hn => h ⟨n, hn⟩
        refine .inl ⟨_, .network hparsed ⟨hc, hnone hfault, fun other c' hlt hother hbad => ?_⟩⟩
        obtain ⟨n, hn⟩ := not_not.1 (hfirst other c' hlt hother)
        cases hn.symm.trans hbad

lemma resolve_of_textFault (defaultView : String) (h : TextFault labels e) :
    resolve labels defaultView = .error e := by
  unfold resolve
  cases h with
  | labels h => rw [h]
  | @network configs label c h hfirst =>
      rw [h]
      have herror : (configs.entries.mapM fun entry => do
          return (entry.1, ← resolveLabel defaultView entry.1 entry.2) :
            Except SetupError (List (String × LabelNetwork)))
          = .error (.labelNetwork label c.cidr) := by
        obtain ⟨before, after, hsplit, hbefore⟩ := hfirst.split
        refine Traversal.mapM_eq_error_iff.2 ⟨before, (label, c), after, hsplit, ?_, ?_⟩
        · intro entry hentry
          obtain ⟨n, hn⟩ := Option.ne_none_iff_exists'.1 (hbefore entry hentry).2
          exact ⟨_, by rw [resolveLabel, hn]; rfl⟩
        · rw [resolveLabel, hfirst.2.1]
          rfl
      change (configs.entries.mapM fun entry => do
          return (entry.1, ← resolveLabel defaultView entry.1 entry.2) :
            Except SetupError (List (String × LabelNetwork))) >>= _ = _
      rw [herror]
      rfl

/-- **A faulty text is an error before a grid is asked for anything.** -/
theorem start_of_textFault (h : TextFault labels e) (client : Client σ) (defaultView : String)
    (s : σ) : start client labels defaultView s = (.error e, s) := by
  rw [start, Call.bind_apply, resolve_of_textFault defaultView h]
  rfl

/-- The label networks of a text: what each label stands for, with the network that its text says. -/
def IsSites (defaultView : String) (configs : Table LabelConfig) (sites : Table LabelNetwork) :
    Prop :=
  ∀ label net, sites.get? label = some net ↔ ∃ c n, configs.get? label = some c ∧
    Network.parse? c.cidr = some n ∧ net = ⟨viewOf defaultView c, c.cidr, n⟩

/-- The network of every label. -/
lemma Reads.exists_network (h : Reads labels configs) : ∃ network : String → Network,
    ∀ label c, configs.get? label = some c → Network.parse? c.cidr = some (network label) := by
  refine ⟨fun label => ((configs.get? label).bind fun c => Network.parse? c.cidr).getD default, ?_⟩
  intro label c hc
  obtain ⟨n, hn⟩ := h.networks label c hc
  simp only [hc, Option.bind_some, hn, Option.getD_some]

lemma entries_sitesOf (network : String → Network) :
    (sitesOf defaultView configs network).entries = configs.entries.map
      fun entry => (entry.1, ⟨viewOf defaultView entry.2, entry.2.cidr, network entry.1⟩) := rfl

lemma isSites_sitesOf {network : String → Network} (hnetwork : ∀ label c,
    configs.get? label = some c → Network.parse? c.cidr = some (network label)) :
    IsSites defaultView configs (sitesOf defaultView configs network) := by
  intro label net
  rw [get?_sitesOf, Option.map_eq_some_iff]
  constructor
  · rintro ⟨c, hc, rfl⟩
    exact ⟨c, network label, hc, hnetwork label c hc, rfl⟩
  · rintro ⟨c, n, hc, hn, rfl⟩
    rw [hnetwork label c hc, Option.some_inj] at hn
    exact ⟨c, hc, by rw [hn]⟩

lemma IsSites.unique {sites sites' : Table LabelNetwork} (h : IsSites defaultView configs sites)
    (h' : IsSites defaultView configs sites') : sites = sites' := by
  refine Table.ext_get? fun label => Option.ext fun net => ?_
  exact (h label net).trans (h' label net).symm

/-! ## The networks of a grid -/

/-- A grid has what a label stands for: the view, and in it the network under the text that is
configured. -/
def Has (g : Memory) (defaultView : String) (c : LabelConfig) : Prop :=
  viewOf defaultView c ∈ g.views ∧ g.Registered (viewOf defaultView c) c.cidr

/-- What a grid lacks for a label. -/
inductive Lacks (g : Memory) (defaultView label : String) (c : LabelConfig) : SetupError → Prop
  | view (h : viewOf defaultView c ∉ g.views) :
      Lacks g defaultView label c (.missingView label (viewOf defaultView c))
  | network (hview : viewOf defaultView c ∈ g.views)
      (h : ¬ g.Registered (viewOf defaultView c) c.cidr) :
      Lacks g defaultView label c (.missingNetwork label c.cidr (viewOf defaultView c))

lemma exists_lacks (label : String) (h : ¬ Has g defaultView c) :
    ∃ e, Lacks g defaultView label c e := by
  by_cases hview : viewOf defaultView c ∈ g.views
  · exact ⟨_, .network hview fun hnetwork => h ⟨hview, hnetwork⟩⟩
  · exact ⟨_, .view hview⟩

lemma validateLabel_of_lacks (url : String) (network : Network) (hg : g.failure = none)
    (h : Lacks g defaultView label c e) : validateLabel (Memory.client url) label
      ⟨viewOf defaultView c, c.cidr, network⟩ g = (.error e, g) := by
  rw [validateLabel_eq url label _ hg]
  cases h with
  | view h => exact if_pos h
  | network hview h =>
      have hnone : (g.findNetwork? (viewOf defaultView c) c.cidr).isNone = true := by
        rw [← Memory.isSome_findNetwork?_iff] at h
        simpa using h
      rw [if_neg (not_not_intro hview), if_pos hnone]

/-! ## How a start ends -/

/-- All ways in which a start over a grid ends, with the grid that it leaves. -/
inductive Starts (labels defaultView : String) (g : Memory) :
    Except SetupError (Table LabelNetwork) → Memory → Prop
  /-- The text is faulty. -/
  | text {e : SetupError} (h : TextFault labels e) : Starts labels defaultView g (.error e) g
  /-- The grid is out of order. -/
  | outage {configs : Table LabelConfig} {message : String} (h : Reads labels configs)
      (hg : g.failure = some message) :
      Starts labels defaultView g (.error (.grid (.outage message))) g
  /-- The grid lacks what a label stands for; the first such label is reported. -/
  | missing {configs : Table LabelConfig} {label : String} {c : LabelConfig} {e : SetupError}
      (h : Reads labels configs) (hg : g.failure = none)
      (hfirst : First configs (fun c => ¬ Has g defaultView c) label c)
      (hlacks : Lacks g defaultView label c e) :
      Starts labels defaultView g (.error e) (marked g)
  /-- The grid has everything. -/
  | ready {configs : Table LabelConfig} {sites : Table LabelNetwork} (h : Reads labels configs)
      (hg : g.failure = none)
      (hhas : ∀ label c, configs.get? label = some c → Has g defaultView c)
      (hsites : IsSites defaultView configs sites) :
      Starts labels defaultView g (.ok sites) (marked g)

lemma start_of_outage {message : String} (url : String) (h : Reads labels configs)
    (hg : g.failure = some message) : start (Memory.client url) labels defaultView g
      = (.error (.grid (.outage message)), g) := by
  obtain ⟨network, hnetwork⟩ := h.exists_network
  rw [start_of_resolve_eq_ok _ (resolve_of_parse h.parsed hnetwork), Call.bind_apply,
    ensureAttribute_of_outage url hg]

/-- The labels before the first one whose network is missing pass, and this one does not. -/
lemma start_of_missing (url : String) (h : Reads labels configs) (hg : g.failure = none)
    (hfirst : First configs (fun c => ¬ Has g defaultView c) label c)
    (hlacks : Lacks g defaultView label c e) :
    start (Memory.client url) labels defaultView g = (.error e, marked g) := by
  obtain ⟨network, hnetwork⟩ := h.exists_network
  obtain ⟨attributes, nextNumber, hmarked⟩ := marked_eq g
  obtain ⟨before, after, hsplit, hbefore⟩ := hfirst.split
  have hvalidate : ((sitesOf defaultView configs network).entries.forM fun entry =>
      validateLabel (Memory.client url) entry.1 entry.2) (marked g) = (.error e, marked g) := by
    rw [entries_sitesOf, hsplit, List.map_append, List.map_cons, hmarked]
    refine Call.forM_of_error (fun site hsite => ?_) ?_
    · obtain ⟨entry, hentry, rfl⟩ := List.mem_map.1 hsite
      obtain ⟨hview, hnetwork⟩ := not_not.1 (hbefore entry hentry).2
      exact validateLabel_apply url entry.1 hg hview hnetwork
    · -- The grid with its attribute lacks what the grid lacks.
      have hlacks' : Lacks { g with attributes := attributes, nextNumber := nextNumber }
          defaultView label c e := by
        cases hlacks with
        | view h => exact .view h
        | network hview h => exact .network hview h
      exact validateLabel_of_lacks url (network label) hg hlacks'
  rw [start_apply url (resolve_of_parse h.parsed hnetwork) hg, Call.bind_apply, hvalidate]

lemma start_of_has (url : String) (h : Reads labels configs) (hg : g.failure = none)
    (hhas : ∀ label c, configs.get? label = some c → Has g defaultView c) :
    ∃ sites, IsSites defaultView configs sites ∧
      start (Memory.client url) labels defaultView g = (.ok sites, marked g) := by
  obtain ⟨network, hnetwork⟩ := h.exists_network
  refine ⟨_, isSites_sitesOf hnetwork,
    start_of_resolve url (resolve_of_parse h.parsed hnetwork) hg fun label net hsite => ?_⟩
  obtain ⟨c, hc, -, rfl⟩ := exists_config hsite
  exact hhas label c hc

lemma start_starts (url labels defaultView : String) (g : Memory) :
    Starts labels defaultView g (start (Memory.client url) labels defaultView g).1
      (start (Memory.client url) labels defaultView g).2 := by
  rcases textFault_or_reads labels with ⟨e, hfault⟩ | ⟨configs, hreads⟩
  · rw [start_of_textFault hfault]
    exact .text hfault
  · cases hg : g.failure with
    | some message =>
        rw [start_of_outage url hreads hg]
        exact .outage hreads hg
    | none =>
        rcases forall_or_first configs (Has g defaultView) with hhas | ⟨label, c, hfirst⟩
        · obtain ⟨sites, hsites, hstart⟩ := start_of_has url hreads hg hhas
          rw [hstart]
          exact .ready hreads hg hhas hsites
        · obtain ⟨e, hlacks⟩ := exists_lacks label hfirst.2.1
          rw [start_of_missing url hreads hg hfirst hlacks]
          exact .missing hreads hg hfirst hlacks

/-- **A start ends in these ways, and in the one that applies.** -/
theorem start_eq_iff {answer : Except SetupError (Table LabelNetwork)} :
    start (Memory.client url) labels defaultView g = (answer, g') ↔
      Starts labels defaultView g answer g' := by
  constructor
  · intro h
    have hstarts := start_starts url labels defaultView g
    rwa [h] at hstarts
  · intro h
    cases h with
    | text hfault => exact start_of_textFault hfault _ _ _
    | outage hreads hg => exact start_of_outage url hreads hg
    | missing hreads hg hfirst hlacks => exact start_of_missing url hreads hg hfirst hlacks
    | ready hreads hg hhas hsites =>
        obtain ⟨sites, hsites', hstart⟩ := start_of_has url hreads hg hhas
        rw [hstart, hsites'.unique hsites]

/-- A start leaves a grid as it is, or with its attribute. -/
lemma Starts.eq_or_eq_marked {answer : Except SetupError (Table LabelNetwork)}
    (h : Starts labels defaultView g answer g') : g' = g ∨ g' = marked g := by
  cases h with
  | text | outage => exact .inl rfl
  | missing | ready => exact .inr rfl

lemma Starts.of_ok {sites : Table LabelNetwork} (h : Starts labels defaultView g (.ok sites) g') :
    ∃ configs, Reads labels configs ∧ g.failure = none ∧
      ∀ label c, configs.get? label = some c → Has g defaultView c := by
  cases h with
  | ready hreads hg hhas _ => exact ⟨_, hreads, hg, hhas⟩

/-! ## Many starts -/

/-- What happens to a grid: a controller starts over it, or it gets another command. -/
inductive Event where
  | start (labels defaultView : String)
  | command (c : Memory.Command)

/-- The grid after an event. -/
def Event.run (url : String) : Event → Memory → Memory
  | .start labels defaultView, g => (Infoblox.start (Memory.client url) labels defaultView g).2
  | .command c, g => (c.run url g).2

/-- The number of objects that a start makes: each of them takes a number of the grid. -/
def Event.made (url : String) : Event → Memory → Nat
  | .start labels defaultView, g =>
    (Event.run url (.start labels defaultView) g).nextNumber - g.nextNumber
  | .command _, _ => 0

/-- The number of objects that the starts among some events make. -/
def madeByStarts (url : String) : List Event → Memory → Nat
  | [], _ => 0
  | event :: rest, g => event.made url g + madeByStarts url rest (event.run url g)

/-- A grid knows the attribute of the controller. -/
def Defined (g : Memory) : Prop :=
  ∃ d, g.attributes.get? attributeName = some d

lemma marked_of_defined (h : Defined g) : marked g = g := by
  obtain ⟨d, hd⟩ := h
  rw [marked, hd]
  rfl

lemma marked_of_not_defined (h : ¬ Defined g) : marked g = (g.insertAttribute
    ⟨none, attributeName, "STRING", some "Managed by the IPAM controller"⟩).2 := by
  have hnone : g.attributes.get? attributeName = none :=
    Option.eq_none_iff_forall_ne_some.2 fun d hd => h ⟨d, hd⟩
  rw [marked, hnone]
  rfl

lemma defined_marked (g : Memory) : Defined (marked g) := by
  by_cases h : Defined g
  · rwa [marked_of_defined h]
  · rw [marked_of_not_defined h]
    exact ⟨_, (Table.get?_insert ..).trans (if_pos rfl)⟩

/-- No change takes an attribute away. -/
lemma Defined.change {made : Option (String × Memory.Object)} (hg : Defined g)
    (h : Memory.Change g g' made) : Defined g' := by
  cases h with
  | view name =>
      obtain ⟨views, hviews⟩ := g.addView_eq name
      rw [hviews]
      exact hg
  | definition d =>
      obtain ⟨held, hheld⟩ := hg
      by_cases hname : d.name = attributeName
      · exact ⟨_, (Table.get?_insert ..).trans (if_pos hname)⟩
      · exact ⟨held, (Table.get?_insert ..).trans ((if_neg hname).trans hheld)⟩
  | same | failure | network | fixed | record | dropFixed | dropRecord => exact hg

lemma Event.run_start (url labels defaultView : String) (g : Memory) :
    Event.run url (.start labels defaultView) g = g ∨
      Event.run url (.start labels defaultView) g = marked g :=
  (start_starts url labels defaultView g).eq_or_eq_marked

lemma Defined.run (hg : Defined g) (url : String) (event : Event) : Defined (event.run url g) := by
  cases event with
  | start labels defaultView =>
      rcases Event.run_start url labels defaultView g with hsame | hmarked
      · rwa [hsame]
      · rw [hmarked]
        exact defined_marked g
  | command c => exact hg.change (c.change g)

/-- A start makes nothing, or it makes the definition of the attribute, which was not there. -/
lemma Event.made_cases (url : String) (event : Event) (g : Memory) :
    event.made url g = 0 ∨ event.made url g = 1 ∧ ¬ Defined g ∧ Defined (event.run url g) := by
  cases event with
  | command c => exact .inl rfl
  | start labels defaultView =>
      rw [Event.made]
      rcases Event.run_start url labels defaultView g with hsame | hmarked
      · rw [hsame]
        exact .inl (Nat.sub_self _)
      · rw [hmarked]
        by_cases hg : Defined g
        · rw [marked_of_defined hg]
          exact .inl (Nat.sub_self _)
        · refine .inr ⟨?_, hg, defined_marked g⟩
          rw [marked_of_not_defined hg]
          exact Nat.add_sub_cancel_left ..

/-- Where the attribute is defined, starts make nothing. -/
lemma madeByStarts_of_defined (url : String) (events : List Event) (hg : Defined g) :
    madeByStarts url events g = 0 := by
  induction events generalizing g with
  | nil => rfl
  | cons event rest ih =>
      rcases event.made_cases url g with hnone | ⟨-, hnew, -⟩
      · rw [madeByStarts, hnone, ih (hg.run url event)]
      · exact absurd hg hnew

/-- **The definition of the attribute is made at most once.** -/
theorem madeByStarts_le_one (url : String) (events : List Event) (g : Memory) :
    madeByStarts url events g ≤ 1 := by
  induction events generalizing g with
  | nil => exact Nat.zero_le 1
  | cons event rest ih =>
      rcases event.made_cases url g with hnone | ⟨hone, -, hdefined⟩
      · rw [madeByStarts, hnone, Nat.zero_add]
        exact ih _
      · rw [madeByStarts, hone, madeByStarts_of_defined url rest hdefined]

/-! ## Exact starts -/

/-- The text of an error says that the configuration is at fault. -/
def IsConfiguration (e : SetupError) : Prop :=
  ∃ detail, e.message? = some ("Invalid configuration: " ++ detail)

lemma isConfiguration_of_label {rest : String}
    (h : e.message? = some ("Invalid configuration: label " ++ rest)) : IsConfiguration e := by
  refine ⟨"label " ++ rest, ?_⟩
  rw [h, ← String.append_assoc]
  rfl

lemma TextFault.isConfiguration (h : TextFault labels e) : IsConfiguration e := by
  cases h with
  | @labels cause _ => exact ⟨cause.message, rfl⟩
  | network =>
      apply isConfiguration_of_label
      simp only [SetupError.message?, String.append_assoc]
      rfl

lemma Lacks.isConfiguration (h : Lacks g defaultView label c e) : IsConfiguration e := by
  cases h with
  | view | network =>
      apply isConfiguration_of_label
      simp only [SetupError.message?, String.append_assoc]
      rfl

/-- How a controller starts over a grid. -/
structure StartsExactly (url labels defaultView : String) (g : Memory) : Prop where
  /-- A start ends as the text and the grid determine. -/
  ends : ∀ answer g', start (Memory.client url) labels defaultView g = (answer, g') ↔
    Starts labels defaultView g answer g'
  /-- It succeeds if the text is a label map, the grid works, and the grid has the view and the
  network of every label. -/
  succeeds : (∃ sites, (start (Memory.client url) labels defaultView g).1 = .ok sites) ↔
    ∃ configs, Reads labels configs ∧ g.failure = none ∧
      ∀ label c, configs.get? label = some c → Has g defaultView c
  /-- A faulty text is reported before any client asks anything. -/
  early : ∀ e, TextFault labels e → ∀ (σ : Type) (client : Client σ) (s : σ),
    start client labels defaultView s = (.error e, s)
  /-- Faulty texts and missing networks are faults of the configuration. -/
  configuration : ∀ e, (TextFault labels e ∨ ∃ label c, Lacks g defaultView label c e) →
    IsConfiguration e
  /-- Fixed addresses and host records stay as they are. -/
  fixed : (start (Memory.client url) labels defaultView g).2.fixed = g.fixed
  records : (start (Memory.client url) labels defaultView g).2.records = g.records
  /-- However often controllers start over the grid, and whatever happens to it between, they make
  one object at most: the definition of the attribute. -/
  once : ∀ events, madeByStarts url events g ≤ 1

/-- A start changes the attributes of a grid only. -/
lemma snd_start_eq (url labels defaultView : String) (g : Memory) : ∃ attributes nextNumber,
    (start (Memory.client url) labels defaultView g).2
      = { g with attributes := attributes, nextNumber := nextNumber } := by
  rcases (start_starts url labels defaultView g).eq_or_eq_marked with hsame | hmarked
  · exact ⟨_, _, hsame⟩
  · rw [hmarked]
    exact marked_eq g

/-- **Every start over every grid is exact.** -/
theorem start_exact (url labels defaultView : String) (g : Memory) :
    StartsExactly url labels defaultView g where
  ends _ _ := start_eq_iff
  succeeds := by
    constructor
    · rintro ⟨sites, hok⟩
      have hstarts := start_starts url labels defaultView g
      rw [hok] at hstarts
      exact hstarts.of_ok
    · rintro ⟨configs, hreads, hg, hhas⟩
      obtain ⟨sites, -, hstart⟩ := start_of_has url hreads hg hhas
      exact ⟨sites, congrArg Prod.fst hstart⟩
  early _ hfault _ client s := start_of_textFault hfault client defaultView s
  configuration := by
    rintro e (hfault | ⟨label, c, hlacks⟩)
    · exact hfault.isConfiguration
    · exact hlacks.isConfiguration
  fixed := by
    obtain ⟨attributes, nextNumber, hsnd⟩ := snd_start_eq url labels defaultView g
    rw [hsnd]
  records := by
    obtain ⟨attributes, nextNumber, hsnd⟩ := snd_start_eq url labels defaultView g
    rw [hsnd]
  once events := madeByStarts_le_one url events g

end Ipam.Infoblox
