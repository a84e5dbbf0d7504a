import Ipam.Proofs.Allocation.Tokens

/-!
# Who owns an address

A store lives through operations, and through controllers that start over it with configurations of
their own.  The bindings of the store are a function of what has happened, and this file says which.

* `Event`, `storeAfter`, `history` — what happens to a store, and what every event has met.
* `Step.Grants`, `Step.Ends` — a create that was answered with an address; a delete or a start that
  takes the binding away.
* `Exclusive` — an address has at most one owner, an owner has one address, and both stay together
  whatever is asked for.
* **`ownership_of_history`** — a reference owns an address exactly if it was granted the address and
  nothing has ended this since; at every moment ownership is exclusive.

A single event is understood in `Step.lookup_iff`; the rest is an induction over the events.
-/

namespace Ipam.Local

open Coordinator (process)
open Pool (TokenSource)

/-! ## What happens to a store -/

/-- Something that happens to a store. -/
inductive Event where
  /-- The coordinator carries out an operation. -/
  | operation (op : Operation)
  /-- A controller starts over the store, with a configuration text. -/
  | restart (config : String)

/-- The store after an event.  A controller that cannot start leaves the store as it is. -/
def Event.apply (tokens : TokenSource) (s : Store) : Event → Store
  | .operation op => (process (backend tokens) op s).2
  | .restart config =>
    match start tokens config s with
    | .ok (_, s) => s
    | .error _ => s

/-- The store after some events, in order. -/
def storeAfter (tokens : TokenSource) (s : Store) (events : List Event) : Store :=
  events.foldl (Event.apply tokens) s

/-- An event with the store that it met. -/
structure Step where
  before : Store
  event : Event

/-- Every event with the store that it met, oldest first. -/
def history (tokens : TokenSource) : Store → List Event → List Step
  | _, [] => []
  | s, event :: events => ⟨s, event⟩ :: history tokens (event.apply tokens s) events

/-- A create for the reference was answered with the address. -/
def Step.Grants (tokens : TokenSource) (label reference : String) (a : Address) (step : Step) :
    Prop :=
  ∃ op, step.event = .operation op ∧ op.kind = .create ∧ op.Concerns label reference ∧
    (process (backend tokens) op step.before).1.verdict = .succeeded (some a)

/-- The reference was deleted, or a controller has started without the pool or with another range
text for it. -/
def Step.Ends (tokens : TokenSource) (label reference : String) (step : Step) : Prop :=
  match step.event with
  | .operation op => op.kind = .delete ∧ op.Concerns label reference
  | .restart config => ∃ range desired report s,
      start tokens config step.before = .ok (report, s) ∧
      Pool.parseConfig config = .ok desired ∧
      step.before.ranges.get? label = some range ∧ desired.get? label ≠ some range

/-- If the event draws a token to free an address, no row of the pool carries it yet. -/
def Step.DrawsNew (tokens : TokenSource) (step : Step) : Prop :=
  match step.event with
  | .operation op => Local.DrawsNew tokens step.before op
  | .restart _ => True

/-! ## One event -/

variable {tokens : TokenSource} {s : Store}

lemma Event.apply_of_start {config : String} {report : SyncReport} {s' : Store}
    (h : start tokens config s = .ok (report, s')) :
    Event.apply tokens s (.restart config) = s' := by
  unfold Event.apply
  simp only [h]

lemma Event.apply_of_error {config : String} {cause : SetupError}
    (h : start tokens config s = .error cause) : Event.apply tokens s (.restart config) = s := by
  unfold Event.apply
  simp only [h]

lemma Event.apply_valid (tokens : TokenSource) (event : Event) (hs : s.Valid) :
    (event.apply tokens s).Valid := by
  cases event with
  | operation op => exact (process_effect tokens hs op).valid hs
  | restart config =>
      cases hstart : start tokens config s with
      | error cause => exact (Event.apply_of_error hstart).symm ▸ hs
      | ok result => exact (Event.apply_of_start hstart).symm ▸ valid_of_start hstart hs

lemma Event.apply_labelled (tokens : TokenSource) (event : Event) (hs : s.Valid) (hl : s.Labelled) :
    (event.apply tokens s).Labelled := by
  cases event with
  | operation op => exact (process_effect tokens hs op).labelled hl
  | restart config =>
      cases hstart : start tokens config s with
      | error cause => exact (Event.apply_of_error hstart).symm ▸ hl
      | ok result => exact (Event.apply_of_start hstart).symm ▸ labelled_of_start hstart

/-- A start keeps the bindings that it does not end. -/
lemma lookup_restart_iff (config label reference : String) (a : Address) :
    (Event.apply tokens s (.restart config)).lookup label reference = some a ↔
      s.lookup label reference = some a ∧
        ¬ Step.Ends tokens label reference ⟨s, .restart config⟩ := by
  cases hstart : start tokens config s with
  | error cause =>
      rw [Event.apply_of_error hstart]
      simp [Step.Ends, hstart]
  | ok result =>
      obtain ⟨report, s'⟩ := result
      obtain ⟨desired, hconfig, hsync⟩ := start_eq_ok hstart
      rw [Event.apply_of_start hstart, (Store.synced_of_sync hsync).lookup_eq_some_iff]
      refine and_congr_right fun hold => ?_
      have hrange : ∃ range, s.ranges.get? label = some range := by
        cases hp : s.pools.get? label with
        | none =>
            rw [Store.lookup_of_no_pool hp] at hold
            cases hold
        | some p => exact ⟨p.range, by rw [Store.get?_ranges, hp]; rfl⟩
      obtain ⟨range, hrange⟩ := hrange
      simp [Step.Ends, hstart, hconfig, hrange]

/-- **The bindings after an event** are the one that it grants and those that it does not end. -/
theorem Step.lookup_iff (event : Event) (hs : s.Valid) (hl : s.Labelled)
    (hnew : Step.DrawsNew tokens ⟨s, event⟩) (label reference : String) (a : Address) :
    (event.apply tokens s).lookup label reference = some a ↔
      Step.Grants tokens label reference a ⟨s, event⟩ ∨
      (s.lookup label reference = some a ∧ ¬ Step.Ends tokens label reference ⟨s, event⟩) := by
  cases event with
  | operation op =>
      have heffect := process_effect tokens hs op
      refine (heffect.lookup_eq_some_iff hs hl hnew).trans ?_
      simp [Step.Grants, Step.Ends]
  | restart config =>
      rw [lookup_restart_iff]
      simp [Step.Grants]

/-! ## Any number of events -/

lemma storeAfter_valid (tokens : TokenSource) (events : List Event) (hs : s.Valid)
    (hl : s.Labelled) :
    (storeAfter tokens s events).Valid ∧ (storeAfter tokens s events).Labelled := by
  induction events generalizing s with
  | nil => exact ⟨hs, hl⟩
  | cons event events ih =>
      exact ih (event.apply_valid tokens hs) (event.apply_labelled tokens hs hl)

lemma mem_history_intact {events : List Event} {step : Step} (hs : s.Valid) (hl : s.Labelled)
    (h : step ∈ history tokens s events) : step.before.Valid ∧ step.before.Labelled := by
  induction events generalizing s with
  | nil => cases h
  | cons event events ih =>
      rcases List.mem_cons.1 h with rfl | hmem
      · exact ⟨hs, hl⟩
      · exact ih (event.apply_valid tokens hs) (event.apply_labelled tokens hs hl) hmem

/-- What some steps bring about and others end holds after a run if it held before and was never
ended, or was brought about on the way and not ended since. -/
lemma holds_storeAfter_iff (holds : Store → Prop) {brings ends : Step → Prop} (events : List Event)
    (hstep : ∀ step ∈ history tokens s events, (holds (step.event.apply tokens step.before) ↔
      brings step ∨ (holds step.before ∧ ¬ ends step))) :
    holds (storeAfter tokens s events) ↔
      (holds s ∧ ∀ step ∈ history tokens s events, ¬ ends step) ∨
      ∃ earlier made later, history tokens s events = earlier ++ made :: later ∧
        brings made ∧ ∀ step ∈ later, ¬ ends step := by
  induction events generalizing s with
  | nil => simp [storeAfter, history]
  | cons event events ih =>
      rw [history] at hstep ⊢
      obtain ⟨hfirst, hrest⟩ := List.forall_mem_cons.1 hstep
      rw [storeAfter, List.foldl_cons, ← storeAfter, ih hrest, hfirst]
      constructor
      · rintro (⟨hbrings | ⟨hold, hkeeps⟩, hlater⟩ | ⟨earlier, made, later, heq, hmade⟩)
        · exact .inr ⟨[], _, _, rfl, hbrings, hlater⟩
        · exact .inl ⟨hold, List.forall_mem_cons.2 ⟨hkeeps, hlater⟩⟩
        · exact .inr ⟨_ :: earlier, made, later, by rw [heq]; rfl, hmade⟩
      · rintro (⟨hold, hkeeps⟩ | ⟨_ | ⟨first, earlier⟩, made, later, heq, hbrings, hlater⟩)
        · obtain ⟨hthis, hlater⟩ := List.forall_mem_cons.1 hkeeps
          exact .inl ⟨.inr ⟨hold, hthis⟩, hlater⟩
        · obtain ⟨rfl, rfl⟩ := List.cons.inj heq
          exact .inl ⟨.inl hbrings, hlater⟩
        · exact .inr ⟨earlier, made, later, (List.cons.inj heq).2, hbrings, hlater⟩

/-- The bindings after some events: those that were there before and were never ended, and those
that were granted on the way and not ended since. -/
lemma lookup_storeAfter_iff (events : List Event) (hs : s.Valid) (hl : s.Labelled)
    (hnew : ∀ step ∈ history tokens s events, step.DrawsNew tokens)
    (label reference : String) (a : Address) :
    (storeAfter tokens s events).lookup label reference = some a ↔
      (s.lookup label reference = some a ∧
        ∀ step ∈ history tokens s events, ¬ step.Ends tokens label reference) ∨
      ∃ earlier made later, history tokens s events = earlier ++ made :: later ∧
        made.Grants tokens label reference a ∧
        ∀ step ∈ later, ¬ step.Ends tokens label reference := by
  refine holds_storeAfter_iff (fun s => s.lookup label reference = some a) events ?_
  intro step hstep
  obtain ⟨hvalid, hlabelled⟩ := mem_history_intact hs hl hstep
  exact Step.lookup_iff step.event hvalid hlabelled (hnew step hstep) label reference a

/-! ## Exclusive ownership -/

/-- Addresses and their owners stay together, whatever is asked for. -/
structure Exclusive (tokens : TokenSource) (s : Store) : Prop where
  /-- Look-ups and rows agree. -/
  rows : ∀ label reference a, s.lookup label reference = some a ↔
    ⟨a, .bound reference⟩ ∈ s.rows label
  /-- An address of a pool has at most one owner. -/
  owner : ∀ label a reference other, ⟨a, .bound reference⟩ ∈ s.rows label →
    ⟨a, .bound other⟩ ∈ s.rows label → reference = other
  /-- A reference owns at most one address of a pool. -/
  address : ∀ label reference a b, ⟨a, .bound reference⟩ ∈ s.rows label →
    ⟨b, .bound reference⟩ ∈ s.rows label → a = b
  /-- A plain create for an owner answers its address and changes nothing. -/
  confirms : ∀ label reference a op, s.lookup label reference = some a → op.kind = .create →
    op.recorded = none → op.Concerns label reference →
    process (backend tokens) op s = (.success op (some a), s)
  /-- No create for anybody else is answered with an owned address. -/
  refuses : ∀ label reference a op other, s.lookup label reference = some a →
    op.kind = .create → op.Concerns label other → other ≠ reference →
    (process (backend tokens) op s).1.verdict ≠ .succeeded (some a)

/-- **Ownership is exclusive in every store whose pools are valid.** -/
theorem exclusive_of_valid (hs : s.Valid) (hl : s.Labelled) : Exclusive tokens s where
  rows _ _ _ := Store.lookup_eq_some_iff hs
  owner label a reference other hx hy := by
    have heq := hs.eq_of_mem_rows hx hy (.inl rfl)
    cases heq
    rfl
  address label reference a b hx hy := by
    have heq := hs.eq_of_mem_rows hx hy (.inr rfl)
    cases heq
    rfl
  confirms label reference a op hold hkind hplain hop := by
    obtain ⟨p, names, howned⟩ := names_of_lookup hl hop hold
    have hrun := Coordinator.process_plain (backend tokens) op s hkind hplain
    rw [names.lookup_apply, howned] at hrun
    exact hrun
  refuses label reference a op other hold hkind hop hne hanswer := by
    have heffect := process_effect tokens hs op
    have hnew : Local.DrawsNew tokens s op := by
      intro hdelete
      rw [hkind] at hdelete
      cases hdelete
    have hafter := heffect.valid hs
    -- Both references would own the address afterwards.
    have hmine := (heffect.lookup_eq_some_iff hs hl hnew).2
      (.inr ⟨hold, fun hdelete => by simp [hkind] at hdelete⟩)
    have htheirs := (heffect.lookup_eq_some_iff hs hl hnew).2 (.inl ⟨hkind, hop, hanswer⟩)
    have heq := hafter.eq_of_mem_rows ((Store.lookup_eq_some_iff hafter).1 hmine)
      ((Store.lookup_eq_some_iff hafter).1 htheirs) (.inl rfl)
    cases heq
    exact hne rfl

/-! ## Ownership and history -/

/-- **A reference owns an address of a pool exactly if a create for it was answered with the
address and neither a delete nor a start has ended this since; and at every moment of the run
ownership is exclusive.** -/
theorem ownership_of_history (tokens : TokenSource) (events : List Event)
    (hnew : ∀ step ∈ history tokens ∅ events, step.DrawsNew tokens) :
    (∀ label reference a,
      (storeAfter tokens ∅ events).lookup label reference = some a ↔
        ∃ earlier made later, history tokens ∅ events = earlier ++ made :: later ∧
          made.Grants tokens label reference a ∧
          ∀ step ∈ later, ¬ step.Ends tokens label reference) ∧
      ∀ earlier, earlier <+: events → Exclusive tokens (storeAfter tokens ∅ earlier) := by
  refine ⟨fun label reference a => ?_, fun earlier _ => ?_⟩
  · rw [lookup_storeAfter_iff events Store.valid_empty Store.labelled_empty hnew]
    simp [Store.lookup_of_no_pool (Store.pools_empty label)]
  · obtain ⟨hvalid, hlabelled⟩ :=
      storeAfter_valid tokens earlier Store.valid_empty Store.labelled_empty
    exact exclusive_of_valid hvalid hlabelled

/-! ## A run -/

/-- If no token is ever drawn twice and no operation asks for one, every token is new. -/
lemma history_drawsNew (hinj : Function.Injective tokens) {events : List Event}
    (hevents : ∀ op, .operation op ∈ events → op.Avoids tokens) (hs : s.Valid)
    (hsupplied : s.Supplied tokens) :
    ∀ step ∈ history tokens s events, step.DrawsNew tokens := by
  induction events generalizing s with
  | nil => simp [history]
  | cons event events ih =>
      have hlater : ∀ op, .operation op ∈ events → op.Avoids tokens :=
        fun op hop => hevents op (List.mem_cons_of_mem _ hop)
      rw [history]
      refine List.forall_mem_cons.2 ⟨?_, ih hlater (event.apply_valid tokens hs) ?_⟩
      · cases event with
        | operation op => exact hsupplied.drawsNew hinj op
        | restart config => trivial
      · cases event with
        | operation op =>
            exact (process_effect tokens hs op).supplied hsupplied (hevents op List.mem_cons_self)
        | restart config =>
            cases hstart : start tokens config s with
            | error cause => exact (Event.apply_of_error hstart).symm ▸ hsupplied
            | ok result =>
                obtain ⟨desired, -, hsync⟩ := start_eq_ok hstart
                rw [Event.apply_of_start hstart]
                exact (Store.synced_of_sync hsync).supplied hsupplied

/-- A run that binds an address and frees it again. -/
def shortRun : List Event :=
  [.restart Pool.pairConfig,
    .operation (.create ⟨"web", "prod"⟩ (some "www") none "lan"),
    .operation (.delete ⟨"web", "prod"⟩ (some "www") none "lan")]

/-- No operation of the run asks for a token. -/
lemma drawsNew_shortRun (n : Nat) :
    ∀ step ∈ history Pool.Token.dashes ∅ (shortRun.take n), step.DrawsNew Pool.Token.dashes := by
  refine history_drawsNew Pool.Token.dashes_injective ?_ Store.valid_empty Store.supplied_empty
  intro op hop reference hreference i
  have hwww : op.reference? = some "www" := by
    have hmem := List.mem_of_mem_take hop
    simp only [shortRun, List.mem_cons, reduceCtorEq, Event.operation.injEq, List.not_mem_nil,
      or_false, false_or] at hmem
    rcases hmem with rfl | rfl <;> rfl
  rw [hwww] at hreference
  cases hreference
  exact Pool.Token.dashes_ne (by simp) i

/-- After the create the host owns the lowest address, after the delete none. -/
theorem ownership_of_shortRun :
    (∀ step ∈ history Pool.Token.dashes ∅ shortRun, step.DrawsNew Pool.Token.dashes) ∧
      (storeAfter Pool.Token.dashes ∅ (shortRun.take 2)).lookup "lan" "www"
        = some (.ofNat 0x0A000001) ∧
      ∀ a, (storeAfter Pool.Token.dashes ∅ shortRun).lookup "lan" "www" ≠ some a := by
  have hnew := drawsNew_shortRun 3
  refine ⟨hnew, ?_, fun a hold => ?_⟩
  · refine ((ownership_of_history Pool.Token.dashes _ (drawsNew_shortRun 2)).1 _ _ _).2
      ⟨[_], _, [], rfl, ⟨_, rfl, rfl, ⟨rfl, rfl⟩, ?_⟩, by simp⟩
    -- The create meets the store that the start has left.
    rw [Event.apply_of_start start_pairConfig]
    rfl
  obtain ⟨earlier, made, later, heq, hgrants, hlater⟩ :=
    ((ownership_of_history Pool.Token.dashes shortRun hnew).1 "lan" "www" a).1 hold
  have hlast : ∃ before front, history Pool.Token.dashes ∅ shortRun
      = front ++ [Step.mk before (.operation (.delete ⟨"web", "prod"⟩ (some "www") none "lan"))] :=
    ⟨_, [_, _], rfl⟩
  obtain ⟨before, front, hlast⟩ := hlast
  rw [hlast] at heq
  -- The delete is the last event: it grants nothing, and it ends what was granted before it.
  rcases List.eq_nil_or_concat later with rfl | ⟨between, last, rfl⟩
  · obtain ⟨-, hmade⟩ := List.append_inj' heq rfl
    cases hmade
    obtain ⟨op, hop, hkind, -⟩ := hgrants
    cases hop
    cases hkind
  · rw [List.concat_eq_append] at heq hlater
    rw [← List.cons_append, ← List.append_assoc] at heq
    obtain ⟨-, hlast⟩ := List.append_inj' heq rfl
    cases hlast
    refine hlater _ (List.mem_append_right _ (List.mem_singleton_self _)) ?_
    exact ⟨rfl, rfl, rfl⟩

end Ipam.Local
