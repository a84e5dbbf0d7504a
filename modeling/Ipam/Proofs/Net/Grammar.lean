import Ipam.Proofs.Net.Hosts
import Ipam.Proofs.Net.Spelling

/-!
# The grammar of range texts

A range text is a list of parts between commas, with white space wherever a reader would not mind,
and blank pieces that count for nothing.  The grammar is given by relations, from the ends of a part
to the whole text, and beside each of them stands the relation for what is wrong.

* `Range.Endpoint`, `Range.BadEndpoint` — an end of a part; a text that is none.
* `Range.Part` — a piece that is a part; `Range.Fault` — the first thing that is wrong with a piece
  that is none.
* `Range.Pieces` — the pieces of a text.
* `Range.parsePart_eq_ok_iff`, `Range.parsePart_eq_error_iff` — the reader of pieces follows both.
* **`Range.parse_accepts`** — a range text is read exactly if it is in the grammar, and refused for
  the first fault of the first faulty piece.

The faults of a piece exclude each other by their premises: a later one asks for all that makes the
earlier ones impossible.
-/

namespace Ipam

open Text

namespace Range

variable {text : String} {cs piece start stop : List Char} {pieces : List (List Char)}
  {ranges : List Range} {r : Range} {a b : Address} {m m' : Option (Fin 33)} {length : Fin 33}
  {e : RangeError}

/-! ## Ends -/

/-- An end of a part: a dotted quad without leading zeros, or an address with a mask length. -/
inductive Endpoint : List Char → Address → Option (Fin 33) → Prop
  | plain (a : Address) : Endpoint a.quad a none
  | masked {cs : List Char} {a : Address} {length : Fin 33} (h : Network.Spells cs a length) :
      Endpoint cs a (some length)

/-- A text that is no end; whether it is taken for one with a mask depends on a slash. -/
inductive BadEndpoint (cs : List Char) : RangeError → Prop
  | plain (hslash : '/' ∉ cs) (h : ∀ a m, ¬ Endpoint cs a m) :
      BadEndpoint cs (.badAddress (String.ofList cs))
  | masked (hslash : '/' ∈ cs) (h : ∀ a m, ¬ Endpoint cs a m) :
      BadEndpoint cs (.malformed (String.ofList cs))

lemma parseEndpoint_eq_ok_iff : parseEndpoint cs = .ok (a, m) ↔ Endpoint cs a m := by
  constructor
  · intro h
    rw [parseEndpoint] at h
    split_ifs at h with hslash
    · cases hmasked : Network.parseMasked? cs with
      | none =>
          rw [hmasked] at h
          cases h
      | some found =>
          rw [hmasked] at h
          cases h
          exact .masked (Network.parseMasked?_eq_some_iff.1 hmasked)
    · cases hquad : Address.parseQuad? cs with
      | none =>
          rw [hquad] at h
          cases h
      | some found =>
          rw [hquad] at h
          cases h
          rw [Address.parseQuad?_eq_some_iff.1 hquad]
          exact .plain _
  · rintro (_ | h)
    · exact parseEndpoint_endpoint a none
    · rw [parseEndpoint, if_pos h.slash_mem, Network.parseMasked?_eq_some_iff.2 h]

lemma parseEndpoint_eq_error_iff : parseEndpoint cs = .error e ↔ BadEndpoint cs e := by
  have hnone : ∀ {e}, parseEndpoint cs = .error e → ∀ a m, ¬ Endpoint cs a m := by
    intro e h a m hend
    rw [parseEndpoint_eq_ok_iff.2 hend] at h
    cases h
  constructor
  · intro h
    have hno := hnone h
    rw [parseEndpoint] at h
    split_ifs at h with hslash
    · split at h
      · cases h
      · cases h
        exact .masked hslash hno
    · split at h
      · cases h
      · cases h
        exact .plain hslash hno
  · intro h
    cases hread : parseEndpoint cs with
    | ok found => exact absurd (parseEndpoint_eq_ok_iff.1 hread) (by cases h <;> simp_all)
    | error e' =>
        rw [parseEndpoint] at hread
        rcases h with ⟨hslash, -⟩ | ⟨hslash, -⟩
        · rw [if_neg hslash] at hread
          split at hread <;> cases hread
          rfl
        · rw [if_pos hslash] at hread
          split at hread <;> cases hread
          rfl

/-! ## Parts -/

/-- The texts of the two ends of a piece: what is before and after its first dash, without white
space. -/
def Ends (piece start stop : List Char) : Prop :=
  ∃ before after, '-' ∉ before ∧ piece = before ++ '-' :: after ∧ Trims before start ∧
    Trims after stop

/-- A piece that is a part.  Both ends are plain or both have one mask length, and then the second
one is in the network of the first. -/
inductive Part (piece : List Char) : Range → Prop
  | plain {start stop : List Char} {a b : Address} (ends : Ends piece start stop)
      (hstart : Endpoint start a none) (hstop : Endpoint stop b none) (hle : a ≤ b) :
      Part piece ⟨a, b, none⟩
  | masked {start stop : List Char} {a b : Address} {length : Fin 33} (ends : Ends piece start stop)
      (hstart : Endpoint start a (some length)) (hstop : Endpoint stop b (some length))
      (hle : a ≤ b) (hinside : (Network.containing a length).contains b = true) :
      Part piece ⟨a, b, some (.containing a length)⟩

/-- The first thing that is wrong with a piece. -/
inductive Fault (piece : List Char) : RangeError → Prop
  | dash (h : '-' ∉ piece) : Fault piece (.malformed (String.ofList piece))
  | start {start stop : List Char} {e : RangeError} (ends : Ends piece start stop)
      (h : BadEndpoint start e) : Fault piece e
  | stop {start stop : List Char} {a : Address} {m : Option (Fin 33)} {e : RangeError}
      (ends : Ends piece start stop) (hstart : Endpoint start a m) (h : BadEndpoint stop e) :
      Fault piece e
  | reversed {start stop : List Char} {a b : Address} {m m' : Option (Fin 33)}
      (ends : Ends piece start stop) (hstart : Endpoint start a m) (hstop : Endpoint stop b m')
      (h : b < a) : Fault piece (.reversed a b)
  | mask {start stop : List Char} {a b : Address} {m m' : Option (Fin 33)}
      (ends : Ends piece start stop) (hstart : Endpoint start a m) (hstop : Endpoint stop b m')
      (hle : a ≤ b) (h : m ≠ m') : Fault piece (.maskMismatch (String.ofList piece))
  | outside {start stop : List Char} {a b : Address} {length : Fin 33}
      (ends : Ends piece start stop) (hstart : Endpoint start a (some length))
      (hstop : Endpoint stop b (some length)) (hle : a ≤ b)
      (h : (Network.containing a length).contains b = false) :
      Fault piece (.outsideNetwork b (.containing a length))

lemma not_lt_of_le (h : a ≤ b) : ¬ b < a :=
  Nat.not_lt_of_le h

lemma exists_ends (h : '-' ∈ piece) : ∃ start stop, Ends piece start stop := by
  have hsome : splitOnce '-' piece ≠ none := fun hnone => splitOnce_eq_none_iff.1 hnone h
  obtain ⟨⟨before, after⟩, hends⟩ := Option.ne_none_iff_exists'.1 hsome
  obtain ⟨hbefore, hpiece⟩ := splitOnce_eq_some_iff.1 hends
  exact ⟨trim before, trim after, before, after, hbefore, hpiece, trims_trim before,
    trims_trim after⟩

lemma parsePart_of_dash_notMem (h : '-' ∉ piece) :
    parsePart piece = .error (.malformed (String.ofList piece)) := by
  rw [parsePart, splitOnce_eq_none_iff.2 h]

/-- A piece with a dash is read from its two ends. -/
lemma Ends.parsePart_eq (h : Ends piece start stop) :
    parsePart piece = (do
      let first ← parseEndpoint start
      let second ← parseEndpoint stop
      between piece first second) := by
  obtain ⟨before, after, hdash, hpiece, hstart, hstop⟩ := h
  rw [parsePart, splitOnce_eq_some_iff.2 ⟨hdash, hpiece⟩]
  simp only [hstart.trim_eq, hstop.trim_eq]

lemma Ends.parsePart_of_start (h : Ends piece start stop) (hstart : parseEndpoint start = .error e) :
    parsePart piece = .error e := by
  rw [h.parsePart_eq, hstart]
  rfl

lemma Ends.parsePart_of_stop (h : Ends piece start stop) (hstart : Endpoint start a m)
    (hstop : parseEndpoint stop = .error e) : parsePart piece = .error e := by
  rw [h.parsePart_eq, parseEndpoint_eq_ok_iff.2 hstart, hstop]
  rfl

lemma Ends.parsePart_of_both (h : Ends piece start stop) (hstart : Endpoint start a m)
    (hstop : Endpoint stop b m') : parsePart piece = between piece (a, m) (b, m') := by
  rw [h.parsePart_eq, parseEndpoint_eq_ok_iff.2 hstart, parseEndpoint_eq_ok_iff.2 hstop]
  rfl

lemma Part.parsePart_eq (h : Part piece r) : parsePart piece = .ok r := by
  cases h with
  | plain ends hstart hstop hle =>
      have hordered := not_lt_of_le hle
      rw [ends.parsePart_of_both hstart hstop, between, if_neg hordered]
  | masked ends hstart hstop hle hinside =>
      have hordered := not_lt_of_le hle
      rw [ends.parsePart_of_both hstart hstop, between, if_neg hordered]
      simp [hinside]

lemma Fault.parsePart_eq (h : Fault piece e) : parsePart piece = .error e := by
  cases h with
  | dash h => exact parsePart_of_dash_notMem h
  | start ends h => exact ends.parsePart_of_start (parseEndpoint_eq_error_iff.2 h)
  | stop ends hstart h => exact ends.parsePart_of_stop hstart (parseEndpoint_eq_error_iff.2 h)
  | reversed ends hstart hstop h =>
      rw [ends.parsePart_of_both hstart hstop, between]
      exact if_pos h
  | @mask _ _ _ _ m m' ends hstart hstop hle h =>
      have hordered := not_lt_of_le hle
      rw [ends.parsePart_of_both hstart hstop, between, if_neg hordered]
      cases m <;> cases m' <;> simp_all
  | outside ends hstart hstop hle h =>
      have hordered := not_lt_of_le hle
      rw [ends.parsePart_of_both hstart hstop, between, if_neg hordered]
      simp [h]

/-- Two ends make a part, or one of the last three faults. -/
lemma Ends.part_or_fault (h : Ends piece start stop) (hstart : Endpoint start a m)
    (hstop : Endpoint stop b m') : (∃ r, Part piece r) ∨ ∃ e, Fault piece e := by
  rcases Nat.lt_or_ge b.toNat a.toNat with hlt | hle
  · exact .inr ⟨_, .reversed h hstart hstop hlt⟩
  · by_cases hmask : m = m'
    · subst hmask
      cases m with
      | none => exact .inl ⟨_, .plain h hstart hstop hle⟩
      | some length =>
          cases hinside : (Network.containing a length).contains b with
          | true => exact .inl ⟨_, .masked h hstart hstop hle hinside⟩
          | false => exact .inr ⟨_, .outside h hstart hstop hle hinside⟩
    · exact .inr ⟨_, .mask h hstart hstop hle hmask⟩

/-- **Every piece is a part or has a fault.** -/
theorem part_or_fault (piece : List Char) : (∃ r, Part piece r) ∨ ∃ e, Fault piece e := by
  by_cases hdash : '-' ∈ piece
  · obtain ⟨start, stop, ends⟩ := exists_ends hdash
    cases hstart : parseEndpoint start with
    | error e => exact .inr ⟨e, .start ends (parseEndpoint_eq_error_iff.1 hstart)⟩
    | ok first =>
        have hfirst := parseEndpoint_eq_ok_iff.1 hstart
        cases hstop : parseEndpoint stop with
        | error e => exact .inr ⟨e, .stop ends hfirst (parseEndpoint_eq_error_iff.1 hstop)⟩
        | ok second => exact ends.part_or_fault hfirst (parseEndpoint_eq_ok_iff.1 hstop)
  · exact .inr ⟨_, .dash hdash⟩

theorem parsePart_eq_ok_iff : parsePart piece = .ok r ↔ Part piece r := by
  refine ⟨fun h => ?_, Part.parsePart_eq⟩
  rcases part_or_fault piece with ⟨r', hpart⟩ | ⟨e, hfault⟩
  · cases hpart.parsePart_eq.symm.trans h
    exact hpart
  · cases hfault.parsePart_eq.symm.trans h

theorem parsePart_eq_error_iff : parsePart piece = .error e ↔ Fault piece e := by
  refine ⟨fun h => ?_, Fault.parsePart_eq⟩
  rcases part_or_fault piece with ⟨r, hpart⟩ | ⟨e', hfault⟩
  · cases hpart.parsePart_eq.symm.trans h
  · cases hfault.parsePart_eq.symm.trans h
    exact hfault

lemma Part.proper (h : Part piece r) : r.Proper := by
  cases h with
  | plain ends hstart hstop hle => exact ⟨hle, by simp⟩
  | masked ends hstart hstop hle hinside =>
      refine ⟨hle, fun n hn => ?_⟩
      cases hn
      exact ⟨rfl, hinside⟩

/-! ## Texts -/

/-- The pieces of a text: what is between its commas, without white space, if anything is left. -/
def Pieces (text : String) (pieces : List (List Char)) : Prop :=
  ∃ cuts trimmed, Cuts ',' text.toList cuts ∧ List.Forall₂ Trims cuts trimmed ∧
    pieces = trimmed.filter (· ≠ [])

lemma pieces_eq_iff : Range.pieces text = pieces ↔ Pieces text pieces := by
  constructor
  · rintro rfl
    refine ⟨_, _, cuts_splitOn ',' text.toList, ?_, rfl⟩
    rw [List.forall₂_map_right_iff, List.forall₂_same]
    exact fun cut _ => trim_eq_iff.1 rfl
  · rintro ⟨cuts, trimmed, hcuts, htrims, rfl⟩
    have htrimmed : cuts.map trim = trimmed := by
      rw [← List.forall₂_eq_eq_eq, List.forall₂_map_left_iff]
      exact htrims.imp fun _ _ => trim_eq_iff.2
    rw [Range.pieces, hcuts.splitOn_eq, htrimmed]

/-- How a range text is read. -/
structure Accepts (text : String) : Prop where
  /-- It is read as some parts if there are any pieces, and these are the parts, in order. -/
  succeeds_iff : ∀ ranges, parse text = .ok ranges ↔
    ∃ pieces, Pieces text pieces ∧ pieces ≠ [] ∧ List.Forall₂ Part pieces ranges
  /-- It is refused if there are no pieces, or for the fault of the first piece that is no part. -/
  fails_iff : ∀ e, parse text = .error e ↔
    (Pieces text [] ∧ e = .malformed text) ∨
      ∃ before piece after, Pieces text (before ++ piece :: after) ∧
        (∀ earlier ∈ before, ∃ r, Part earlier r) ∧ Fault piece e
  /-- What is written from some parts is read as these parts. -/
  written : ∀ ranges, ranges ≠ [] → (∀ r ∈ ranges, ∃ piece, Part piece r) →
    render ranges = text → parse text = .ok ranges

lemma parse_of_mapM_ok (h : (Range.pieces text).mapM parsePart = .ok ranges) :
    parse text = if ranges = [] then .error (.malformed text) else .ok ranges := by
  rw [parse, h]
  cases ranges <;> rfl

lemma parse_of_mapM_error (h : (Range.pieces text).mapM parsePart = .error e) :
    parse text = .error e := by
  rw [parse, h]
  rfl

lemma parse_eq_ok_iff : parse text = .ok ranges ↔
    (Range.pieces text).mapM parsePart = .ok ranges ∧ ranges ≠ [] := by
  cases hread : (Range.pieces text).mapM parsePart with
  | error e => simp [parse_of_mapM_error hread]
  | ok found =>
      rw [parse_of_mapM_ok hread]
      split_ifs with hfound
      · subst hfound
        simp [eq_comm]
      · simp only [Except.ok.injEq]
        exact ⟨fun h => ⟨h, h ▸ hfound⟩, And.left⟩

lemma mapM_parsePart_eq_nil_iff :
    (Range.pieces text).mapM parsePart = .ok [] ↔ Range.pieces text = [] := by
  rw [Traversal.mapM_eq_ok_iff, List.forall₂_nil_right_iff]

lemma parse_eq_error_iff : parse text = .error e ↔
    (Range.pieces text = [] ∧ e = .malformed text) ∨
      (Range.pieces text).mapM parsePart = .error e := by
  rw [← mapM_parsePart_eq_nil_iff]
  cases hread : (Range.pieces text).mapM parsePart with
  | error e' => simp [parse_of_mapM_error hread]
  | ok found =>
      rw [parse_of_mapM_ok hread]
      split_ifs with hfound
      · simp [hfound, eq_comm]
      · simp [hfound]

/-- **The reader of range texts accepts its grammar,** and reports the first fault otherwise. -/
theorem parse_accepts (text : String) : Accepts text where
  succeeds_iff ranges := by
    rw [parse_eq_ok_iff, Traversal.mapM_eq_ok_iff]
    constructor
    · rintro ⟨hparts, hne⟩
      refine ⟨_, pieces_eq_iff.1 rfl, ?_, hparts.imp fun _ _ h => parsePart_eq_ok_iff.1 h⟩
      rintro hnil
      rw [hnil] at hparts
      cases hparts
      exact hne rfl
    · rintro ⟨pieces, hpieces, hne, hparts⟩
      rw [pieces_eq_iff.2 hpieces]
      refine ⟨hparts.imp fun _ _ h => h.parsePart_eq, ?_⟩
      rintro rfl
      cases hparts
      exact hne rfl
  fails_iff e := by
    rw [parse_eq_error_iff, Traversal.mapM_eq_error_iff, pieces_eq_iff]
    refine or_congr_right ⟨?_, ?_⟩
    · rintro ⟨before, piece, after, hpieces, hbefore, hpiece⟩
      refine ⟨before, piece, after, pieces_eq_iff.1 hpieces, fun earlier hearlier => ?_,
        parsePart_eq_error_iff.1 hpiece⟩
      obtain ⟨r, hr⟩ := hbefore earlier hearlier
      exact ⟨r, parsePart_eq_ok_iff.1 hr⟩
    · rintro ⟨before, piece, after, hpieces, hbefore, hpiece⟩
      refine ⟨before, piece, after, pieces_eq_iff.2 hpieces, fun earlier hearlier => ?_,
        hpiece.parsePart_eq⟩
      obtain ⟨r, hr⟩ := hbefore earlier hearlier
      exact ⟨r, hr.parsePart_eq⟩
  written := by
    rintro ranges hne hparts rfl
    refine parse_render hne fun r hr => ?_
    obtain ⟨piece, hpart⟩ := hparts r hr
    exact hpart.proper

end Range

end Ipam
