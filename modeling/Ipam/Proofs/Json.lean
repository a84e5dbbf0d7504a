import Ipam.Json.Parser
import Mathlib.Tactic

/-!
# Reading back what was written

The reader undoes the writer: a value is the value of its own compact text.  Numbers are left aside,
for what is written of the resources has none, and so are strings that denote no characters, which
only a reader can meet.

* `Json.escape_cases` — the three ways in which a character is written.
* **`Json.takeString?_renderString`** — a string is read back, whatever characters it has.
* `Json.Plain` — values without numbers whose strings denote characters.
* `Json.Readable` — a value is read back with fuel for its length, whatever comes after it.
* **`Json.Plain.readable`**, **`Json.Plain.parse?_render`** — plain values are read back from their
  texts.

Fuel is spent twice on each character at most: once on the item or member that it starts, once on
the value.
-/

namespace Ipam.Json

open Text (hexValue?)

/-! ## Strings -/

lemma hexValue?_hexDigit {n : Nat} (h : n < 16) : hexValue? (hexDigit n) = some n := by
  have hall : ∀ n < 16, hexValue? (hexDigit n) = some n := by decide
  exact hall n h

/-- A character is written as an escape of one letter, as a UTF-16 unit, or as itself. -/
lemma escape_cases (c : Char) :
    (∃ d, d ≠ 'u' ∧ simpleEscape? d = some c ∧ escape c = ['\\', d]) ∨
    (c.toNat < 0x20 ∧
      escape c = ['\\', 'u', '0', '0', hexDigit (c.toNat / 16), hexDigit (c.toNat % 16)]) ∨
    (¬ c.toNat < 0x20 ∧ c ≠ '"' ∧ c ≠ '\\' ∧ escape c = [c]) := by
  unfold escape
  split
  case h_1 => exact .inl ⟨'"', by decide, rfl, rfl⟩
  case h_2 => exact .inl ⟨'\\', by decide, rfl, rfl⟩
  case h_3 => exact .inl ⟨'n', by decide, rfl, rfl⟩
  case h_4 => exact .inl ⟨'r', by decide, rfl, rfl⟩
  case h_5 => exact .inl ⟨'t', by decide, rfl, rfl⟩
  case h_6 => exact .inl ⟨'b', by decide, rfl, rfl⟩
  case h_7 => exact .inl ⟨'f', by decide, rfl, rfl⟩
  case h_8 hquote hslash _ _ _ _ _ =>
    split_ifs with hcontrol
    · exact .inr (.inl ⟨hcontrol, rfl⟩)
    · exact .inr (.inr ⟨hcontrol, hquote, hslash, rfl⟩)

lemma takePieces?_letter {c d : Char} (hd : d ≠ 'u') (hc : simpleEscape? d = some c) (rest) :
    takePieces? ('\\' :: d :: rest)
      = (takePieces? rest).map fun taken => (.char c :: taken.1, taken.2) := by
  rw [takePieces?]
  · rw [hc]
    simp
    cases takePieces? rest <;> rfl
  · simp [hd]

lemma takePieces?_self {c : Char} (hcontrol : ¬ c.toNat < 0x20) (hquote : c ≠ '"')
    (hslash : c ≠ '\\') (rest) :
    takePieces? (c :: rest)
      = (takePieces? rest).map fun taken => (.char c :: taken.1, taken.2) := by
  rw [takePieces?]
  · simp [hcontrol]
    cases takePieces? rest <;> rfl
  all_goals simp [hquote, hslash]

lemma takePieces?_unit {n : Nat} (h : n < 0x20) (rest) :
    takePieces? ('\\' :: 'u' :: '0' :: '0' :: hexDigit (n / 16) :: hexDigit (n % 16) :: rest)
      = (takePieces? rest).map fun taken => (.unit n :: taken.1, taken.2) := by
  have hhigh : hexValue? (hexDigit (n / 16)) = some (n / 16) := hexValue?_hexDigit (by omega)
  have hlow : hexValue? (hexDigit (n % 16)) = some (n % 16) := hexValue?_hexDigit (by omega)
  have hzero : hexValue? '0' = some 0 := rfl
  have hunit : unit? '0' '0' (hexDigit (n / 16)) (hexDigit (n % 16)) = some n := by
    simp only [unit?, hhigh, hlow, hzero]
    exact congrArg some (by omega)
  rw [takePieces?, hunit]
  cases takePieces? rest <;> rfl

/-- A unit that is no half of a pair is a character. -/
lemma joinPieces?_unit {c : Char} (h : c.toNat < 0x20) (pieces) :
    joinPieces? none (.unit c.toNat :: pieces) = (joinPieces? none pieces).map (c :: ·) := by
  have hhigh : isHighHalf c.toNat = false := by simp [isHighHalf]; omega
  have hlow : isLowHalf c.toNat = false := by simp [isLowHalf]; omega
  rw [joinPieces?, hhigh, hlow, Char.ofNat_toNat]
  simp

/-- A character is read back from its written form: it is taken as one piece, which is joined to the
same character again. -/
lemma exists_piece (c : Char) :
    ∃ piece, (∀ rest, takePieces? (escape c ++ rest)
        = (takePieces? rest).map fun taken => (piece :: taken.1, taken.2)) ∧
      ∀ pieces, joinPieces? none (piece :: pieces) = (joinPieces? none pieces).map (c :: ·) := by
  rcases escape_cases c with ⟨d, hd, hletter, hform⟩ | ⟨hcontrol, hform⟩ |
    ⟨hplain, hquote, hslash, hform⟩ <;> rw [hform]
  · exact ⟨.char c, takePieces?_letter hd hletter, fun pieces => by rw [joinPieces?]⟩
  · exact ⟨.unit c.toNat, takePieces?_unit hcontrol, joinPieces?_unit hcontrol⟩
  · exact ⟨.char c, takePieces?_self hplain hquote hslash, fun pieces => by rw [joinPieces?]⟩

/-- Some characters are read back up to the quote that ends them. -/
lemma exists_pieces (cs : List Char) :
    ∃ pieces, (∀ rest, takePieces? (cs.flatMap escape ++ '"' :: rest) = some (pieces, rest)) ∧
      joinPieces? none pieces = some cs := by
  induction cs with
  | nil => exact ⟨[], fun rest => by rw [List.flatMap_nil, List.nil_append, takePieces?], rfl⟩
  | cons c cs ih =>
      obtain ⟨pieces, htake, hjoin⟩ := ih
      obtain ⟨piece, htakeOne, hjoinOne⟩ := exists_piece c
      refine ⟨piece :: pieces, fun rest => ?_, ?_⟩
      · rw [List.flatMap_cons, List.append_assoc, htakeOne, htake]
        rfl
      · rw [hjoinOne, hjoin]
        rfl

/-- **A string is read back from its text,** whatever characters it has. -/
theorem takeString?_renderString (s : String) (rest : List Char) :
    takeString? (renderString s ++ rest) = some (some s, rest) := by
  obtain ⟨pieces, htake, hjoin⟩ := exists_pieces s.toList
  have htext : renderString s ++ rest = '"' :: (s.toList.flatMap escape ++ '"' :: rest) := by
    simp [renderString]
  rw [htext, takeString?, htake]
  simp [hjoin]

/-! ## Plain values -/

/-- A value without numbers whose strings all denote characters. -/
inductive Plain : Json → Prop where
  | null : Plain .null
  | bool (b : Bool) : Plain (.bool b)
  | str (s : String) : Plain (str s)
  | array {items : List Json} (hitems : ∀ item ∈ items, Plain item) : Plain (.array items)
  | obj {members : List (String × Json)} (hmembers : ∀ member ∈ members, Plain member.2) :
      Plain (obj members)

/-- The text of a value starts with a character that is neither a separator nor the end of an
array. -/
lemma Plain.exists_head {j : Json} (h : j.Plain) :
    ∃ c cs, j.chars = c :: cs ∧ isSeparator c = false ∧ c ≠ ']' := by
  cases h with
  | null => exact ⟨'n', _, rfl, by decide, by decide⟩
  | bool b => cases b <;> exact ⟨_, _, rfl, by decide, by decide⟩
  | str s => exact ⟨'"', _, rfl, by decide, by decide⟩
  | array => exact ⟨'[', _, by rw [chars]; rfl, by decide, by decide⟩
  | obj => exact ⟨'\x7b', _, by rw [Json.obj, chars]; rfl, by decide, by decide⟩

lemma skip_of_head {c : Char} (h : isSeparator c = false) (cs : List Char) :
    skip (c :: cs) = c :: cs := by
  simp [skip, h]

/-- With fuel for its length a value is read back from its text, whatever comes after it. -/
def Readable (j : Json) : Prop :=
  ∀ fuel rest, 2 * j.chars.length ≤ fuel → takeValue? fuel (j.chars ++ rest) = some (j, rest)

/-! ## Items and members -/

/-- No separator comes before the first of some items, nor the end of the array. -/
lemma exists_head_charsItems {items : List Json} (hne : items ≠ [])
    (hplain : ∀ item ∈ items, item.Plain) :
    ∃ c cs, charsItems items = c :: cs ∧ isSeparator c = false ∧ c ≠ ']' := by
  cases items with
  | nil => exact absurd rfl hne
  | cons item others =>
      obtain ⟨c, cs, hhead, hc, hend⟩ := (hplain item (by simp)).exists_head
      cases others with
      | nil => exact ⟨c, cs, by rw [charsItems, hhead], hc, hend⟩
      | cons next others =>
          refine ⟨c, cs ++ ',' :: charsItems (next :: others), ?_, hc, hend⟩
          rw [charsItems, hhead, List.cons_append]
          simp

/-- Items are read back up to the bracket that ends them. -/
lemma takeItems?_charsItems {items : List Json} (hne : items ≠ [])
    (hplain : ∀ item ∈ items, item.Plain) (hread : ∀ item ∈ items, item.Readable)
    {fuel : Nat} (rest : List Char) (hfuel : 2 * (charsItems items).length + 1 ≤ fuel) :
    takeItems? fuel (charsItems items ++ ']' :: rest) = some (items, rest) := by
  induction items generalizing fuel with
  | nil => exact absurd rfl hne
  | cons item others ih =>
      obtain ⟨hitem, hothers⟩ := List.forall_mem_cons.1 hread
      obtain ⟨-, hplain⟩ := List.forall_mem_cons.1 hplain
      obtain ⟨fuel, rfl⟩ : ∃ n, fuel = n + 1 := ⟨fuel - 1, by omega⟩
      cases others with
      | nil =>
          rw [charsItems] at hfuel ⊢
          rw [takeItems?, hitem fuel _ (by omega)]
          simp [skip_of_head (c := ']') (by decide)]
      | cons next others =>
          have hcons : charsItems (item :: next :: others)
              = item.chars ++ ',' :: charsItems (next :: others) := by
            rw [charsItems]
            simp
          rw [hcons] at hfuel ⊢
          simp only [List.length_append, List.length_cons] at hfuel
          obtain ⟨c, cs, hhead, hc, -⟩ := exists_head_charsItems (by simp) hplain
          have hnext : takeItems? fuel (charsItems (next :: others) ++ ']' :: rest)
              = some (next :: others, rest) := ih (by simp) hplain hothers (by omega)
          rw [List.append_assoc, takeItems?, hitem fuel _ (by omega)]
          simp only [List.cons_append, Option.bind_eq_bind, Option.bind_some,
            skip_of_head (c := ',') (by decide)]
          rw [hhead, List.cons_append, skip_of_head hc, ← List.cons_append, ← hhead, hnext]
          rfl

/-- The members of an object, as they are read. -/
abbrev texts (members : List (String × Json)) : List (Json.Text × Json) :=
  members.map fun member => (some member.1, member.2)

/-- A member of an object is read back, and decides with what comes after it how to go on. -/
lemma takeMembers?_member {fuel : Nat} {name : String} {value : Json} (hplain : value.Plain)
    (hread : value.Readable) (rest : List Char) (hfuel : 2 * value.chars.length ≤ fuel) :
    takeMembers? (fuel + 1) (renderText (some name) ++ ':' :: value.chars ++ rest)
      = match skip rest with
        | '\x7d' :: rest => some ([(some name, value)], rest)
        | ',' :: rest => do
          let (members, rest) ← takeMembers? fuel (skip rest)
          return ((some name, value) :: members, rest)
        | _ => none := by
  obtain ⟨c, cs, hhead, hc, -⟩ := hplain.exists_head
  have hname : takeString? (renderText (some name) ++ (':' :: value.chars ++ rest))
      = some (some name, ':' :: value.chars ++ rest) := takeString?_renderString ..
  rw [takeMembers?, List.append_assoc, hname]
  simp only [Option.bind_eq_bind, Option.bind_some, List.cons_append,
    skip_of_head (c := ':') (by decide)]
  rw [hhead, List.cons_append, skip_of_head hc, ← List.cons_append, ← hhead, hread fuel _ hfuel]
  rfl

/-- The text of some members starts with a quote. -/
lemma exists_head_charsMembers {members : List (String × Json)} (hne : members ≠ []) :
    ∃ cs, charsMembers (texts members) = '"' :: cs := by
  cases members with
  | nil => exact absurd rfl hne
  | cons member others =>
      cases others with
      | nil => exact ⟨_, by rw [texts, List.map_singleton, charsMembers]; rfl⟩
      | cons next others =>
          refine ⟨(renderText (some member.1)).tail ++ ':' :: member.2.chars
            ++ ',' :: charsMembers (texts (next :: others)), ?_⟩
          rw [texts, List.map_cons, List.map_cons, charsMembers]
          · rfl
          · simp

/-- Members are read back up to the brace that ends them. -/
lemma takeMembers?_charsMembers {members : List (String × Json)} (hne : members ≠ [])
    (hplain : ∀ member ∈ members, member.2.Plain) (hread : ∀ member ∈ members, member.2.Readable)
    {fuel : Nat} (rest : List Char) (hfuel : 2 * (charsMembers (texts members)).length + 1 ≤ fuel) :
    takeMembers? fuel (charsMembers (texts members) ++ '\x7d' :: rest)
      = some (texts members, rest) := by
  induction members generalizing fuel with
  | nil => exact absurd rfl hne
  | cons member others ih =>
      obtain ⟨name, value⟩ := member
      obtain ⟨hvalue, hothers⟩ := List.forall_mem_cons.1 hread
      obtain ⟨hplainValue, hplain⟩ := List.forall_mem_cons.1 hplain
      simp only at hvalue hplainValue
      obtain ⟨fuel, rfl⟩ : ∃ n, fuel = n + 1 := ⟨fuel - 1, by omega⟩
      cases others with
      | nil =>
          rw [texts, List.map_singleton, charsMembers] at hfuel ⊢
          simp only [List.length_append, List.length_cons] at hfuel
          rw [takeMembers?_member hplainValue hvalue _ (by omega),
            skip_of_head (c := '\x7d') (by decide)]
          rfl
      | cons next others =>
          have hcons : charsMembers (texts ((name, value) :: next :: others))
              = renderText (some name) ++ ':' :: value.chars
                ++ ',' :: charsMembers (texts (next :: others)) := by
            rw [texts, List.map_cons, charsMembers]
            simp
          rw [hcons] at hfuel ⊢
          simp only [List.length_append, List.length_cons] at hfuel
          have hnext : takeMembers? fuel (charsMembers (texts (next :: others)) ++ '\x7d' :: rest)
              = some (texts (next :: others), rest) := ih (by simp) hplain hothers (by omega)
          have hskip : skip (charsMembers (texts (next :: others)) ++ '\x7d' :: rest)
              = charsMembers (texts (next :: others)) ++ '\x7d' :: rest := by
            obtain ⟨cs, hhead⟩ := exists_head_charsMembers (List.cons_ne_nil next others)
            rw [hhead, List.cons_append, skip_of_head (by decide)]
          rw [List.append_assoc, takeMembers?_member hplainValue hvalue _ (by omega),
            List.cons_append, skip_of_head (c := ',') (by decide)]
          simp only [hskip, hnext]
          rfl

/-! ## Values -/

lemma readable_str (s : String) : (str s).Readable := by
  intro fuel rest hfuel
  have htext : (str s).chars = '"' :: (s.toList.flatMap escape ++ ['"']) := rfl
  rw [htext, List.length_cons] at hfuel
  obtain ⟨fuel, rfl⟩ : ∃ n, fuel = n + 1 := ⟨fuel - 1, by omega⟩
  have hread := takeString?_renderString s rest
  rw [renderString, List.cons_append, List.cons_append] at hread
  rw [htext, List.cons_append, takeValue?, hread]
  rfl

/-- An array is read back when its items are. -/
lemma readable_array {items : List Json} (hplain : ∀ item ∈ items, item.Plain)
    (hread : ∀ item ∈ items, item.Readable) : (array items).Readable := by
  intro fuel rest hfuel
  have htext : (array items).chars = '[' :: (charsItems items ++ [']']) := by
    rw [chars]
    rfl
  rw [htext, List.length_cons, List.length_append, List.length_singleton] at hfuel
  obtain ⟨fuel, rfl⟩ : ∃ n, fuel = n + 1 := ⟨fuel - 1, by omega⟩
  rw [htext, List.cons_append, List.append_assoc, List.singleton_append, takeValue?]
  by_cases hne : items = []
  · subst hne
    rfl
  · obtain ⟨c, cs, hhead, hc, hend⟩ := exists_head_charsItems hne hplain
    have hitems : takeItems? fuel (charsItems items ++ ']' :: rest) = some (items, rest) :=
      takeItems?_charsItems hne hplain hread rest (by omega)
    rw [hhead, List.cons_append] at hitems ⊢
    rw [skip_of_head hc]
    split
    case h_1 heq => exact absurd (List.cons.inj heq).1 hend
    case h_2 =>
      rw [hitems]
      rfl

/-- An object is read back when the values of its members are. -/
lemma readable_obj {members : List (String × Json)} (hplain : ∀ member ∈ members, member.2.Plain)
    (hread : ∀ member ∈ members, member.2.Readable) : (obj members).Readable := by
  intro fuel rest hfuel
  have htext : (obj members).chars
      = '\x7b' :: (charsMembers (texts members) ++ ['\x7d']) := by
    rw [obj, chars]
    rfl
  rw [htext, List.length_cons, List.length_append, List.length_singleton] at hfuel
  obtain ⟨fuel, rfl⟩ : ∃ n, fuel = n + 1 := ⟨fuel - 1, by omega⟩
  rw [htext, List.cons_append, List.append_assoc, List.singleton_append, takeValue?]
  by_cases hne : members = []
  · subst hne
    rfl
  · obtain ⟨cs, hhead⟩ := exists_head_charsMembers hne
    have hmembers : takeMembers? fuel (charsMembers (texts members) ++ '\x7d' :: rest)
        = some (texts members, rest) :=
      takeMembers?_charsMembers hne hplain hread rest (by omega)
    rw [hhead, List.cons_append] at hmembers ⊢
    rw [skip_of_head (by decide)]
    split
    case h_1 heq => exact absurd (List.cons.inj heq).1 (by decide)
    case h_2 =>
      rw [hmembers]
      rfl

/-- **A plain value is read back from its text,** whatever comes after it. -/
theorem Plain.readable {j : Json} (h : j.Plain) : j.Readable := by
  induction h with
  | null =>
      intro fuel rest hfuel
      obtain ⟨fuel, rfl⟩ : ∃ n, fuel = n + 1 := ⟨fuel - 1, by simp [chars] at hfuel; omega⟩
      rfl
  | bool b =>
      intro fuel rest hfuel
      cases b <;>
        obtain ⟨fuel, rfl⟩ : ∃ n, fuel = n + 1 := ⟨fuel - 1, by simp [chars] at hfuel; omega⟩ <;>
        rfl
  | str s => exact readable_str s
  | array hitems ih => exact readable_array hitems ih
  | obj hmembers ih => exact readable_obj hmembers ih

/-- **A plain value is the value of its own text.** -/
theorem Plain.parse?_render {j : Json} (h : j.Plain) : parse? j.render = some j := by
  obtain ⟨c, cs, hhead, hc, -⟩ := h.exists_head
  have hskip : skip j.chars = j.chars := by rw [hhead, skip_of_head hc]
  have hread := h.readable (2 * j.chars.length + 2) [] (by omega)
  rw [List.append_nil] at hread
  simp only [parse?, render, String.toList_ofList, hskip, hread]
  rfl

end Ipam.Json
