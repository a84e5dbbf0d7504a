import Ipam.Proofs.Text
import Mathlib.Data.List.TakeWhile

/-!
# Texts and their pieces, as relations

Cutting and trimming are functions; that a text may have been put together from its pieces is a
relation.  Each of the readers of texts is determined by its relation, so that what a text means can
be said without the way in which it is read.

* `Text.Cuts` — pieces that a separator joins to a text; **`Text.splitOn_eq_iff`**.
* `Text.splitOnce_eq_some_iff`, `Text.splitOnce_eq_none_iff` — the first separator of a text.
* `Text.Trims` — a text with white space around a piece; **`Text.trim_eq_iff`**.
* `Text.Numeral` — the digits of a number after some zeros; **`Text.natOfDigits?_eq_some_iff`**.
-/

namespace Ipam.Text

variable {separator : Char} {text piece before after : List Char} {pieces : List (List Char)}

/-! ## Separators -/

/-- A separator joins some pieces, none of which holds it, to a text. -/
structure Cuts (separator : Char) (text : List Char) (pieces : List (List Char)) : Prop where
  /-- There is at least one piece, which may be empty. -/
  ne_nil : pieces ≠ []
  joined : List.intercalate [separator] pieces = text
  free : ∀ piece ∈ pieces, separator ∉ piece

lemma splitOn_cons_of_ne {c : Char} (h : c ≠ separator) (rest : List Char) :
    ∃ first others, splitOn separator rest = first :: others ∧
      splitOn separator (c :: rest) = (c :: first) :: others := by
  obtain ⟨first, others, hrest⟩ := List.exists_cons_of_ne_nil (splitOn_ne_nil separator rest)
  refine ⟨first, others, hrest, ?_⟩
  rw [splitOn, if_neg h, hrest]

lemma cuts_splitOn (separator : Char) (text : List Char) :
    Cuts separator text (splitOn separator text) := by
  refine ⟨splitOn_ne_nil separator text, ?_, ?_⟩
  · induction text with
    | nil => rfl
    | cons c rest ih =>
        by_cases h : c = separator
        · rw [splitOn, if_pos h, List.intercalate_cons_of_ne_nil (splitOn_ne_nil separator rest), ih,
            h]
          rfl
        · obtain ⟨first, others, hrest, hsplit⟩ := splitOn_cons_of_ne h rest
          rw [hrest] at ih
          rw [hsplit, ← ih]
          cases others <;> simp [List.intercalate]
  · induction text with
    | nil => simp [splitOn]
    | cons c rest ih =>
        by_cases h : c = separator
        · rw [splitOn, if_pos h]
          exact List.forall_mem_cons.2 ⟨List.not_mem_nil, ih⟩
        · obtain ⟨first, others, hrest, hsplit⟩ := splitOn_cons_of_ne h rest
          rw [hrest] at ih
          obtain ⟨hfirst, hothers⟩ := List.forall_mem_cons.1 ih
          rw [hsplit]
          refine List.forall_mem_cons.2 ⟨?_, hothers⟩
          rw [List.mem_cons, not_or]
          exact ⟨Ne.symm h, hfirst⟩

/-- There is one piece more than there are separators. -/
lemma Cuts.length_eq (h : Cuts separator text pieces) :
    pieces.length = text.count separator + 1 := by
  obtain ⟨hne, rfl, hfree⟩ := h
  induction pieces with
  | nil => exact absurd rfl hne
  | cons piece pieces ih =>
      obtain ⟨hpiece, hpieces⟩ := List.forall_mem_cons.1 hfree
      cases pieces with
      | nil => simp [List.count_eq_zero.2 hpiece]
      | cons next pieces =>
          rw [List.length_cons, ih (List.cons_ne_nil _ _) hpieces, List.intercalate_cons_cons]
          simp [List.count_eq_zero.2 hpiece]

lemma Cuts.splitOn_eq (h : Cuts separator text pieces) : splitOn separator text = pieces := by
  rw [← h.joined, splitOn_intercalate h.ne_nil h.free]

/-- **The pieces of a text are those that the separator joins to it.** -/
theorem splitOn_eq_iff : splitOn separator text = pieces ↔ Cuts separator text pieces :=
  ⟨fun h => h ▸ cuts_splitOn separator text, Cuts.splitOn_eq⟩

lemma splitOnce_eq_none_iff : splitOnce separator text = none ↔ separator ∉ text := by
  induction text with
  | nil => simp [splitOnce]
  | cons c rest ih =>
      rw [splitOnce, List.mem_cons, not_or]
      split_ifs with h
      · simp [h]
      · rw [Option.map_eq_none_iff, ih]
        exact ⟨fun hrest => ⟨Ne.symm h, hrest⟩, fun hboth => hboth.2⟩

lemma not_mem_of_splitOnce (h : splitOnce separator text = some (before, after)) :
    separator ∉ before := by
  induction text generalizing before with
  | nil => cases h
  | cons c rest ih =>
      rw [splitOnce] at h
      split_ifs at h with heq
      · cases h
        exact List.not_mem_nil
      · obtain ⟨⟨before', after'⟩, hrest, hpair⟩ := Option.map_eq_some_iff.1 h
        cases hpair
        rw [List.mem_cons, not_or]
        exact ⟨Ne.symm heq, ih hrest⟩

/-- A text is cut once at the first separator. -/
lemma splitOnce_eq_some_iff : splitOnce separator text = some (before, after) ↔
    separator ∉ before ∧ text = before ++ separator :: after := by
  constructor
  · exact fun h => ⟨not_mem_of_splitOnce h, eq_append_of_splitOnce h⟩
  · rintro ⟨hbefore, rfl⟩
    exact splitOnce_append hbefore after

/-! ## White space -/

/-- White space around a piece that neither starts nor ends with any. -/
structure Trims (text piece : List Char) : Prop where
  around : ∃ before after, text = before ++ piece ++ after ∧
    (∀ c ∈ before, isBlank c = true) ∧ ∀ c ∈ after, isBlank c = true
  first : ∀ c ∈ piece.head?, isBlank c = false
  last : ∀ c ∈ piece.getLast?, isBlank c = false

/-- Blanks are dropped up to the first character that is none. -/
lemma dropWhile_isBlank_append (hbefore : ∀ c ∈ before, isBlank c = true)
    (hpiece : ∀ c ∈ piece.head?, isBlank c = false) :
    (before ++ piece).dropWhile isBlank = piece := by
  rw [List.dropWhile_append_of_pos hbefore]
  cases piece with
  | nil => rfl
  | cons c rest => exact List.dropWhile_cons_of_neg (by simp [hpiece c rfl])

lemma head?_dropWhile_isBlank (text : List Char) :
    ∀ c ∈ (text.dropWhile isBlank).head?, isBlank c = false := by
  intro c hc
  have hnot := List.head?_dropWhile_not isBlank text
  rw [Option.mem_def.1 hc] at hnot
  simpa using hnot

lemma Trims.trim_eq (h : Trims text piece) : trim text = piece := by
  obtain ⟨⟨before, after, rfl, hbefore, hafter⟩, hfirst, hlast⟩ := h
  rw [trim, trimStart, trimEnd, List.append_assoc, List.dropWhile_append_of_pos hbefore]
  cases piece with
  | nil =>
      have hnil : after.dropWhile isBlank = [] := List.dropWhile_eq_nil_iff.2 hafter
      rw [List.nil_append, hnil]
      rfl
  | cons c rest =>
      have hstart : (c :: rest ++ after).dropWhile isBlank = c :: rest ++ after :=
        List.dropWhile_cons_of_neg (by simp [hfirst c rfl])
      have hend : ((c :: rest ++ after).reverse).dropWhile isBlank = (c :: rest).reverse := by
        rw [List.reverse_append]
        refine dropWhile_isBlank_append (fun d hd => hafter d (List.mem_reverse.1 hd)) ?_
        rwa [List.head?_reverse]
      rw [hstart, hend, List.reverse_reverse]

lemma trims_trim (text : List Char) : Trims text (trim text) := by
  have hsuffix := List.takeWhile_append_dropWhile (p := isBlank) (l := text)
  set rest := text.dropWhile isBlank with hrest
  have hprefix := List.takeWhile_append_dropWhile (p := isBlank) (l := rest.reverse)
  have htrim : trim text = (rest.reverse.dropWhile isBlank).reverse := rfl
  have hsplit : rest = trim text ++ (rest.reverse.takeWhile isBlank).reverse := by
    rw [htrim, ← List.reverse_append, hprefix, List.reverse_reverse]
  refine ⟨⟨text.takeWhile isBlank, (rest.reverse.takeWhile isBlank).reverse, ?_, ?_, ?_⟩, ?_, ?_⟩
  · rw [List.append_assoc, ← hsplit, hsuffix]
  · exact fun c hc => List.mem_takeWhile_imp hc
  · exact fun c hc => List.mem_takeWhile_imp (List.mem_reverse.1 hc)
  · intro c hc
    refine head?_dropWhile_isBlank text c ?_
    rw [← hrest, hsplit, List.head?_append, Option.mem_def.1 hc]
    rfl
  · intro c hc
    rw [htrim, List.getLast?_reverse] at hc
    exact head?_dropWhile_isBlank rest.reverse c hc

/-- **The trimmed form of a text is the piece between the white space around it.** -/
theorem trim_eq_iff : trim text = piece ↔ Trims text piece :=
  ⟨fun h => h ▸ trims_trim text, Trims.trim_eq⟩

/-! ## Numerals -/

/-- The digits of a number, after zeros that fill up to a number of places at most. -/
structure Numeral (places : Nat) (text : List Char) (n : Nat) : Prop where
  length_le : text.length ≤ places
  zeros : ∃ count, text = List.replicate count '0' ++ digits n

lemma digits_digit {c : Char} {n : Nat} (h : digit? c = some n) : n < 10 ∧ digits n = [c] := by
  rw [digit?] at h
  split_ifs at h with hc
  obtain rfl := Option.some.inj h
  have hlo : 48 ≤ c.toNat := hc.1
  have hhi : c.toNat ≤ 57 := hc.2
  have hzero : '0'.toNat = 48 := rfl
  have hlt : c.toNat - '0'.toNat < 10 := by omega
  refine ⟨hlt, ?_⟩
  rw [digits, Nat.toDigits_of_lt_base hlt, List.singleton_inj, ← Char.toNat_inj,
    Nat.toNat_digitChar_of_lt_ten hlt]
  omega

/-- Digits that are read after those of a positive number are appended to them. -/
lemma digits_of_natOfDigitsFrom? {cs : List Char} : ∀ {acc n : Nat}, 0 < acc →
    natOfDigitsFrom? acc cs = some n → digits n = digits acc ++ cs := by
  induction cs with
  | nil =>
      intro acc n _ h
      cases h
      rw [List.append_nil]
  | cons c rest ih =>
      intro acc n hacc h
      rw [natOfDigitsFrom?] at h
      obtain ⟨d, hd, hrest⟩ := Option.bind_eq_some_iff.1 h
      obtain ⟨hlt, hdigit⟩ := digits_digit hd
      rw [ih (by omega) hrest, digits, ← Nat.toDigits_append_toDigits (by omega) hacc hlt]
      change _ ++ digits d ++ rest = _
      rw [hdigit, List.append_assoc]
      rfl

/-- **What is read as a number are its digits after some zeros.** -/
theorem natOfDigits?_eq_some_iff {cs : List Char} {n : Nat} :
    natOfDigits? cs = some n ↔ ∃ count, cs = List.replicate count '0' ++ digits n := by
  constructor
  · intro h
    induction cs with
    | nil => cases h
    | cons c rest ih =>
        obtain ⟨d, hd, hrest⟩ := Option.bind_eq_some_iff.1 h
        obtain ⟨-, hdigit⟩ := digits_digit hd
        rw [Nat.mul_zero, Nat.zero_add] at hrest
        rcases Nat.eq_zero_or_pos d with rfl | hpos
        · obtain rfl : c = '0' := (List.singleton_inj.1 hdigit).symm
          cases rest with
          | nil =>
              cases hrest
              exact ⟨0, rfl⟩
          | cons next rest =>
              obtain ⟨count, hcount⟩ := ih hrest
              exact ⟨count + 1, by rw [hcount, List.replicate_succ, List.cons_append]⟩
        · refine ⟨0, ?_⟩
          rw [List.replicate_zero, List.nil_append, digits_of_natOfDigitsFrom? hpos hrest, hdigit]
          rfl
  · rintro ⟨count, rfl⟩
    exact natOfDigits?_zeros_append count n

lemma Numeral.isDigit {places n : Nat} (h : Numeral places text n) :
    ∀ c ∈ text, c.isDigit = true :=
  isDigit_of_natOfDigits? (natOfDigits?_eq_some_iff.2 h.zeros)

end Ipam.Text
