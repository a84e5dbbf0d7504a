import Ipam.Text.Blank
import Ipam.Text.Decimal
import Ipam.Text.Split
import Mathlib.Tactic

/-!
# Numbers and pieces of text

* **`Text.natOfDigits?_digits`** — a number is read back from its digits, hence
  `Text.digits_injective`.
* `Text.isDigit_of_natOfDigits?` — and only digits are read as a number.
* `Text.natOfDigits?_zeros_append`, `Text.natOfDigits?_append_zeros` — a number with zeros before or
  after its digits.
* `Text.splitOn_append`, `Text.splitOn_intercalate` — pieces without the separator are cut off again.
* `Text.mem_splitOn`, `Text.eq_append_of_splitOnce` — the pieces make up the whole text.
* `Text.trim_of_visible` — a text without white space is its own trimmed form.
-/

namespace Ipam.Text

/-! ## Digits -/

lemma mem_digits {n : Nat} {c : Char} (h : c ∈ digits n) : c.isDigit = true :=
  Nat.isDigit_of_mem_toDigits (by omega) (by omega) h

/-- A character that is no digit separates numbers. -/
lemma not_mem_digits (n : Nat) {c : Char} (h : c.isDigit = false) : c ∉ digits n := by
  intro hmem
  rw [mem_digits hmem] at h
  cases h

lemma digit?_of_isDigit {c : Char} (h : c.isDigit = true) :
    digit? c = some (c.toNat - '0'.toNat) := by
  rw [Char.isDigit, Bool.and_eq_true, decide_eq_true_eq, decide_eq_true_eq] at h
  exact if_pos h

lemma natOfDigitsFrom?_eq {cs : List Char} (h : ∀ c ∈ cs, c.isDigit = true) (acc : Nat) :
    natOfDigitsFrom? acc cs = some (Nat.ofDigitChars 10 cs acc) := by
  induction cs generalizing acc with
  | nil => rfl
  | cons c rest ih =>
      obtain ⟨hc, hrest⟩ := List.forall_mem_cons.1 h
      simp [natOfDigitsFrom?, digit?_of_isDigit hc, Nat.ofDigitChars_cons, ih hrest]

/-- **A number is read back from its digits.** -/
theorem natOfDigits?_digits (n : Nat) : natOfDigits? (digits n) = some n := by
  have hread := natOfDigitsFrom?_eq (fun c => mem_digits (n := n) (c := c)) 0
  rw [digits, Nat.ofDigitChars_ten_toDigits] at hread
  rw [natOfDigits?, digits]
  · exact hread
  · exact Nat.toDigits_ne_nil

lemma digits_injective : Function.Injective digits := by
  intro m n h
  have hread := natOfDigits?_digits m
  rw [h, natOfDigits?_digits] at hread
  exact (Option.some.inj hread).symm

lemma toList_toString (n : Nat) : (toString n).toList = digits n :=
  Nat.toList_repr

lemma isDigit_of_digit? {c : Char} {n : Nat} (h : digit? c = some n) : c.isDigit = true := by
  rw [digit?] at h
  split_ifs at h with hc
  rw [Char.isDigit, Bool.and_eq_true, decide_eq_true_eq, decide_eq_true_eq]
  exact hc

lemma isDigit_of_natOfDigitsFrom? {cs : List Char} : ∀ {acc n : Nat},
    natOfDigitsFrom? acc cs = some n → ∀ c ∈ cs, c.isDigit = true := by
  induction cs with
  | nil => simp
  | cons c rest ih =>
      intro acc n h
      rw [natOfDigitsFrom?] at h
      obtain ⟨d, hd, hrest⟩ := Option.bind_eq_some_iff.1 h
      exact List.forall_mem_cons.2 ⟨isDigit_of_digit? hd, ih hrest⟩

/-- Only digits are read as a number. -/
lemma isDigit_of_natOfDigits? {cs : List Char} {n : Nat} (h : natOfDigits? cs = some n) :
    ∀ c ∈ cs, c.isDigit = true := by
  cases cs with
  | nil => simp
  | cons c rest => exact isDigit_of_natOfDigitsFrom? h

lemma isDigit_eq (c : Char) : isDigit c = c.isDigit := by
  by_cases h : c.isDigit = true
  · rw [isDigit, digit?_of_isDigit h, h]
    rfl
  · cases hc : digit? c with
    | none =>
        rw [isDigit, hc]
        simpa using h
    | some n => exact absurd (isDigit_of_digit? hc) h

/-! ## Padded numbers -/

lemma natOfDigitsFrom?_append (acc : Nat) (cs rest : List Char) :
    natOfDigitsFrom? acc (cs ++ rest)
      = (natOfDigitsFrom? acc cs).bind fun n => natOfDigitsFrom? n rest := by
  induction cs generalizing acc with
  | nil => rfl
  | cons c cs ih =>
      rw [List.cons_append, natOfDigitsFrom?, natOfDigitsFrom?]
      cases digit? c with
      | none => rfl
      | some d => exact ih _

lemma natOfDigits?_of_ne_nil {cs : List Char} (h : cs ≠ []) :
    natOfDigits? cs = natOfDigitsFrom? 0 cs := by
  cases cs with
  | nil => exact absurd rfl h
  | cons c cs => rfl

lemma natOfDigitsFrom?_zeros (acc count : Nat) :
    natOfDigitsFrom? acc (List.replicate count '0') = some (acc * 10 ^ count) := by
  induction count generalizing acc with
  | zero => simp [natOfDigitsFrom?]
  | succ count ih =>
      rw [List.replicate_succ, natOfDigitsFrom?]
      have hzero : digit? '0' = some 0 := rfl
      simp only [hzero, Option.bind_eq_bind, Option.bind_some, ih]
      ring_nf

/-- Zeros after the digits of a number multiply it. -/
lemma natOfDigits?_append_zeros {cs : List Char} {n : Nat} (h : natOfDigits? cs = some n)
    (count : Nat) : natOfDigits? (cs ++ List.replicate count '0') = some (n * 10 ^ count) := by
  have hne : cs ≠ [] := by
    rintro rfl
    cases h
  rw [natOfDigits?_of_ne_nil hne] at h
  rw [natOfDigits?_of_ne_nil (by simp [hne]), natOfDigitsFrom?_append, h]
  exact natOfDigitsFrom?_zeros ..

lemma digits_ne_nil (n : Nat) : digits n ≠ [] :=
  Nat.toDigits_ne_nil

/-- Zeros before the digits of a number do not change it. -/
lemma natOfDigits?_zeros_append (count n : Nat) :
    natOfDigits? (List.replicate count '0' ++ digits n) = some n := by
  have hread := natOfDigits?_digits n
  rw [natOfDigits?_of_ne_nil (digits_ne_nil n)] at hread
  rw [natOfDigits?_of_ne_nil (by simp [digits_ne_nil]), natOfDigitsFrom?_append,
    natOfDigitsFrom?_zeros, Option.bind_some, Nat.zero_mul, hread]

lemma natOfDigits?_padded (width n : Nat) : natOfDigits? (padded width n) = some n :=
  natOfDigits?_zeros_append _ n

lemma length_padded {width n : Nat} (hwidth : 0 < width) (h : n < 10 ^ width) :
    (padded width n).length = width := by
  have hlength : (digits n).length ≤ width := Nat.toDigits_length 10 n width hwidth h
  rw [padded, List.length_append, List.length_replicate]
  omega

lemma isDigit_of_mem_padded {width n : Nat} {c : Char} (h : c ∈ padded width n) :
    c.isDigit = true :=
  isDigit_of_natOfDigits? (natOfDigits?_padded width n) c h

/-- A padded number starts with a digit. -/
lemma exists_head_padded (width n : Nat) :
    ∃ c cs, padded width n = c :: cs ∧ c.isDigit = true := by
  obtain ⟨c, cs, hhead⟩ : ∃ c cs, padded width n = c :: cs :=
    List.exists_cons_of_ne_nil (by simp [padded, digits_ne_nil])
  exact ⟨c, cs, hhead, isDigit_of_mem_padded (hhead ▸ List.mem_cons_self)⟩

/-! ## Pieces -/

/-- The first piece of a text ends at the first separator. -/
lemma splitOn_append {separator : Char} {piece : List Char} (h : separator ∉ piece)
    (rest : List Char) :
    splitOn separator (piece ++ separator :: rest) = piece :: splitOn separator rest := by
  induction piece with
  | nil => simp [splitOn]
  | cons c cs ih =>
      simp only [List.mem_cons, not_or] at h
      simp [splitOn, Ne.symm h.1, ih h.2]

/-- Cutting undoes joining around a separator that no piece holds. -/
lemma splitOn_intercalate {separator : Char} {pieces : List (List Char)} (hne : pieces ≠ [])
    (hfree : ∀ piece ∈ pieces, separator ∉ piece) :
    splitOn separator (List.intercalate [separator] pieces) = pieces := by
  induction pieces with
  | nil => exact absurd rfl hne
  | cons piece pieces ih =>
      obtain ⟨hpiece, hpieces⟩ := List.forall_mem_cons.1 hfree
      cases pieces with
      | nil => rw [List.intercalate_singleton, splitOn_of_notMem hpiece]
      | cons next pieces =>
          have hrest := ih (List.cons_ne_nil _ _) hpieces
          rw [List.intercalate_cons_cons, List.append_assoc, List.singleton_append,
            splitOn_append hpiece, hrest]

/-- Every character of a text is a separator or in one of the pieces. -/
lemma mem_splitOn {cs : List Char} {c : Char} (separator : Char) (h : c ∈ cs) :
    c = separator ∨ ∃ piece ∈ splitOn separator cs, c ∈ piece := by
  induction cs with
  | nil => cases h
  | cons d rest ih =>
      rw [splitOn]
      rcases List.mem_cons.1 h with rfl | hmem
      · split_ifs with heq
        · exact .inl heq
        · right
          cases splitOn separator rest with
          | nil => exact ⟨[c], List.mem_cons_self, List.mem_cons_self⟩
          | cons piece pieces => exact ⟨c :: piece, List.mem_cons_self, List.mem_cons_self⟩
      · refine (ih hmem).imp_right ?_
        rintro ⟨piece, hpiece, hc⟩
        split_ifs
        · exact ⟨piece, List.mem_cons_of_mem _ hpiece, hc⟩
        · cases hsplit : splitOn separator rest with
          | nil =>
              rw [hsplit] at hpiece
              cases hpiece
          | cons first pieces =>
              rw [hsplit] at hpiece
              rcases List.mem_cons.1 hpiece with rfl | hpiece
              · exact ⟨d :: piece, List.mem_cons_self, List.mem_cons_of_mem _ hc⟩
              · exact ⟨piece, List.mem_cons_of_mem _ hpiece, hc⟩

/-- Joining undoes cutting once. -/
lemma eq_append_of_splitOnce {separator : Char} {cs before after : List Char}
    (h : splitOnce separator cs = some (before, after)) : cs = before ++ separator :: after := by
  induction cs generalizing before with
  | nil => cases h
  | cons c rest ih =>
      rw [splitOnce] at h
      split_ifs at h with heq
      · cases h
        rw [heq, List.nil_append]
      · obtain ⟨⟨before', after'⟩, hrest, hpair⟩ := Option.map_eq_some_iff.1 h
        cases hpair
        rw [ih hrest, List.cons_append]

/-! ## White space -/

lemma trimStart_of_visible {cs : List Char} (h : ∀ c ∈ cs, isBlank c = false) :
    trimStart cs = cs := by
  cases cs with
  | nil => rfl
  | cons c cs => exact trimStart_of_head (h c List.mem_cons_self)

/-- A text without white space is its own trimmed form. -/
lemma trim_of_visible {cs : List Char} (h : ∀ c ∈ cs, isBlank c = false) : trim cs = cs := by
  have hreverse : trimStart cs.reverse = cs.reverse :=
    trimStart_of_visible fun c hc => h c (List.mem_reverse.1 hc)
  rw [trim, trimStart_of_visible h, trimEnd]
  exact (congrArg List.reverse hreverse).trans cs.reverse_reverse

lemma isBlank_of_isDigit {c : Char} (h : c.isDigit = true) : isBlank c = false := by
  rw [Char.isDigit, Bool.and_eq_true, decide_eq_true_eq, decide_eq_true_eq] at h
  have hlo : 48 ≤ c.toNat := h.1
  have hhi : c.toNat ≤ 57 := h.2
  simp only [isBlank, blankRanges, List.any_cons, List.any_nil, Bool.or_false, Bool.or_eq_false_iff,
    Bool.and_eq_false_iff, decide_eq_false_iff_not]
  omega

/-- White space is not looked for in front of a padded number. -/
lemma trimStart_padded (width n : Nat) (rest : List Char) :
    trimStart (padded width n ++ rest) = padded width n ++ rest := by
  obtain ⟨c, cs, hhead, hc⟩ := exists_head_padded width n
  rw [hhead, List.cons_append, trimStart_of_head (isBlank_of_isDigit hc)]

end Ipam.Text
