import Ipam.Text.Percent
import Mathlib.Tactic

/-!
# Reading back percent encoding

What a written form may look like is said by a rule that leaves open how it is computed, and even
in which case the digits of an escape are written.  All that follows comes from the rule.

* `Text.Unreserved` — letters, digits and four marks, which stand for themselves.
* `Text.Escapes`, `Text.Encodes` — the written forms of a byte and of a text;
  **`Text.encodes_encodePercent`**.
* `Text.Encodes.mem` — nothing but unreserved characters and percent signs is written.
* **`Text.Encodes.decodePercent?_eq`** — a text is read back from each of its written forms.
-/

namespace Ipam.Text

variable {b : UInt8} {piece cs : List Char} {s : String}

/-! ## The rule -/

/-- A character that stands for itself: an ASCII letter, a digit or one of four marks. -/
def Unreserved (c : Char) : Prop :=
  ('A' ≤ c ∧ c ≤ 'Z') ∨ ('a' ≤ c ∧ c ≤ 'z') ∨ ('0' ≤ c ∧ c ≤ '9') ∨ c ∈ ['-', '_', '.', '~']

instance : DecidablePred Unreserved :=
  fun _ => inferInstanceAs (Decidable (_ ∨ _))

lemma Unreserved.toNat_lt {c : Char} (h : Unreserved c) : c.toNat < 128 := by
  have hle : ∀ {d : Char}, c ≤ d → c.toNat ≤ d.toNat := fun hd => hd
  rcases h with h | h | h | h
  · exact Nat.lt_of_le_of_lt (hle h.2) (by decide)
  · exact Nat.lt_of_le_of_lt (hle h.2) (by decide)
  · exact Nat.lt_of_le_of_lt (hle h.2) (by decide)
  · fin_cases h <;> decide

/-- A byte in written form: the unreserved character with its number or, if there is none, a percent
sign and the two hexadecimal digits of the byte. -/
inductive Escapes : List Char → UInt8 → Prop
  | plain {c : Char} {b : UInt8} (h : Unreserved c) (hc : c.toNat = b.toNat) : Escapes [c] b
  | escaped {high low : Char} {b : UInt8} (h : ∀ c, Unreserved c → c.toNat ≠ b.toNat)
      (hhigh : hexValue? high = some (b.toNat / 16)) (hlow : hexValue? low = some (b.toNat % 16)) :
      Escapes ['%', high, low] b

/-- A text in written form: its UTF-8 bytes in written form, one after the other. -/
def Encodes (cs : List Char) (s : String) : Prop :=
  ∃ pieces, cs = pieces.flatten ∧ List.Forall₂ Escapes pieces s.toUTF8.toList

/-! ## Writing -/

/-- The test on bytes finds the unreserved characters. -/
lemma isUnreserved_iff : isUnreserved b = true ↔ Unreserved (Char.ofNat b.toNat) := by
  have hall : ∀ n < 256, isUnreserved (UInt8.ofNat n) = true ↔ Unreserved (Char.ofNat n) := by
    decide +kernel
  have hbyte := hall b.toNat b.toNat_lt
  rwa [UInt8.ofNat_toNat] at hbyte

lemma hexValue?_hexDigit {n : Nat} (h : n < 16) : hexValue? (hexDigit n) = some n := by
  have hall : ∀ n < 16, hexValue? (hexDigit n) = some n := by decide
  exact hall n h

lemma escapes_encodeByte (b : UInt8) : Escapes (encodeByte b) b := by
  have hlt : b.toNat < 256 := b.toNat_lt
  rw [encodeByte]
  split_ifs with h
  · have hall : ∀ n < 256, (Char.ofNat n).toNat = n := by decide +kernel
    exact .plain (isUnreserved_iff.1 h) (hall _ hlt)
  · refine .escaped (fun c hc hb => ?_) (hexValue?_hexDigit (by omega)) (hexValue?_hexDigit (by omega))
    rw [isUnreserved_iff, ← hb, Char.ofNat_toNat] at h
    exact h hc

/-- **The encoder follows the rule.** -/
theorem encodes_encodePercent (s : String) : Encodes (encodePercent s) s := by
  refine ⟨s.toUTF8.toList.map encodeByte, List.flatMap_def, ?_⟩
  rw [List.forall₂_map_left_iff]
  exact List.forall₂_same.2 fun b _ => escapes_encodeByte b

/-! ## What is written -/

lemma unreserved_of_hexValue? {c : Char} {n : Nat} (h : hexValue? c = some n) : Unreserved c := by
  rw [hexValue?] at h
  split_ifs at h with hdigit hupper hlower
  · exact .inr (.inr (.inl hdigit))
  · exact .inl ⟨hupper.1, Char.le_trans hupper.2 (by decide)⟩
  · exact .inr (.inl ⟨hlower.1, Char.le_trans hlower.2 (by decide)⟩)

lemma Escapes.mem (h : Escapes piece b) {c : Char} (hc : c ∈ piece) : Unreserved c ∨ c = '%' := by
  cases h with
  | plain h _ =>
      rw [List.mem_singleton.1 hc]
      exact .inl h
  | escaped _ hhigh hlow =>
      simp only [List.mem_cons, List.not_mem_nil, or_false] at hc
      rcases hc with rfl | rfl | rfl
      · exact .inr rfl
      · exact .inl (unreserved_of_hexValue? hhigh)
      · exact .inl (unreserved_of_hexValue? hlow)

/-- Nothing but unreserved characters and percent signs is written. -/
lemma Encodes.mem (h : Encodes cs s) {c : Char} (hc : c ∈ cs) : Unreserved c ∨ c = '%' := by
  obtain ⟨pieces, rfl, hpieces⟩ := h
  generalize s.toUTF8.toList = bytes at hpieces
  induction hpieces with
  | nil => cases hc
  | cons hpiece _ ih =>
      rw [List.flatten_cons] at hc
      exact (List.mem_append.1 hc).elim hpiece.mem ih

/-! ## Reading -/

lemma Escapes.decodeBytes?_append (h : Escapes piece b) (rest : List Char) :
    decodeBytes? (piece ++ rest) = (decodeBytes? rest).map (b :: ·) := by
  cases h with
  | @plain c _ h hc =>
      have hpercent : c ≠ '%' := by
        rintro rfl
        exact absurd h (by decide)
      have hascii : ¬ (c = '%' ∨ 0x80 ≤ c.toNat) :=
        not_or.2 ⟨hpercent, Nat.not_le.2 h.toNat_lt⟩
      rw [List.singleton_append, decodeBytes?]
      · rw [if_neg hascii, hc, UInt8.ofNat_toNat]
        cases decodeBytes? rest <;> rfl
      · exact fun _ _ _ heq => absurd heq hpercent
  | @escaped high low _ _ hhigh hlow =>
      have hbyte : UInt8.ofNat (16 * (b.toNat / 16) + b.toNat % 16) = b := by
        rw [Nat.div_add_mod, UInt8.ofNat_toNat]
      change decodeBytes? ('%' :: high :: low :: rest) = _
      rw [decodeBytes?, hhigh, hlow]
      simp only [Option.bind_eq_bind, Option.bind_some, hbyte]
      cases decodeBytes? rest <;> rfl

lemma decodeBytes?_flatten {pieces : List (List Char)} {bytes : List UInt8}
    (h : List.Forall₂ Escapes pieces bytes) : decodeBytes? pieces.flatten = some bytes := by
  induction h with
  | nil => rfl
  | cons hpiece _ ih => rw [List.flatten_cons, hpiece.decodeBytes?_append, ih, Option.map_some]

/-- The loop over the bytes of an array has collected those before its index, in reverse. -/
lemma toList_loop (bytes : ByteArray) (i : Nat) (found : List UInt8) :
    ByteArray.toList.loop bytes i found = found.reverse ++ bytes.data.toList.drop i := by
  fun_induction ByteArray.toList.loop bytes i found with
  | case1 i found hlt ih =>
      have hnext : bytes.get! i = bytes.data.toList[i] := getElem!_pos bytes.data i hlt
      rw [ih, List.drop_eq_getElem_cons hlt, hnext]
      simp
  | case2 i found hge =>
      rw [List.drop_eq_nil_of_le (Nat.le_of_not_lt hge), List.append_nil]

lemma mk_toList (bytes : ByteArray) : ByteArray.mk bytes.toList.toArray = bytes := by
  rw [ByteArray.toList, toList_loop, List.drop_zero]
  rfl

/-- **A text is read back from each of its written forms.** -/
theorem Encodes.decodePercent?_eq (h : Encodes cs s) : decodePercent? cs = some s := by
  obtain ⟨pieces, rfl, hpieces⟩ := h
  rw [decodePercent?, decodeBytes?_flatten hpieces, Option.bind_some]
  change String.fromUTF8? (ByteArray.mk s.toByteArray.toList.toArray) = some s
  rw [mk_toList, String.fromUTF8?, dif_pos s.isValidUTF8]
  rfl

end Ipam.Text
