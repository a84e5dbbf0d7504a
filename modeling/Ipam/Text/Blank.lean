/-!
# White space

Texts that people write by hand (address ranges, configuration maps, flags) are read with the white
space around them removed.  White space is the Unicode property `White_Space`.

* `isBlank` — membership in the property.
* `trim` — a list of characters without its blank ends.
* `trimmed` — the same on `String`.
* `nonEmpty` — an optional text that is not empty.
-/

namespace Ipam.Text

/-! ## The property -/

/-- The code points with the property `White_Space`, as closed intervals in increasing order. -/
def blankRanges : List (Nat × Nat) :=
  [(0x09, 0x0D), (0x20, 0x20), (0x85, 0x85), (0xA0, 0xA0), (0x1680, 0x1680), (0x2000, 0x200A),
    (0x2028, 0x2029), (0x202F, 0x202F), (0x205F, 0x205F), (0x3000, 0x3000)]

/-- Whether a character is white space. -/
def isBlank (c : Char) : Bool :=
  blankRanges.any fun interval => interval.1 ≤ c.toNat && c.toNat ≤ interval.2

/-! ## Trimming -/

/-- The text without the blanks at its start. -/
def trimStart (cs : List Char) : List Char :=
  cs.dropWhile isBlank

/-- The text without the blanks at its end. -/
def trimEnd (cs : List Char) : List Char :=
  (cs.reverse.dropWhile isBlank).reverse

/-- The text without the blanks at either end. -/
def trim (cs : List Char) : List Char :=
  trimEnd (trimStart cs)

/-- A string without the blanks at either end. -/
def trimmed (s : String) : String :=
  String.ofList (trim s.toList)

/-- An optional text, with the empty text read as none. -/
def nonEmpty (text : Option String) : Option String :=
  text.filter (· ≠ "")

/-! ## Laws -/

@[simp] theorem nonEmpty_nonEmpty (text : Option String) :
    nonEmpty (nonEmpty text) = nonEmpty text := by
  cases text <;> simp [nonEmpty, Option.filter]
  split <;> simp_all

/-- Every character that the core library calls white space is blank. -/
theorem isBlank_of_isWhitespace {c : Char} (h : c.isWhitespace = true) : isBlank c = true := by
  simp only [Char.isWhitespace, Bool.or_eq_true, decide_eq_true_eq] at h
  rcases h with ((rfl | rfl) | rfl) | rfl <;> decide

/-- A text whose ends are not blank is its own trimmed form. -/
theorem trimStart_of_head {c : Char} {cs : List Char} (h : isBlank c = false) :
    trimStart (c :: cs) = c :: cs := by
  simp [trimStart, h]

end Ipam.Text
