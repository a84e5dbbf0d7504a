/-!
# Cutting a text at a separator

* `splitOn` — the pieces between all occurrences of a separator; there is always at least one.
* `splitOnce` — the two pieces around the first occurrence.
* `stripStart?`, `stripEnd?` — the text without a given character at one end.
-/

namespace Ipam.Text

/-- The pieces of a text between the occurrences of `separator`, in order. -/
def splitOn (separator : Char) : List Char → List (List Char)
  | [] => [[]]
  | c :: rest =>
    if c = separator then
      [] :: splitOn separator rest
    else
      match splitOn separator rest with
      | [] => [[c]]
      | piece :: pieces => (c :: piece) :: pieces

/-- The texts before and after the first occurrence of `separator`. -/
def splitOnce (separator : Char) : List Char → Option (List Char × List Char)
  | [] => none
  | c :: rest =>
    if c = separator then
      some ([], rest)
    else
      (splitOnce separator rest).map fun (before, after) => (c :: before, after)

/-- The text after its first character, when that is `c`. -/
def stripStart? (c : Char) : List Char → Option (List Char)
  | [] => none
  | d :: rest => if d = c then some rest else none

/-- The text before its last character, when that is `c`. -/
def stripEnd? (c : Char) (cs : List Char) : Option (List Char) :=
  (stripStart? c cs.reverse).map List.reverse

/-- The text after `lead`, when it starts with it. -/
def stripLead? : List Char → List Char → Option (List Char)
  | [], cs => some cs
  | _ :: _, [] => none
  | l :: lead, c :: cs => if l = c then stripLead? lead cs else none

/-! ## Laws -/

theorem splitOn_ne_nil (separator : Char) (cs : List Char) : splitOn separator cs ≠ [] := by
  induction cs with
  | nil => simp [splitOn]
  | cons c rest ih =>
    rw [splitOn]
    split
    · simp
    · split <;> simp

/-- A text without the separator is one piece. -/
theorem splitOn_of_notMem {separator : Char} {cs : List Char} (h : separator ∉ cs) :
    splitOn separator cs = [cs] := by
  induction cs with
  | nil => rfl
  | cons c rest ih =>
    simp only [List.mem_cons, not_or] at h
    simp [splitOn, Ne.symm h.1, ih h.2]

/-- Cutting once undoes joining around a separator that the first half does not hold. -/
theorem splitOnce_append {separator : Char} {before : List Char} (h : separator ∉ before)
    (after : List Char) :
    splitOnce separator (before ++ separator :: after) = some (before, after) := by
  induction before with
  | nil => simp [splitOnce]
  | cons c rest ih =>
    simp only [List.mem_cons, not_or] at h
    simp [splitOnce, Ne.symm h.1, ih h.2]

end Ipam.Text
