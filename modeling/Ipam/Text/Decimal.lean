/-!
# Decimal digits

* `natOfDigits?` — the number that a non-empty run of digits denotes, leading zeros allowed.
* `digits` — the digits of a number, most significant first and without leading zeros.
* `padded` — the digits of a number, filled with zeros on the left.
-/

namespace Ipam.Text

/-- The value of one decimal digit. -/
def digit? (c : Char) : Option Nat :=
  if '0' ≤ c ∧ c ≤ '9' then some (c.toNat - '0'.toNat) else none

/-- Whether a character is a decimal digit. -/
def isDigit (c : Char) : Bool :=
  (digit? c).isSome

/-- The number whose digits, most significant first, are appended to those of `acc`. -/
def natOfDigitsFrom? (acc : Nat) : List Char → Option Nat
  | [] => some acc
  | c :: rest => do natOfDigitsFrom? (10 * acc + (← digit? c)) rest

/-- The number that a non-empty run of digits denotes. -/
def natOfDigits? : List Char → Option Nat
  | [] => none
  | cs => natOfDigitsFrom? 0 cs

/-- The digits of a number. -/
def digits (n : Nat) : List Char :=
  Nat.toDigits 10 n

/-- The digits of a number, with zeros on the left up to `width`. -/
def padded (width n : Nat) : List Char :=
  let ds := digits n
  List.replicate (width - ds.length) '0' ++ ds

end Ipam.Text
