/-!
# Numbers of binary64

A number that is not a whole number of 64 bits is kept with 53 significant bits.  All numbers of
this format are whole multiples of the least positive one, `2 ^ -1074`, so arithmetic on them is
arithmetic on natural numbers, followed by one rounding.

* `Binary64` — a finite number without its sign.
* `Binary64.ofUnits?` — the nearest number to a quotient of units; of two equally near ones the one
  with the even significand, and none beyond the greatest number.
* `Binary64.mul?`, `Binary64.div?` — the rounded product and quotient.
* `Binary64.ofDecimal?` — the number of a significand and a power of ten.
-/

namespace Ipam

/-- A finite number: `significand * 2 ^ shift` units of `2 ^ -1074`.  The significand is below
`2 ^ 53`, and not below `2 ^ 52` unless `shift` is zero. -/
structure Binary64 where
  significand : Nat
  shift : Nat
deriving DecidableEq

namespace Binary64

/-- The number of units in one. -/
def one : Nat :=
  1 <<< 1074

/-- The bound of significands, `2 ^ 53`. -/
def significandLimit : Nat :=
  1 <<< 53

/-- The greatest shift of a finite number. -/
def maxShift : Nat :=
  2045

/-- The number as a multiple of the unit. -/
def units (x : Binary64) : Nat :=
  x.significand <<< x.shift

/-- Whether a number is zero. -/
def isZero (x : Binary64) : Bool :=
  x.significand == 0

/-- A quotient rounded to the nearest natural number, a half to the even one. -/
def roundDiv (num den : Nat) : Nat :=
  let quotient := num / den
  let rest := num % den
  if den < 2 * rest ∨ (2 * rest = den ∧ quotient % 2 = 1) then quotient + 1 else quotient

/-- The nearest number to `num / den` units. -/
def ofUnits? (num den : Nat) : Option Binary64 :=
  let shift := Nat.log2 (num / den) - 52
  let significand := roundDiv num (den <<< shift)
  let x : Binary64 :=
    if significand < significandLimit then ⟨significand, shift⟩ else ⟨significand / 2, shift + 1⟩
  if x.shift ≤ maxShift then some x else none

/-- The nearest number to a natural number. -/
def ofNat? (n : Nat) : Option Binary64 :=
  ofUnits? (n * one) 1

/-- The rounded product. -/
def mul? (x y : Binary64) : Option Binary64 :=
  ofUnits? (x.units * y.units) one

/-- The rounded quotient. -/
def div? (x y : Binary64) : Option Binary64 :=
  ofUnits? (x.units * one) y.units

/-! ## Decimal numbers -/

/-- The greatest power of ten that is a finite number. -/
def maxTenPower : Nat :=
  308

/-- A number divided by `10 ^ n`, in steps of at most the greatest power of ten. -/
def divTenPower? (x : Binary64) (n : Nat) : Option Binary64 :=
  if n ≤ maxTenPower then do x.div? (← ofNat? (Nat.pow 10 n))
  else if x.isZero then some x
  else do
    let x ← x.div? (← ofNat? (Nat.pow 10 maxTenPower))
    x.divTenPower? (n - maxTenPower)
termination_by n
decreasing_by simp only [maxTenPower] at *; omega

/-- A number multiplied by `10 ^ n`. -/
def mulTenPower? (x : Binary64) (n : Nat) : Option Binary64 :=
  if x.isZero then some x
  else if n ≤ maxTenPower then do x.mul? (← ofNat? (Nat.pow 10 n))
  else none

/-- The number `significand * 10 ^ exponent`.  Both factors are rounded before they are joined. -/
def ofDecimal? (significand : Nat) (exponent : Int) : Option Binary64 := do
  let x ← ofNat? significand
  if 0 ≤ exponent then x.mulTenPower? exponent.toNat else x.divTenPower? exponent.natAbs

end Binary64

end Ipam
