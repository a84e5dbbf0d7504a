import Ipam.Binary64
import Ipam.Text.Decimal

/-!
# Shortest decimal text

A number of binary64 is written with the fewest digits that no other number is nearer to.

* `Binary64.shortest` — those digits, as a number and a power of ten.
* `Binary64.render` — the text: positional from `0.00001` up to sixteen digits before the point, and
  with an exponent beyond.
-/

namespace Ipam.Binary64

/-! ## Digits -/

/-- The bounds of the interval of reals to which a number is the nearest, in quarters of a unit.
Below a power of two the next number is only half as far away as above it. -/
def bounds (x : Binary64) : Nat × Nat :=
  let gap := 1 <<< x.shift
  let isPowerOfTwo := x.significand * 2 == significandLimit && 0 < x.shift
  (4 * x.units - (if isPowerOfTwo then gap else 2 * gap), 4 * x.units + 2 * gap)

/-- The multiple of `10 ^ k` next to a number, if it lies in the interval of the number: the nearer
of two, and of two equally near ones the even one.  The ends of the interval belong to it when the
significand is even. -/
def onGrid? (x : Binary64) (k : Int) : Option Nat :=
  let step := 4 * one * Nat.pow 10 k.toNat
  let parts := Nat.pow 10 (-k).toNat
  let (low, high) := x.bounds
  let isInside (n : Nat) : Bool :=
    if x.significand % 2 = 0 then low * parts ≤ n * step && n * step ≤ high * parts
    else low * parts < n * step && n * step < high * parts
  let value := 4 * x.units * parts
  let nearest := roundDiv value step
  let below := value / step
  [nearest, below, below + 1].find? isInside

/-- The decimal `d * 10 ^ k` with the fewest digits in the interval of a number. -/
def shortest (x : Binary64) : Nat × Int :=
  let powers : List Int := (List.range 634).map fun n => 309 - Int.ofNat n
  (powers.findSome? fun k => (x.onGrid? k).map fun d => (d, k)).getD (0, 0)

/-! ## Layout -/

/-- The text of `d * 10 ^ k`.  `places` is the number of digits before the point. -/
def layout (d : Nat) (k : Int) : List Char :=
  let ds := Text.digits d
  let places : Int := ds.length + k
  if 0 ≤ k ∧ places ≤ 16 then ds ++ List.replicate k.toNat '0' ++ ['.', '0']
  else if 0 < places ∧ places ≤ 16 then ds.take places.toNat ++ '.' :: ds.drop places.toNat
  else if -5 < places ∧ places ≤ 0 then '0' :: '.' :: List.replicate (-places).toNat '0' ++ ds
  else
    let exponent := places - 1
    let mark := if exponent < 0 then ['e', '-'] else ['e']
    let fraction := if ds.length = 1 then [] else '.' :: ds.drop 1
    ds.take 1 ++ fraction ++ mark ++ Text.digits exponent.natAbs

/-- The text of a number, always with a point or an exponent. -/
def render (x : Binary64) : List Char :=
  if x.isZero then ['0', '.', '0']
  else
    let (d, k) := x.shortest
    layout d k

end Ipam.Binary64
