import Ipam.Binary64.Shortest
import Ipam.Json.Decode

/-!
# Values that are kept

Some members of an object hold any value at all and are written back.  Such a value is kept for what
it denotes, not for its spelling.

* `Json.depth` — how many arrays and objects lie within each other.
* `Json.keptNumber?` — a number as it is written back: a whole number of 64 bits exactly, any other
  as the number of binary64 that its digits give.
* `Json.kept?` — a value as it is written back.
-/

namespace Ipam.Json

open Text (digit? isDigit natOfDigits?)

/-! ## Depth -/

mutual

/-- The number of arrays and objects on the longest way into a value. -/
def depth : Json → Nat
  | .array items => depthItems items + 1
  | .object members => depthMembers members + 1
  | _ => 0

/-- The greatest depth of some items. -/
def depthItems : List Json → Nat
  | [] => 0
  | item :: rest => max (depth item) (depthItems rest)

/-- The greatest depth of the values of some members. -/
def depthMembers : List (Json.Text × Json) → Nat
  | [] => 0
  | (_, value) :: rest => max (depth value) (depthMembers rest)

end

/-- How many arrays and objects a reader enters before it gives up. -/
def maxDepth : Nat :=
  127

/-! ## Numbers -/

/-- The bound of natural numbers of 64 bits. -/
def wordLimit : Nat :=
  18446744073709551616

/-- Appends digits to a number as long as it fits 64 bits.  Answers the number and the digits that
are left. -/
def appendFitting (n : Nat) : List Char → Nat × List Char
  | [] => (n, [])
  | c :: rest =>
    match digit? c with
    | none => (n, c :: rest)
    | some d => if 10 * n + d < wordLimit then appendFitting (10 * n + d) rest else (n, c :: rest)

/-- The number after the mark of an exponent, zero when there is none. -/
def exponentOf : List Char → Int
  | _ :: '-' :: ds => -((natOfDigits? ds).getD 0 : Int)
  | _ :: '+' :: ds => (natOfDigits? ds).getD 0
  | _ :: ds => (natOfDigits? ds).getD 0
  | [] => 0

/-- A number as it is written back.  Of the digits those count that fit 64 bits; after them, digits
before the point count as places only, and digits behind it do not count. -/
def keptNumber? (spelling : String) : Option Json :=
  let cs := spelling.toList
  let negative := cs.head? == some '-'
  let cs := if negative then cs.drop 1 else cs
  let rest := cs.dropWhile isDigit
  let (n, places) := appendFitting 0 (cs.takeWhile isDigit)
  let isWhole := rest.isEmpty && places.isEmpty
  if isWhole && !negative then some (.nat n)
  else if isWhole && 0 < n && 2 * n ≤ wordLimit then some (.int (-n))
  else
    let isPointed := rest.head? == some '.'
    let fraction := if isPointed then (rest.drop 1).takeWhile isDigit else []
    let rest := if isPointed then (rest.drop 1).dropWhile isDigit else rest
    let (significand, unread) := appendFitting n fraction
    let exponent := places.length - (fraction.length - unread.length : Nat) + exponentOf rest
    (Binary64.ofDecimal? significand exponent).map fun x =>
      .number (String.ofList (if negative then '-' :: x.render else x.render))

/-! ## Values -/

mutual

/-- A value as it is written back.  Its texts must denote characters, its numbers must not be too
great, and of members with one name the last counts. -/
def kept? : Json → Option Json
  | .number spelling => keptNumber? spelling
  | .string text => text.map str
  | .array items => (keptItems? items).map .array
  | .object members => (keptMembers? members).map fun members => .obj (Table.ofList members).entries
  | value => some value

/-- The items of an array as they are written back. -/
def keptItems? : List Json → Option (List Json)
  | [] => some []
  | item :: rest => do return (← kept? item) :: (← keptItems? rest)

/-- The members of an object as they are written back. -/
def keptMembers? : List (Json.Text × Json) → Option (List (String × Json))
  | [] => some []
  | (name, value) :: rest => do return (← name, ← kept? value) :: (← keptMembers? rest)

end

end Ipam.Json
