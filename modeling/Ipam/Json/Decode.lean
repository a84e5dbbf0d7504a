import Ipam.Json
import Ipam.Table
import Ipam.Text.Decimal

/-!
# Reading records and tables from JSON

* `Json.asTable?` — an object as a table; of repeated names the last counts.
* `Json.asRecord?` — an object or an array as the members of a record.  Unknown members are skipped
  and known ones may not be repeated.  An array gives the members in the order of their declaration.
* `Members.required?`, `Members.optional?`, `Members.orElse?` — one member: needed, optional with
  `null` for none, or with a value to use when it is left out.

All readers answer `none` for a value of another type.
-/

namespace Ipam

namespace Json

/-! ## Simple values -/

/-- A string that denotes characters. -/
def asString? : Json → Option String
  | .string text => text
  | _ => none

/-- A truth value. -/
def asBool? : Json → Option Bool
  | .bool b => some b
  | _ => none

/-- The items of an array. -/
def asArray? : Json → Option (List Json)
  | .array items => some items
  | _ => none

/-- A whole number, spelled without fraction and exponent, that is not a negative zero. -/
def asInt? : Json → Option Int
  | .number spelling =>
    match spelling.toList with
    | '-' :: cs => do
      let n ← Text.natOfDigits? cs
      if n = 0 then none else some (-(n : Int))
    | cs => (Text.natOfDigits? cs).map Int.ofNat
  | _ => none

/-- A whole number of 64 bits with sign. -/
def asInt64? (j : Json) : Option Int := do
  let n ← j.asInt?
  if -9223372036854775808 ≤ n ∧ n < 9223372036854775808 then some n else none

/-- The items of an array, each read by `item`. -/
def asList? {α : Type} (item : Json → Option α) (j : Json) : Option (List α) := do
  (← j.asArray?).mapM item

/-- The members of an object by name, in the order of the text. -/
def asMembers? : Json → Option (List (String × Json))
  | .object members => members.mapM fun (name, value) => return (← name, value)
  | _ => none

/-- An object as a table, each value read by `item`. -/
def asTable? {α : Type} (item : Json → Option α) (j : Json) : Option (Table α) := do
  let entries ← (← j.asMembers?).mapM fun (name, value) => return (name, ← item value)
  return Table.ofList entries

/-! ## Records -/

/-- The members of a record that a JSON value holds, by name. -/
structure Members where
  /-- The known members that are there, each once. -/
  entries : List (String × Json)

/-- The members of a record from an object: names that are not `known` are skipped, and a known name
may occur once. -/
def membersOfObject? (known : List String) (members : List (Json.Text × Json)) :
    Option Members := do
  let named ← Json.asMembers? (.object members)
  let kept := named.filter fun member => known.contains member.1
  if kept.map Prod.fst |>.Nodup then some ⟨kept⟩ else none

/-- Reads a record with the members `known`.  An array must have at least `least` items, those after
which every member may be left out, and no more items than there are members. -/
def asRecord? (known : List String) (least : Nat) : Json → Option Members
  | .object members => membersOfObject? known members
  | .array items =>
    if least ≤ items.length ∧ items.length ≤ known.length then
      some ⟨known.zip items⟩
    else
      none
  | _ => none

/-- Reads a record that is never written as an array. -/
def asObjectRecord? (known : List String) : Json → Option Members
  | .object members => membersOfObject? known members
  | _ => none

namespace Members

variable {α : Type}

/-- The value of a member, when it is there. -/
def get? (ms : Members) (name : String) : Option Json :=
  ms.entries.lookup name

/-- A member that must be there. -/
def required? (ms : Members) (name : String) (item : Json → Option α) : Option α :=
  ms.get? name >>= item

/-- A member that may be left out or be `null`. -/
def optional? (ms : Members) (name : String) (item : Json → Option α) : Option (Option α) :=
  match ms.get? name with
  | none => some none
  | some .null => some none
  | some value => (item value).map some

/-- A member that may be left out and then has the value `fallback`. -/
def orElse? (ms : Members) (name : String) (fallback : α) (item : Json → Option α) : Option α :=
  match ms.get? name with
  | none => some fallback
  | some value => item value

end Members

end Json

end Ipam
