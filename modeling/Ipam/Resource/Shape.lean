import Ipam.Json.Kept
import Ipam.Timestamp

/-!
# Shapes of metadata

The metadata of a cluster object is read strictly and written back without what it does not know.  A
`Shape` says which values are accepted; `Shape.normalise?` answers the value as it is written back.
-/

namespace Ipam

/-- The type of a value in the metadata of an object. -/
inductive Shape where
  | text
  /-- A whole number of 64 bits. -/
  | int
  | bool
  /-- A point in time, written without fractions of a second. -/
  | time
  /-- Any value. -/
  | any
  | list (item : Shape)
  /-- An object with values of one shape. -/
  | table (item : Shape)
  /-- An object with known members.  A member that is absent or `null` is left out, or written as an
  empty text if it is one of `always`. -/
  | record (always : List String) (members : List (String × Shape))

namespace Shape

/-- The value of a member that may occur repeatedly: every occurrence must be readable, the last one
counts, and `null` is none. -/
def readLast? {α : Type} (read : Json → Option α) (values : List (String × Json))
    (name : String) : Option (Option α) :=
  (values.filter (·.1 == name)).foldlM
    (fun _ member =>
      match member.2 with
      | .null => some none
      | value => (read value).map some)
    none

mutual

/-- A value as it is written back, or none if it has not the shape.  `levels` says how many arrays
and objects may lie within each other. -/
def normalise? (levels : Nat) (shape : Shape) (j : Json) : Option Json :=
  match shape with
  | .text => j.asString?.map Json.str
  | .int => j.asInt64?.map Json.int
  | .bool => j.asBool?.map Json.bool
  | .time => (j.asString? >>= Timestamp.parse?).map fun t => Json.str t.renderSeconds
  | .any => if j.depth ≤ levels then j.kept? else none
  | .list item => do
    return .array (← (← j.asArray?).mapM fun v => normalise? (levels - 1) item v)
  | .table item => do
    let table ← j.asTable? fun v => normalise? (levels - 1) item v
    return .obj table.entries
  | .record always members => do
    let values ← j.asMembers?
    return .obj (← normaliseMembers? (levels - 1) always members values)

/-- The members of a record as they are written back. -/
def normaliseMembers? (levels : Nat) (always : List String) (shapes : List (String × Shape))
    (values : List (String × Json)) : Option (List (String × Json)) :=
  match shapes with
  | [] => some []
  | (name, shape) :: shapes => do
    let rest ← normaliseMembers? levels always shapes values
    match ← readLast? (fun v => normalise? levels shape v) values name with
    | some value => return (name, value) :: rest
    | none => return if always.contains name then (name, .str "") :: rest else rest

end

/-! ## The metadata of an object -/

/-- A reference from an object to its owner. -/
def ownerReference : Shape :=
  .record ["apiVersion", "kind", "name", "uid"]
    [("apiVersion", .text), ("blockOwnerDeletion", .bool), ("controller", .bool), ("kind", .text),
      ("name", .text), ("uid", .text)]

/-- A note on who manages which fields of an object. -/
def managedFields : Shape :=
  .record []
    [("apiVersion", .text), ("fieldsType", .text), ("fieldsV1", .any), ("manager", .text),
      ("operation", .text), ("subresource", .text), ("time", .time)]

/-- The members of the metadata other than its names. -/
def metadataMembers : List (String × Shape) :=
  [("annotations", .table .text), ("creationTimestamp", .time),
    ("deletionGracePeriodSeconds", .int), ("deletionTimestamp", .time),
    ("finalizers", .list .text), ("generation", .int), ("labels", .table .text),
    ("managedFields", .list managedFields), ("ownerReferences", .list ownerReference),
    ("resourceVersion", .text), ("selfLink", .text), ("uid", .text)]

end Shape

end Ipam
