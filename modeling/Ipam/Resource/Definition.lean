import Ipam.Resource.Codec

/-!
# Definition of the resource

Before the cluster serves resources it is told what they are: their names, and a schema of their
members.

* `Schema` — what a value has to be, with what is said about it.
* `Schema.toJson` — a schema as the cluster reads it.
* `Resource.definition` — the definition of the resource.
-/

namespace Ipam

/-- What is said about a value besides its type. -/
structure Remark where
  description : Option String := none
  /-- Whether the value may be `null`. -/
  nullable : Bool := false
  /-- The value of an absent member. -/
  default : Option Json := none

/-- What a value has to be. -/
inductive Schema where
  | text (remark : Remark)
  /-- A text that names a point in time. -/
  | time (remark : Remark)
  | list (remark : Remark) (item : Schema)
  | record (remark : Remark) (members : List (String × Schema))

/-- The members that say what is said. -/
def Remark.members (r : Remark) : List (String × Json) :=
  Json.member? "description" (r.description.map Json.str)
    ++ Json.member? "default" r.default
    ++ Json.member? "nullable" (if r.nullable then some (.bool true) else none)

namespace Schema

mutual

/-- The members of a schema. -/
def members : Schema → List (String × Json)
  | .text r => r.members ++ [("type", .str "string")]
  | .time r => r.members ++ [("type", .str "string"), ("format", .str "date-time")]
  | .list r item => r.members ++ [("type", .str "array"), ("items", .obj item.members)]
  | .record r ms => r.members ++ [("type", .str "object"), ("properties", .obj (properties ms))]

/-- The schemas of named members. -/
def properties : List (String × Schema) → List (String × Json)
  | [] => []
  | (name, schema) :: rest => (name, .obj schema.members) :: properties rest

end

/-- A schema as the cluster reads it. -/
def toJson (s : Schema) : Json :=
  .obj s.members

end Schema

/-! ## The schema of the resource -/

/-- A text that may be absent. -/
def Schema.optionalText (description : Option String) : Schema :=
  .text { description, nullable := true }

/-- The schema of a request. -/
def Request.schema : Schema :=
  .record
    { description :=
        "A single requested binding.\n\n"
          ++ "Exactly one of \x60host\x60/\x60key\x60 names the binding; "
          ++ "\x60key\x60 is used for headless\n"
          ++ "bindings that never get a DNS record. The pool is \x60ipamLabel\x60 when set,\n"
          ++ "otherwise \x60cidr\x60." }
    [("host", .optionalText "DNS host name"),
      ("key", .optionalText "Opaque binding key"),
      ("cidr", .optionalText "Pool identified by CIDR (legacy form)"),
      ("ipamLabel", .optionalText "Pool identified by label")]

/-- The schema of the list of requests. -/
def Request.listSchema : Schema :=
  .record {}
    [("hostSpecs",
      .list { description := "Requested bindings", default := some (.array []) } Request.schema)]

/-- The schema of a record. -/
def Record.schema : Schema :=
  .record { description := "A recorded binding together with its allocated address." }
    [("host", .optionalText none), ("key", .optionalText none), ("cidr", .optionalText none),
      ("ipamLabel", .optionalText none),
      ("ip", .text { description := "Allocated IPv4 address", default := some (.str "") })]

/-- The schema of a status. -/
def Status.schema : Schema :=
  .record { nullable := true }
    [("ipStatus",
      .list
        { description := "Allocated bindings, written only by the controller"
          default := some (.array []) }
        Record.schema),
      ("lastUpdated",
        .time { description := "Last time the controller wrote this status", nullable := true })]

namespace Resource

/-- The schema of a resource.  Only the requests must be there. -/
def schema : Json :=
  let record : Schema :=
    .record
      { description := "Auto-generated derived type for IPAMSpec via \x60CustomResource\x60" }
      [("spec", Request.listSchema), ("status", Status.schema)]
  .obj (record.members ++ [("required", .array [.str "spec"]), ("title", .str kind)])

/-! ## The definition -/

/-- The names of the resource. -/
def names : Json :=
  .obj [("categories", .array []), ("kind", .str kind), ("plural", .str "ipams"),
    ("shortNames", .array [.str "ipam"]), ("singular", .str "ipam")]

/-- The only version of the resource; its status is written apart from the rest. -/
def version : Json :=
  .obj [("additionalPrinterColumns", .array []), ("name", .str "v1"),
    ("schema", .obj [("openAPIV3Schema", schema)]), ("served", .bool true),
    ("storage", .bool true), ("subresources", .obj [("status", .obj [])])]

/-- The definition of the resource as the cluster reads it. -/
def definition : Json :=
  .obj [("apiVersion", .str "apiextensions.k8s.io/v1"), ("kind", .str "CustomResourceDefinition"),
    ("metadata", .obj [("name", .str ("ipams." ++ group))]),
    ("spec", .obj [("group", .str group), ("names", names), ("scope", .str "Namespaced"),
      ("versions", .array [version])])]

end Resource

end Ipam
