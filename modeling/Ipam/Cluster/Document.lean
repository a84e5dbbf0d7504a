import Ipam.Resource.Codec

/-!
# Documents

The API server stores what users write without reading it as a resource.  A document that is none is
stored, too; it is the controller that cannot read it.

* `Document` — a stored document.
* `Document.read` — a document as it is stored: in the namespace of the resources, and with the
  status that was there before if it brings none.
* `Document.withStatus` — a document after its status was written.
-/

namespace Ipam.Cluster

/-- The namespace of the resources. -/
def home : String :=
  "kube-system"

/-- A stored document. -/
structure Document where
  /-- The resource, none if the document cannot be read as one. -/
  resource : Option Resource
  /-- The status as it was written, `null` when there is none. -/
  status : Json

namespace Document

/-- The name under which a document is stored. -/
def nameOf (j : Json) : String :=
  ((j.lookup "metadata").lookup "name").asString?.getD ""

/-- A document as it is stored, `before` being the status that was there. -/
def read (before j : Json) : Document :=
  let metadata := (j.lookup "metadata").insert "namespace" (.str home)
  let status := match j.lookup "status" with
    | .null => before
    | status => status
  { resource := Resource.ofJson? ((j.insert "metadata" metadata).insert "status" status), status }

/-- The recorded bindings as they were written, `null` when there are none. -/
def records (d : Document) : Json :=
  d.status.lookup "ipStatus"

/-- A document with another status. -/
def withStatus (d : Document) (status : Status) : Document where
  resource := d.resource.map fun r => { r with status := some status }
  status := status.toJson

end Document

end Ipam.Cluster
