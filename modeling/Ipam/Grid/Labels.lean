import Ipam.Json.Parser
import Ipam.Json.Decode
import Ipam.Text.Blank
import Ipam.Text.Quotes

/-!
# The label map of a grid

With a grid behind it, a pool label stands for a network of the grid.  The map is configured by a
JSON object from labels to networks.

* `LabelConfig` — the network of one label and, optionally, its view.
* `parseLabels` — the table of a configuration text.
-/

namespace Ipam.Grid

open Text

/-- The network that a label stands for. -/
structure LabelConfig where
  /-- The view of the network, when it is not the default one. -/
  view : Option String
  /-- The network as it is written in the grid. -/
  cidr : String
deriving DecidableEq

/-- What is wrong with a label map. -/
inductive LabelsError where
  /-- The text is not a JSON object from labels to networks. -/
  | notATable
  /-- There is no label. -/
  | empty
deriving DecidableEq

/-- The wording of a fault. -/
def LabelsError.message : LabelsError → String
  | .notATable => "invalid Infoblox label map"
  | .empty => "no Infoblox labels configured"

/-- Reads the network of a label. -/
def LabelConfig.ofJson? (j : Json) : Option LabelConfig := do
  let ms ← j.asRecord? ["netView", "cidr"] 2
  return {
    view := ← ms.optional? "netView" Json.asString?
    cidr := ← ms.required? "cidr" Json.asString? }

/-- Reads a label map. -/
def parseLabels (raw : String) : Except LabelsError (Table LabelConfig) :=
  match Json.parse? (String.ofList (unquote (trim raw.toList)))
      >>= Json.asTable? LabelConfig.ofJson? with
  | none => .error .notATable
  | some labels => if labels.isEmpty then .error .empty else .ok labels

end Ipam.Grid
