import Ipam.Json.Parser
import Ipam.Json.Decode
import Ipam.Text.Blank
import Ipam.Text.Quotes

/-!
# Pool configuration

The pools of a controller are configured by a JSON object from labels to range texts.

* `Pool.parseConfig` — the table of a configuration text.
* `Pool.ConfigError` — what can be wrong with it.
-/

namespace Ipam.Pool

open Text

/-- What is wrong with a pool configuration. -/
inductive ConfigError where
  /-- The text is not a JSON object from labels to texts. -/
  | notATable
  /-- A label is empty or blank. -/
  | emptyLabel
  /-- A label has an empty or blank range text. -/
  | emptyRange (label : String)
deriving DecidableEq

/-- The wording of a fault. -/
def ConfigError.message : ConfigError → String
  | .notATable => "Invalid pool configuration: expected a JSON object of label to range"
  | .emptyLabel => "Invalid pool configuration: empty pool label"
  | .emptyRange label => s!"Invalid pool configuration: pool {label} has an empty range"

/-- A configuration text without white space and quotes around it. -/
def bareConfig (raw : String) : String :=
  String.ofList (unquote (trim raw.toList))

/-- Whether a text is empty or blank. -/
def isBlankText (s : String) : Bool :=
  (trim s.toList).isEmpty

/-- The fault of one entry, when it has one. -/
def entryFault? (label range : String) : Option ConfigError :=
  if isBlankText label then some .emptyLabel
  else if isBlankText range then some (.emptyRange label)
  else none

/-- Reads a pool configuration.  Of several faulty entries that of the first label is reported. -/
def parseConfig (raw : String) : Except ConfigError (Table String) :=
  match Json.parse? (bareConfig raw) >>= Json.asTable? Json.asString? with
  | none => .error .notATable
  | some pools =>
    match pools.entries.findSome? fun (label, range) => entryFault? label range with
    | some fault => .error fault
    | none => .ok pools

end Ipam.Pool
