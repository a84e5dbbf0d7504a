import Ipam.Config.Arguments
import Ipam.Grid.Url
import Ipam.Pool.Config
import Ipam.Files

/-!
# Settings of the controller

What the command line and the environment say is checked, and completed from a directory with one
file per credential of the grid.

* `Settings` — checked settings.
* `Provider` — where addresses come from.
* `Settings.ofArguments` — checks the values of a command line; the first fault counts.
* `logFilter?` — the filter of a log level.
-/

namespace Ipam.Config

open Text

/-! ## Log levels -/

/-- A name of a log level in upper case, where case means that of ASCII letters. -/
def upperLevel (level : String) : String :=
  String.ofList ((trim level.toList).map Char.toUpper)

/-- The filter of a log level; levels are known by their names in any case. -/
def logFilter? (level : String) : Option String :=
  match upperLevel level with
  | "DEBUG" => some "debug"
  | "INFO" => some "info"
  | "WARNING" | "WARN" => some "warn"
  | "ERROR" | "CRITICAL" => some "error"
  | _ => none

/-! ## Checked settings -/

/-- Where addresses come from. -/
inductive Provider where
  /-- Pools in a database file. -/
  | pools (ranges database : String)
  /-- Networks of a grid. -/
  | infoblox (endpoint : Grid.Endpoint) (labels networkView : String)
deriving DecidableEq

/-- The provider in one line. -/
protected def Provider.toString : Provider → String
  | .pools _ database => s!"local ({database})"
  | .infoblox endpoint _ networkView => s!"infoblox ({endpoint.baseUrl}, view {networkView})"

instance : ToString Provider := ⟨Provider.toString⟩

/-- Checked settings. -/
structure Settings where
  logFilter : String
  /-- The namespace that is watched. -/
  watchNamespace : String
  /-- Where metrics and probes are served. -/
  bindAddress : SocketAddress
  /-- The number of places in the queues of the coordinator. -/
  capacity : Nat
  provider : Provider

/-- What is wrong with the settings. -/
inductive SettingsError where
  /-- There is no such log level. -/
  | unknownLevel (level : String)
  /-- The queues would have no places. -/
  | noCapacity
  /-- The namespace is blank. -/
  | noNamespace
  /-- The local provider has no ranges. -/
  | noRanges
  /-- The grid lacks a setting. -/
  | missing (setting : Setting)
  /-- The file of a credential cannot be read. -/
  | unreadable (path : String)
deriving DecidableEq

/-- The wording of a fault. -/
def SettingsError.detail : SettingsError → String
  | .unknownLevel level =>
    s!"unknown log level {level}; valid levels are DEBUG, INFO, WARNING, ERROR, CRITICAL"
  | .noCapacity => "channel capacity must be at least 1"
  | .noNamespace => "namespace must not be empty"
  | .noRanges => "--ip-range is required for the local provider"
  | .missing setting => s!"--{setting.flag} is required for the infoblox provider"
  | .unreadable path => s!"cannot read {path}"

/-- The wording of a fault of the configuration; an unreadable file has none of its own. -/
def SettingsError.message? : SettingsError → Option String
  | .unreadable _ => none
  | fault => some ("Invalid configuration: " ++ fault.detail)

namespace Settings

/-! ## Credentials -/

/-- The content of the file of a credential, without blanks around it.  A missing or blank file says
nothing. -/
def credential (files : FileTree) (directory : String) (s : Setting) :
    Except SettingsError (Option String) :=
  let path := joinPath directory s.flag
  match files.readText path with
  | .error () => .error (.unreadable path)
  | .ok none => .ok none
  | .ok (some content) => .ok (nonEmpty (some (trimmed content)))

/-- The values of a command line with the credentials of a directory in their place. -/
def withCredentials (files : FileTree) (directory : String) (a : Arguments) :
    Except SettingsError Arguments := do
  let host ← credential files directory .gridHost
  let port ← credential files directory .gridPort
  let version ← credential files directory .gridVersion
  let user ← credential files directory .gridUser
  let password ← credential files directory .gridPassword
  return { a with
    gridHost := host <|> a.gridHost
    gridPort := port.getD a.gridPort
    gridVersion := version <|> a.gridVersion
    gridUser := user <|> a.gridUser
    gridPassword := password <|> a.gridPassword }

/-! ## Checks -/

/-- A value that must be there and not blank, without blanks around it. -/
def required (s : Setting) (value : Option String) : Except SettingsError String :=
  match nonEmpty (value.map trimmed) with
  | some value => .ok value
  | none => .error (.missing s)

/-- The provider of pools. -/
def poolsProvider (a : Arguments) : Except SettingsError Provider :=
  match nonEmpty (a.ranges.map Pool.bareConfig) with
  | some ranges => .ok (.pools ranges a.database)
  | none => .error .noRanges

/-- The provider of a grid. -/
def infobloxProvider (files : FileTree) (a : Arguments) : Except SettingsError Provider := do
  let a ← match a.credentials with
    | none => pure a
    | some directory => withCredentials files directory a
  let host ← required .gridHost a.gridHost
  let version ← required .gridVersion a.gridVersion
  let username ← required .gridUser a.gridUser
  let password ← required .gridPassword a.gridPassword
  let labels ← required .labels a.labels
  let endpoint : Grid.Endpoint :=
    { host, version, port := a.gridPort, username, password, verifyTls := !a.insecure }
  return .infoblox endpoint (Pool.bareConfig labels) a.networkView

/-- Checks the values of a command line. -/
def ofArguments (files : FileTree) (a : Arguments) : Except SettingsError Settings := do
  let logFilter ← match logFilter? a.logLevel with
    | some filter => pure filter
    | none => throw (.unknownLevel (upperLevel a.logLevel))
  if a.capacity = 0 then throw .noCapacity
  if Pool.isBlankText a.watchNamespace then throw .noNamespace
  let provider ← match a.provider with
    | .pools => poolsProvider a
    | .infoblox => infobloxProvider files a
  return {
    logFilter
    watchNamespace := a.watchNamespace
    bindAddress := a.bindAddress
    capacity := a.capacity
    provider }

end Settings

end Ipam.Config
