import Ipam.Allocation.Infoblox
import Ipam.Allocation.Local
import Ipam.Config.Settings
import Ipam.Grid.Rest
import Ipam.Pool.Database

/-!
# Starting the controller

Before the controller turns to the cluster it reads its settings and sets up its backend.

* `Startup.prepare` — the backend of some settings, or why there is none.
* `Startup.run` — from the command line to the backend.
* `Startup.paths` — the files that matter for a command line.
* `StartupError` — what can go wrong on the way.
-/

namespace Ipam

/-- Why the controller cannot start. -/
inductive StartupError where
  /-- The command line is wrong. -/
  | usage (cause : Config.UsageError)
  /-- The settings are wrong. -/
  | settings (cause : Config.SettingsError)
  /-- The backend cannot be set up. -/
  | setup (cause : SetupError)
  /-- There is no cluster to be reached. -/
  | noCluster
deriving DecidableEq

/-- The wording of an error; those of the command line and of the cluster have none of their own. -/
def StartupError.message? : StartupError → Option String
  | .usage _ => none
  | .settings cause => cause.message?
  | .setup cause => cause.message?.map ("Allocation manager error: " ++ ·)
  | .noCluster => none

namespace Startup

/-- A backend that is ready. -/
inductive Prepared where
  /-- A store with its pools. -/
  | pools (store : Store)
  /-- A grid with the networks of the labels. -/
  | infoblox (endpoint : Grid.Endpoint) (labels : Table Infoblox.LabelNetwork) (link : Grid.Link)

/-- The name of a backend. -/
def Prepared.name (tokens : Pool.TokenSource) : Prepared → String
  | .pools _ => (Local.backend tokens).name
  | .infoblox endpoint labels _ => (Infoblox.backend (Grid.Rest.client endpoint) labels).name

/-- Sets up the pools of a database file. -/
def preparePools (tokens : Pool.TokenSource) (files : FileTree) (ranges database : String) :
    Except SetupError Prepared :=
  match files.openDatabase database with
  | .error cause => .error (.store cause)
  | .ok () => do
    let (_, store) ← Local.start tokens ranges .empty
    return .pools store

/-- Sets up the networks of a grid. -/
def prepareGrid (endpoint : Grid.Endpoint) (labels networkView : String) (link : Grid.Link) :
    Except SetupError Prepared :=
  match (Infoblox.start (Grid.Rest.client endpoint) labels networkView).run link with
  | (.error cause, _) => .error cause
  | (.ok labels, link) => .ok (.infoblox endpoint labels link)

/-- Sets up the backend of a provider.  `files` is what the file system holds and `link` the grid.
-/
def prepare (tokens : Pool.TokenSource) (files : FileTree) (link : Grid.Link)
    (provider : Config.Provider) : Except SetupError Prepared :=
  match provider with
  | .pools ranges database => preparePools tokens files ranges database
  | .infoblox endpoint labels networkView => prepareGrid endpoint labels networkView link

/-- The paths that `run` may look at: the database, and the credentials of the grid. -/
def paths (arguments : Config.Arguments) : List String :=
  let credentials := arguments.credentials.elim [] fun directory =>
    [Config.Setting.gridHost, .gridPort, .gridVersion, .gridUser, .gridPassword].map fun s =>
      joinPath directory s.flag
  arguments.database :: Database.companions.map (arguments.database ++ ·) ++ credentials

/-- Reads the settings and sets up the backend. -/
def run (tokens : Pool.TokenSource) (files : FileTree) (link : Grid.Link)
    (arguments : List String) (environment : String → Option String) :
    Except StartupError (Config.Settings × Prepared) := do
  let arguments ← (Config.Arguments.parse arguments environment).mapError .usage
  let settings ← (Config.Settings.ofArguments files arguments).mapError .settings
  let prepared ← (prepare tokens files link settings.provider).mapError .setup
  return (settings, prepared)

end Startup

end Ipam
