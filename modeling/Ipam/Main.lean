import Ipam.Startup

/-!
# The command

Starts the controller from a command line: reads the environment and the files that the settings
name, sets up the backend, and says what it is.  The cluster and the grid are out of its reach, so a
start never gets further than that.
-/

namespace Ipam.Command

/-! ## What is read -/

/-- The values of the environment variables of the settings. -/
def readEnvironment : IO (List (String × String)) :=
  Config.Setting.all.filterMapM fun s => do
    return (← IO.getEnv s.variableName).map fun value => (s.variableName, value)

/-- A path and the directories on its way, the outermost first. -/
def ancestors (path : String) : List String :=
  let parts := (Text.splitOn '/' path.toList).map String.ofList
  let starts := (List.range parts.length).map fun n => parts.take (n + 1)
  (starts.map (String.intercalate "/")).filter (· ≠ "")

/-- What is at a path.  What cannot be read as a file counts as a directory. -/
def readNode (path : String) : IO (Option FileNode) := do
  match ← (IO.FS.readBinFile path).toBaseIO with
  | .ok content => return some (.file content)
  | .error (.noFileOrDirectory ..) => return none
  | .error _ => return some .directory

/-- What is at some paths and on their ways. -/
def readFiles (paths : List String) : IO FileTree := do
  let nodes ← (paths.flatMap ancestors).filterMapM fun path => do
    return (← readNode path).map fun node =>
      ((FileTree.components path).foldl FileTree.step [], node)
  return ⟨FileTree.everywhere.nodes ++ nodes⟩

/-! ## What is said -/

/-- The flags with their variables, one a line. -/
def usage : String :=
  "Usage: ipam-controller [OPTIONS]\n\n" ++ String.join (Config.Setting.all.map fun s =>
    "  --" ++ s.flag ++ (if s.takesValue then " <VALUE>" else "") ++ " [env: " ++ s.variableName
      ++ "]\n")

/-- The text of an error of the start. -/
def errorText (cause : StartupError) : String :=
  match cause with
  | .usage cause => cause.message
  | .settings (.unreadable path) => "Failed to read " ++ path
  | .noCluster => "No cluster can be reached"
  | _ => (cause.message?).getD "The backend cannot be set up"

/-- The settings of a controller, one a line. -/
def settingsText (settings : Config.Settings) : String :=
  s!"Provider: {settings.provider}\nNamespace: {settings.watchNamespace}\n"
    ++ s!"Metrics: {settings.bindAddress}"

/-- Starts the controller. -/
def start (arguments : List String) : IO UInt32 := do
  let given ← readEnvironment
  let environment := fun name => given.lookup name
  let files ← match Config.Arguments.parse arguments environment with
    | .ok parsed => readFiles (Startup.paths parsed)
    | .error _ => pure ⟨[]⟩
  match Startup.run Pool.Token.numbered files { reachable := false } arguments environment with
  | .error (.usage .helpRequested) =>
    IO.print usage
    return 0
  | .error cause =>
    IO.eprintln ("Error: " ++ errorText cause)
    return if cause matches .usage _ then 2 else 1
  | .ok (settings, prepared) =>
    IO.println (settingsText settings)
    IO.println ("Backend: " ++ prepared.name Pool.Token.numbered)
    IO.eprintln ("Error: " ++ errorText .noCluster)
    return 1

end Ipam.Command

/-- The command. -/
def main (arguments : List String) : IO UInt32 :=
  Ipam.Command.start arguments
