import Ipam.Net.Socket

/-!
# The command line

Every setting has a long flag and an environment variable; a flag wins over the variable, and the
variable over the default.

* `Setting` — the settings, with their flags and variables.
* `Arguments` — the values, with their defaults.
* `Arguments.parse` — reads the arguments of a command line and the environment.
* `UsageError` — what can be wrong with them.

A value follows its flag after an equals sign or as the next argument.  The next argument is taken
as a value only if it does not look like a flag, and it is checked when the argument after it is
read.
-/

namespace Ipam.Config

open Text

/-- The provider of addresses. -/
inductive ProviderKind where
  /-- Pools in a local database. -/
  | pools
  /-- An Infoblox grid. -/
  | infoblox
deriving DecidableEq

/-- The settings. -/
inductive Setting where
  | logLevel
  | orchestration
  | provider
  | watchNamespace
  | bindAddress
  | capacity
  | ranges
  | database
  | gridHost
  | gridVersion
  | gridPort
  | gridUser
  | gridPassword
  | labels
  | networkView
  | insecure
  | credentials
deriving DecidableEq

namespace Setting

/-- The settings in the order in which variables are read. -/
def all : List Setting :=
  [logLevel, orchestration, provider, watchNamespace, bindAddress, capacity, ranges, database,
    gridHost, gridVersion, gridPort, gridUser, gridPassword, labels, networkView, insecure,
    credentials]

/-- The name of the flag, without its dashes. -/
def flag : Setting → String
  | logLevel => "log-level"
  | orchestration => "orchestration"
  | provider => "ip-provider"
  | watchNamespace => "namespace"
  | bindAddress => "metrics-bind-address"
  | capacity => "channel-capacity"
  | ranges => "ip-range"
  | database => "db-path"
  | gridHost => "infoblox-grid-host"
  | gridVersion => "infoblox-wapi-version"
  | gridPort => "infoblox-wapi-port"
  | gridUser => "infoblox-username"
  | gridPassword => "infoblox-password"
  | labels => "infoblox-labels"
  | networkView => "infoblox-netview"
  | insecure => "infoblox-ssl-insecure"
  | credentials => "credentials-directory"

/-- The name of the environment variable. -/
def variableName : Setting → String
  | logLevel => "LOG_LEVEL"
  | orchestration => "ORCHESTRATION"
  | provider => "IP_PROVIDER"
  | watchNamespace => "WATCH_NAMESPACE"
  | bindAddress => "METRICS_BIND_ADDRESS"
  | capacity => "CHANNEL_CAPACITY"
  | ranges => "IP_RANGE"
  | database => "DB_PATH"
  | gridHost => "INFOBLOX_GRID_HOST"
  | gridVersion => "INFOBLOX_WAPI_VERSION"
  | gridPort => "INFOBLOX_WAPI_PORT"
  | gridUser => "INFOBLOX_USERNAME"
  | gridPassword => "INFOBLOX_PASSWORD"
  | labels => "INFOBLOX_LABELS"
  | networkView => "INFOBLOX_NETVIEW"
  | insecure => "INFOBLOX_SSL_INSECURE"
  | credentials => "CREDENTIALS_DIRECTORY"

/-- Whether the flag is followed by a value. -/
def takesValue (s : Setting) : Bool :=
  s ≠ insecure

/-- The setting of a flag. -/
def ofFlag? (name : String) : Option Setting :=
  all.find? fun s => s.flag = name

end Setting

/-- What is wrong with a command line or the environment. -/
inductive UsageError where
  /-- An argument is neither a flag nor the value of one. -/
  | unknownArgument (argument : String)
  /-- A flag lacks its value. -/
  | missingValue (setting : Setting)
  /-- A value is not one of those that are allowed. -/
  | invalidValue (setting : Setting) (value : String)
  /-- A value has not the form that it must have. -/
  | malformedValue (setting : Setting) (value : String)
  /-- A flag is given twice. -/
  | repeatedFlag (setting : Setting)
  /-- A flag that stands alone has a value. -/
  | unexpectedValue (flag value : String)
  /-- The user asks for help. -/
  | helpRequested
deriving DecidableEq

/-- An error in one line. -/
def UsageError.message : UsageError → String
  | .unknownArgument argument => s!"unexpected argument {argument}"
  | .missingValue s => s!"a value is required for --{s.flag}"
  | .invalidValue s value => s!"invalid value '{value}' for --{s.flag}"
  | .malformedValue s value => s!"malformed value '{value}' for --{s.flag}"
  | .repeatedFlag s => s!"--{s.flag} cannot be used multiple times"
  | .unexpectedValue flag value => s!"unexpected value '{value}' for --{flag}"
  | .helpRequested => "help was asked for"

/-- The values of the settings. -/
structure Arguments where
  logLevel : String := "INFO"
  provider : ProviderKind := .pools
  watchNamespace : String := "kube-system"
  bindAddress : SocketAddress := .v4 (.ofNat 0) 8080
  capacity : Nat := 128
  ranges : Option String := none
  database : String := "/app/ipamdb/cis_ipam.sqlite3"
  gridHost : Option String := none
  gridVersion : Option String := none
  gridPort : String := "443"
  gridUser : Option String := none
  gridPassword : Option String := none
  labels : Option String := none
  networkView : String := "default"
  insecure : Bool := false
  credentials : Option String := none
  /-- The settings that were given. -/
  given : List Setting := []

/-- A number of 64 bits, possibly with a plus sign. -/
def capacity? (value : String) : Option Nat :=
  let cs := value.toList
  (natOfDigits? ((stripStart? '+' cs).getD cs)).filter (· < 18446744073709551616)

namespace Arguments

/-- Sets the value of a setting from its text. -/
def assignValue (a : Arguments) (s : Setting) (value : String) : Except UsageError Arguments :=
  match s with
  | .logLevel => .ok { a with logLevel := value }
  | .orchestration => if value = "kubernetes" then .ok a else .error (.invalidValue s value)
  | .provider =>
    if value = "local" then .ok { a with provider := .pools }
    else if value = "infoblox" then .ok { a with provider := .infoblox }
    else .error (.invalidValue s value)
  | .watchNamespace => .ok { a with watchNamespace := value }
  | .bindAddress =>
    match SocketAddress.parse? value with
    | some address => .ok { a with bindAddress := address }
    | none => .error (.malformedValue s value)
  | .capacity =>
    match capacity? value with
    | some n => .ok { a with capacity := n }
    | none => .error (.malformedValue s value)
  | .ranges => .ok { a with ranges := some value }
  | .database =>
    if value = "" then .error (.invalidValue s value) else .ok { a with database := value }
  | .gridHost => .ok { a with gridHost := some value }
  | .gridVersion => .ok { a with gridVersion := some value }
  | .gridPort => .ok { a with gridPort := value }
  | .gridUser => .ok { a with gridUser := some value }
  | .gridPassword => .ok { a with gridPassword := some value }
  | .labels => .ok { a with labels := some value }
  | .networkView => .ok { a with networkView := value }
  | .insecure =>
    if value = "true" then .ok { a with insecure := true }
    else if value = "false" then .ok { a with insecure := false }
    else .error (.invalidValue s value)
  | .credentials =>
    if value = "" then .error (.invalidValue s value) else .ok { a with credentials := some value }

/-- Sets the value of a setting, which may be given once. -/
def assign (a : Arguments) (s : Setting) (value : String) : Except UsageError Arguments :=
  if s ∈ a.given then .error (.repeatedFlag s)
  else do return { ← a.assignValue s value with given := s :: a.given }

/-! ## Arguments -/

/-- What an argument looks like. -/
inductive Form where
  /-- The sign that no flags follow. -/
  | terminator
  /-- A long flag, possibly with a value.  A flag with an empty name has a value. -/
  | long (name : String) (value : Option String)
  /-- Short flags, by their letters. -/
  | short (letters : List Char)
  /-- Anything else. -/
  | word

/-- What an argument looks like. -/
def formOf (argument : String) : Form :=
  match argument.toList with
  | ['-', '-'] => .terminator
  | '-' :: '-' :: cs =>
    match splitOnce '=' cs with
    | some (name, value) => .long (String.ofList name) (some (String.ofList value))
    | none => .long (String.ofList cs) none
  | '-' :: c :: cs => .short (c :: cs)
  | _ => .word

/-- A flag whose value is the next argument, together with that argument once it was read. -/
abbrev Pending := Option (Setting × Option String)

/-- Takes up a flag whose value is due. -/
def settle (a : Arguments) : Pending → Except UsageError Arguments
  | none => .ok a
  | some (s, none) => .error (.missingValue s)
  | some (s, some value) => a.assign s value

/-- A known flag. -/
def takeFlag (a : Arguments) (pending : Pending) (s : Setting) (value : Option String) :
    Except UsageError (Arguments × Pending) := do
  if s.takesValue then
    let a ← a.settle pending
    match value with
    | some value => return (← a.assign s value, none)
    | none => return (a, some (s, none))
  else
    match value with
    | some value => throw (.unexpectedValue s.flag value)
    | none => return (← (← a.settle pending).assign s "true", none)

/-- A long flag. -/
def takeLong (a : Arguments) (pending : Pending) (argument name : String)
    (value : Option String) : Except UsageError (Arguments × Pending) := do
  match Setting.ofFlag? name with
  | some s => a.takeFlag pending s value
  | none =>
    if name = "help" then
      match value with
      | some value => throw (.unexpectedValue name value)
      | none =>
        let _ ← a.settle pending
        throw .helpRequested
    else
      throw (.unknownArgument argument)

/-- Reads arguments.  `words` says that the terminator was read, after which no flags follow. -/
def read (a : Arguments) (pending : Pending) (words : Bool) :
    List String → Except UsageError Arguments
  | [] => a.settle pending
  | argument :: rest =>
    if words then .error (.unknownArgument argument)
    else
      match formOf argument with
      | .terminator => a.read pending true rest
      | .long name value => do
        let (a, pending) ← a.takeLong pending argument name value
        a.read pending false rest
      | .short letters =>
        if letters.head? = some 'h' then
          match a.settle pending with
          | .error e => .error e
          | .ok _ => .error .helpRequested
        else
          .error (.unknownArgument argument)
      | .word =>
        match pending with
        | some (s, none) => a.read (some (s, some argument)) false rest
        | _ => .error (.unknownArgument argument)

/-! ## Environment -/

/-- Sets a setting from its variable, unless it was given. -/
def readVariable (environment : String → Option String) (a : Arguments) (s : Setting) :
    Except UsageError Arguments :=
  if s ∈ a.given then .ok a
  else
    match environment s.variableName with
    | none => .ok a
    | some value => a.assign s value

/-- Reads the arguments of a command line and the environment. -/
def parse (arguments : List String) (environment : String → Option String) :
    Except UsageError Arguments := do
  let a ← read {} none false arguments
  Setting.all.foldlM (readVariable environment) a

end Arguments

end Ipam.Config
