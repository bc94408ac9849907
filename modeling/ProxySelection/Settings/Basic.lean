import ProxySelection.Settings.EnvFile
import ProxySelection.Json.Literal
import ProxySelection.Notice
import ProxySelection.Text.Lines
import ProxySelection.Text.UpperCase

/-!
Settings of a run: where the routes are, what is reported, the capacity of the cache of
patterns and the ports.

`check` holds the rules: the level is known, the capacity not negative, and a port lies between
0 and 65535. `ofEnvironment` takes the values from environment variables, `ofMembers` from
values given by name, which are kept as they are.
-/

namespace ProxySelection

/-- The settings of a run. -/
structure Settings where
  configPath : Text
  level : Level
  cacheSize : Int
  apiPort : Int
  proxyPort : Int
  deriving DecidableEq

namespace Settings

/-- Why there are no settings. -/
inductive Fault where
  /-- The level is not known by this name. -/
  | unknownLevel (name : Text)
  /-- The capacity of the cache is below zero. -/
  | negativeCacheSize
  /-- A port is not between 0 and 65535. -/
  | portOutOfRange (name : Text) (shown : Text)
  /-- A variable cannot be set. -/
  | variable (fault : EnvFile.Fault)
  /-- A variable that should hold an integer does not, or a port cannot be shown. -/
  | integer (fault : Decimal.Fault)
  /-- The level is no text. -/
  | levelNotText
  /-- A value that is compared with a number is none. -/
  | notNumber
  /-- A value is given for something that is no setting. -/
  | unknownName
  deriving DecidableEq

/-- The wording of a fault. -/
def Fault.message : Fault → Text
  | .unknownLevel name => "Unknown log level: ".toText ++ name
  | .negativeCacheSize => "cache_size must be >= 0".toText
  | .portOutOfRange name shown => name ++ " out of range: ".toText ++ shown
  | .variable fault => fault.message
  | .integer fault => fault.message
  | .levelNotText => "the log level is no text".toText
  | .notNumber => "a number is needed".toText
  | .unknownName => "there is no such setting".toText

/-! ### Names and defaults -/

/-- The name of the setting where the routes are. -/
def configPathName : Text := "config_path".toText

/-- The name of the setting from which level on notices are shown. -/
def levelName : Text := "log_level".toText

/-- The name of the setting of the capacity of the cache. -/
def cacheSizeName : Text := "cache_size".toText

/-- The name of the setting of the port of the service. -/
def apiPortName : Text := "api_port".toText

/-- The name of the setting of the port of the proxy. -/
def proxyPortName : Text := "proxy_port".toText

/-- Where the routes are if nothing is said. -/
def defaultConfigPath : Text := "proxies.json".toText

/-- The level if nothing is said. -/
def defaultLevel : Text := "INFO".toText

/-- The capacity of the cache if nothing is said. -/
def defaultCacheSize : Int := 256

/-- The port of the service if nothing is said: any free one. -/
def defaultApiPort : Int := 0

/-- The port of the proxy if nothing is said. -/
def defaultProxyPort : Int := 8080

/-! ### Rules -/

/-- Whether a number is below zero. -/
def isNegative : Json → Except Fault Bool
  | .int n => .ok (n < 0)
  | .bool _ => .ok false
  | .float x => .ok x.isNegative
  | _ => .error .notNumber

/-- The greatest port. -/
def lastPort : Nat := 65535

/-- Whether a number is at most the greatest port. -/
def isAtMostLastPort : Json → Except Fault Bool
  | .int n => .ok (n ≤ lastPort)
  | .bool _ => .ok true
  | .float x => .ok (x.atMost lastPort)
  | _ => .error .notNumber

/-- The level of a name, upper case or not. -/
def checkLevel (name : Text) : Except Fault Level :=
  match Level.ofName? name.upperCase with
  | some level => .ok level
  | none => .error (.unknownLevel name.upperCase)

/-- The capacity of the cache is not negative. -/
def checkCacheSize (v : Json) : Except Fault Unit := do
  if ← isNegative v then throw .negativeCacheSize

/-- A port lies between 0 and 65535. -/
def checkPort (name : Text) (v : Json) : Except Fault Unit := do
  let negative ← isNegative v
  let inside ← if negative then pure false else isAtMostLastPort v
  if !inside then
    throw (if v.isShowable then .portOutOfRange name v.shown else .integer .tooLongToWrite)

/-- All rules, in their order, and the level. -/
def check (level : Text) (cacheSize apiPort proxyPort : Json) : Except Fault Level := do
  let level ← checkLevel level
  checkCacheSize cacheSize
  checkPort apiPortName apiPort
  checkPort proxyPortName proxyPort
  return level

/-! ### From environment variables -/

/-- Environment variables and their values. -/
abbrev Environment := List (Text × Text)

/-- The variable that holds where the routes are. -/
def configPathVariable : Text := "PROXYROUTE_CONFIG".toText

/-- The variable that holds the level. -/
def levelVariable : Text := "PROXYROUTE_LOG_LEVEL".toText

/-- The variable that holds the capacity of the cache. -/
def cacheSizeVariable : Text := "PROXYROUTE_CACHE_SIZE".toText

/-- The variable that holds the port of the service. -/
def apiPortVariable : Text := "PROXYROUTE_API_PORT".toText

/-- The variable that holds the port of the proxy. -/
def proxyPortVariable : Text := "PROXYROUTE_PROXY_PORT".toText

/-- All variables that hold a setting. -/
def variableNames : List Text :=
  [configPathVariable, levelVariable, cacheSizeVariable, apiPortVariable, proxyPortVariable]

/-- The integer that a variable holds. -/
def integerVariable (env : Environment) (name : Text) (default : Int) : Except Fault Int :=
  match env.lookup name with
  | none => .ok default
  | some t => (Decimal.read t).mapError .integer

/-- The settings that variables hold. -/
def ofEnvironment (env : Environment) : Except Fault Settings := do
  let configPath := (env.lookup configPathVariable).getD defaultConfigPath
  let level := (env.lookup levelVariable).getD defaultLevel
  let cacheSize ← integerVariable env cacheSizeVariable defaultCacheSize
  let apiPort ← integerVariable env apiPortVariable defaultApiPort
  let proxyPort ← integerVariable env proxyPortVariable defaultProxyPort
  let level ← check level (.int cacheSize) (.int apiPort) (.int proxyPort)
  return { configPath, level, cacheSize, apiPort, proxyPort }

/-- The environment of variables that are set one after another and those that a file sets
besides them. -/
def environment (given : List (Text × Text)) (file : Option Text) : Except Fault Environment := do
  let env ← (given.mapM EnvFile.settable).mapError .variable
  match file with
  | none => return env
  | some t =>
    let more ← (EnvFile.read (env.lookup ·) t.withLineFeeds).mapError .variable
    return env ++ more

/-! ### From values by name -/

/-- The names of all settings. -/
def names : List Text := [configPathName, levelName, cacheSizeName, apiPortName, proxyPortName]

/-- The settings as members. -/
def members (configPath : Json) (level : Level) (cacheSize apiPort proxyPort : Json) :
    Members := [
  (configPathName, configPath), (levelName, .str level.name), (cacheSizeName, cacheSize),
  (apiPortName, apiPort), (proxyPortName, proxyPort)]

/-- The settings as members. -/
def toMembers (s : Settings) : Members :=
  members (.str s.configPath) s.level (.int s.cacheSize) (.int s.apiPort) (.int s.proxyPort)

/-- The settings, as members, that are given by name, with defaults for those left out. -/
def ofMembers (ms : Members) : Except Fault Members := do
  if ms.any fun m => !names.contains m.1 then throw .unknownName
  let value (name : Text) (default : Json) : Json := (ms.get? name).getD default
  let level ← match value levelName (.str defaultLevel) with
    | .str t => pure t
    | _ => throw .levelNotText
  let cacheSize := value cacheSizeName (.int defaultCacheSize)
  let apiPort := value apiPortName (.int defaultApiPort)
  let proxyPort := value proxyPortName (.int defaultProxyPort)
  let level ← check level cacheSize apiPort proxyPort
  return members (value configPathName (.str defaultConfigPath)) level cacheSize apiPort proxyPort

end Settings

end ProxySelection
