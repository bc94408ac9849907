import ProxySelection.CommandLine.Options
import ProxySelection.Launch
import ProxySelection.Settings.Basic
import ProxySelection.Table.File

/-!
A run of the program from the command line.

The settings come first, then the options, then the routes. With `--check` the route for a URL
is shown and the run ends; otherwise the service and the proxy are started. A run is described
by its exit code, what it prints and the steps by which the program is launched.
-/

namespace ProxySelection

namespace CommandLine

/-- A step of launching the program. -/
inductive Step where
  /-- The program is set up with a port for the service, which is a free one if none is named,
  and a port for the proxy, which is not started without one. -/
  | setUp (apiPort : Option Int) (proxyPort : Option Int) (routes : Nat)
  | startService
  | runProxy
  /-- The service runs without a proxy. -/
  | runForever
  | shutDown
  deriving DecidableEq

/-- What a run comes to. -/
structure Report where
  code : Nat
  /-- What is printed. -/
  output : Text
  steps : List Step
  deriving DecidableEq

/-- How a run ends. -/
inductive Ending where
  /-- At the options. -/
  | stopped (stop : Options.Stop)
  | finished (report : Report)
  deriving DecidableEq

/-- Why a run breaks off. -/
inductive Fault where
  | settings (fault : Settings.Fault)
  | load (fault : RouteTable.LoadFault)
  | number (fault : Decimal.Fault)
  /-- What is to be printed cannot be encoded. -/
  | output (fault : Utf8.Fault)
  /-- The value of an option that is needed was taken away. -/
  | noValue (option : Options.Name)

/-- The wording of a fault. -/
def Fault.message : Fault → Text
  | .settings fault => fault.message
  | .load fault => fault.message
  | .number fault => fault.message
  | .output fault => fault.message
  | .noValue _ => "an option has no value".toText

/-- Where a run takes place. -/
structure World where
  /-- How deep arrays and objects may lie inside each other in a file that is read. -/
  depth : Nat
  /-- What is found under a path. -/
  file : Text → RouteTable.File
  /-- Whether the service comes up in time. -/
  ready : Bool

/-! ### Checking a URL -/

/-- The line that says which route is selected for a URL. -/
def routeLine (url server : Text) (r : Route) : Text :=
  url ++ " -> ".toText ++ server ++
    (if r.tunnel then " (tunnel, match=".toText else " (forward, match=".toText) ++ r.pattern ++
    ")\n".toText

/-- The line that says that no route is selected for a URL. -/
def directLine (url : Text) : Text := url ++ " -> DIRECT\n".toText

/-- A run that prints a line and ends with a code. -/
def printed (code : Nat) (line : Text) : Except Fault Report := do
  let _ ← (Utf8.encode line).mapError .output
  return ⟨code, line, []⟩

theorem report_of_printed {code : Nat} {line : Text} {report : Report}
    (shown : printed code line = .ok report) : report = ⟨code, line, []⟩ := by
  unfold printed at shown
  cases encoded : Utf8.encode line with
  | error fault =>
    rw [encoded] at shown
    cases shown
  | ok octets =>
    rw [encoded] at shown
    exact (Except.ok.inj shown).symm

/-- What is shown for a URL and the route that is selected for it. -/
def checkReport (url : Text) : Option Route → Except Fault Report
  | none => printed 1 (directLine url)
  | some r => do
    let server ← r.server.redacted.mapError .number
    printed 0 (routeLine url server r)

/-- Shows which route is selected for a URL. -/
def checkUrl (t : RouteTable) (url : Text) : Attempt Fault Report := do
  let r ← (t.select (.str url)).adapt .number
  Attempt.ofExcept (checkReport url r)

/-! ### Launching -/

/-- The port for the service: none if a free one is to be used. -/
def apiPortOf (o : Options) : Option Int := o.apiPort.filter (0 < ·)

/-- The port for the proxy, if it is to be started. -/
def proxyPortOf (o : Options) : Except Fault (Option Int) :=
  if o.noProxy then .ok none
  else
    match o.proxyPort with
    | some port => .ok (if 0 < port then some port else none)
    | none => .error (.noValue .proxyPort)

/-- Starts the service, and the proxy if it has a port. -/
def launch (w : World) (apiPort proxyPort : Option Int) (t : RouteTable) : Run Report := do
  let setUp := Step.setUp apiPort proxyPort t.size
  if w.ready then
    let running := if proxyPort.isSome then Step.runProxy else .runForever
    return ⟨0, [], [setUp, .startService, running, .shutDown]⟩
  else
    Run.note .serviceFailed
    return ⟨1, [], [setUp, .startService, .shutDown]⟩

/-! ### The run -/

/-- The options where the command line names none. -/
def defaults (s : Settings) : Options where
  config := some s.configPath
  apiPort := some s.apiPort
  proxyPort := some s.proxyPort
  noProxy := false
  check := none

/-- Whether a fault of loading is one that the run reports. -/
def isReported : RouteTable.LoadFault → Bool
  | .missing _ | .directory _ | .notJson .. | .notTable _ => true
  | .notPath _ | .notText | .integer _ | .tooDeep _ => false

/-- What is done with the routes. -/
def serve (w : World) (o : Options) (t : RouteTable) : Attempt Fault Report := do
  match o.check with
  | some (c :: url) => checkUrl t (c :: url)
  | _ =>
    let proxyPort ← Attempt.ofExcept (proxyPortOf o)
    launch w (apiPortOf o) proxyPort t

/-- What is done with the routes under a path. -/
def serveFrom (w : World) (o : Options) (path : Text) : Attempt Fault Report := do
  match ← (RouteTable.loadOrEmpty w.depth path (w.file path)).outcome with
  | .ok t => serve w o t
  | .error fault =>
    if isReported fault then
      Run.note (.loadFailed fault.message)
      return ⟨2, [], []⟩
    else throw (.load fault)

/-- What is done under options and settings. -/
def runWith (w : World) (s : Settings) (o : Options) : Attempt Fault Report := do
  Run.resizeCache s.cacheSize
  match o.config with
  | some path => serveFrom w o path
  | none => throw (.noValue .config)

/-- The path under which a run looks for its routes, if it comes that far. -/
def routesPath (env : Settings.Environment) (arguments : List Text) : Option Text := do
  let s ← (Settings.ofEnvironment env).toOption
  let o ← (Options.read (defaults s) arguments).toOption
  o.config

/-- A run. -/
def run (w : World) (env : Settings.Environment) (arguments : List Text) :
    Attempt Fault Ending := do
  let s ← Attempt.ofExcept ((Settings.ofEnvironment env).mapError .settings)
  match Options.read (defaults s) arguments with
  | .error stop => return .stopped stop
  | .ok o => return .finished (← runWith w s o)

end CommandLine

end ProxySelection
