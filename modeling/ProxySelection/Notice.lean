import ProxySelection.Number.Integer

/-!
Notices: what the program reports about its work, each with the part that reports it, a level
and a wording.
-/

namespace ProxySelection

/-- How much a notice matters. -/
inductive Level where
  | debug
  | info
  | warning
  | error
  | critical
  deriving DecidableEq

namespace Level

/-- The name of a level. -/
def name : Level → Text
  | .debug => "DEBUG".toText
  | .info => "INFO".toText
  | .warning => "WARNING".toText
  | .error => "ERROR".toText
  | .critical => "CRITICAL".toText

/-- The levels, the least one first. -/
def all : List Level := [.debug, .info, .warning, .error, .critical]

/-- The level of a name. -/
def ofName? (t : Text) : Option Level := all.find? (·.name == t)

/-- The rank of a level. -/
def rank : Level → Nat
  | .debug => 0
  | .info => 1
  | .warning => 2
  | .error => 3
  | .critical => 4

end Level

/-- The parts of the program that report. -/
inductive Source where
  | patterns
  | table
  | router
  | service
  | launcher
  | commandLine
  deriving DecidableEq

/-- What is reported. -/
inductive Notice where
  /-- A pattern is refused for its scheme. -/
  | badScheme (pattern : Text)
  /-- A pattern is refused for its host, or because it has no path. -/
  | badHost (pattern : Text)
  /-- A route that was taken into a table has no pattern. -/
  | neverMatches (pattern : Text)
  /-- An item of a file is no route, and how many things are wrong with it. -/
  | rejectedItem (index : Nat) (path : Text) (issues : Nat)
  /-- A file has been read, and how many routes it gave. -/
  | loaded (routes : Nat) (path : Text)
  /-- The router takes up its work over a table of this size. -/
  | routerReady (routes : Nat)
  /-- A request is sent on to a proxy. -/
  | routed (tunnel : Bool) (url server : Text)
  /-- Routing a request failed. -/
  | routingFailed (url reason : Text)
  /-- A request for a tunnel is given credentials. -/
  | tunnelRouted (host server : Text)
  /-- Giving credentials to a request for a tunnel failed. -/
  | tunnelFailed (host reason : Text)
  /-- A pattern that was asked about is none. -/
  | rejectedPattern (pattern : Text)
  /-- The service has been started. -/
  | serviceStarted (port : Text)
  /-- No route names a proxy. -/
  | regularMode
  /-- The proxy has been started. -/
  | proxyStarted (port : Text)
  /-- The program ends. -/
  | shuttingDown
  /-- There is no file of routes. -/
  | noTable (path : Text)
  /-- The file of routes cannot be used. -/
  | loadFailed (reason : Text)
  /-- The service did not come up. -/
  | serviceFailed
  deriving DecidableEq

namespace Notice

/-- The part that reports a notice. -/
def source : Notice → Source
  | .badScheme _ | .badHost _ => .patterns
  | .neverMatches _ | .rejectedItem .. | .loaded .. => .table
  | .routerReady _ | .routed .. | .routingFailed .. | .tunnelRouted .. | .tunnelFailed .. =>
    .router
  | .rejectedPattern _ => .service
  | .serviceStarted _ | .regularMode | .proxyStarted _ | .shuttingDown => .launcher
  | .noTable _ | .loadFailed _ | .serviceFailed => .commandLine

/-- The level of a notice. -/
def level : Notice → Level
  | .badScheme _ | .badHost _ | .routed .. | .tunnelRouted .. => .debug
  | .loaded .. | .routerReady _ | .rejectedPattern _ | .serviceStarted _ | .proxyStarted _
  | .shuttingDown => .info
  | .neverMatches _ | .regularMode | .noTable _ => .warning
  | .rejectedItem .. | .routingFailed .. | .tunnelFailed .. | .loadFailed _
  | .serviceFailed => .error

/-- A number of things, in words. -/
def counted (n : Nat) (thing : Text) : Text :=
  Decimal.ofNat n ++ char ' ' :: thing ++ (if n = 1 then [] else [char 's'])

/-- The wording of a notice. -/
def message : Notice → Text
  | .badScheme p => "Invalid scheme in match pattern: ".toText ++ Text.quoted p
  | .badHost p => "Invalid host/path in match pattern: ".toText ++ Text.quoted p
  | .neverMatches p =>
    "Invalid match pattern '".toText ++ p ++ "' (entry will never match)".toText
  | .rejectedItem index path issues =>
    "Proxy entry #".toText ++ Decimal.ofNat index ++ " invalid in ".toText ++ path ++
      ": ".toText ++ counted issues "validation error".toText ++ " for ProxyConfig".toText
  | .loaded routes path =>
    "Loaded ".toText ++ Decimal.ofNat routes ++ " proxy entries from ".toText ++ path
  | .routerReady routes =>
    "ProxyRoute addon initialized with ".toText ++ Decimal.ofNat routes ++ " entries".toText
  | .routed tunnel url server =>
    (if tunnel then "[TUNNEL] ".toText else "[FORWARD] ".toText) ++ url ++ " -> ".toText ++
      server
  | .routingFailed url reason => "Routing error for ".toText ++ url ++ ": ".toText ++ reason
  | .tunnelRouted host server => "[CONNECT] ".toText ++ host ++ " via ".toText ++ server
  | .tunnelFailed host reason =>
    "CONNECT authorization error for ".toText ++ host ++ ": ".toText ++ reason
  | .rejectedPattern p => "Rejected invalid match pattern: ".toText ++ Text.quoted p
  | .serviceStarted port => "API Server started on port ".toText ++ port
  | .regularMode =>
    ("[Orchestrator] No enabled proxy server configured. " ++
      "Running in regular mode.").toText
  | .proxyStarted port => "Mitmproxy running on port ".toText ++ port
  | .shuttingDown => "Shutting down...".toText
  | .noTable path =>
    "Proxy list ".toText ++ path ++ " not found. Starting with no entries.".toText
  | .loadFailed reason => reason
  | .serviceFailed => "Failed to start API Server".toText

end Notice

end ProxySelection
