import ProxySelection.Exchange.Router

/-!
Launching: the mode in which the proxy starts, and the steps of starting and ending it.

The proxy starts in the mode for a fixed next hop, that of the first enabled route with a
server, so that the way of single exchanges can be changed; without such a route it starts in
regular mode.
-/

namespace ProxySelection

namespace Launch

/-- The first route that is enabled and has a server. -/
def firstServing (t : RouteTable) : Option Route :=
  t.routes.find? fun r => !r.disabled && !r.server.isEmpty

/-- The mode for a server whose host and port are shown as given. -/
def modeFor (server : Url) (remote : Text) : Text :=
  let protocol := match server.protocol with
    | some (c :: name) => c :: name
    | _ => "http".toText
  "upstream:".toText ++ protocol ++ "://".toText ++ remote

/-- The mode in which the proxy starts. -/
def mode (t : RouteTable) : Attempt Decimal.Fault Text := do
  match firstServing t with
  | some r => return modeFor r.server (← Attempt.ofExcept r.server.remote)
  | none =>
    Run.note .regularMode
    return "regular".toText

/-- A step of starting or ending the proxy. -/
inductive Step where
  /-- The proxy is set up to listen on a host and port in a mode. -/
  | setUp (host : Text) (port : Json) (mode : Text)
  /-- A router over a table of this size is put into it. -/
  | addRouter (routes : Nat)
  | run
  | shutDown

/-- The host that the proxy listens on. -/
def listenHost : Text := "127.0.0.1".toText

/-- Why the proxy is not started. -/
inductive Fault where
  /-- The server of a route cannot be shown. -/
  | server (fault : Decimal.Fault)
  /-- The port is no integer. -/
  | notPort

/-- Whether a value may be given as a port. Without one the proxy takes the port of its mode. -/
def isPort : Json → Bool
  | .null | .bool _ | .int _ => true
  | _ => false

/-- The proxy is started over a table, runs and ends. -/
def runProxy (t : RouteTable) (port : Json) : Attempt Fault (List Step) := do
  let mode ← (mode t).adapt .server
  if !isPort port then throw .notPort
  Router.start t
  Run.note (.proxyStarted port.shown)
  Run.note .shuttingDown
  return [.setUp listenHost port mode, .addRouter t.size, .run, .shutDown]

end Launch

end ProxySelection
