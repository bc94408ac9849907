import ProxySelection.Exchange.Stage

/-!
The router: what is done with a request, and with a request for a tunnel.

A request is sent by way of the server of the selected route, or directly if none is selected.
A request for a tunnel to a proxy server is given its credentials. Whatever fails while the
stages run is reported and ends the work on the exchange.
-/

namespace ProxySelection

namespace Router

/-- Why an exchange cannot be reported. -/
inductive Fault where
  /-- The port of a server, or a number in the place of a text, cannot be shown. -/
  | number (fault : Decimal.Fault)
  /-- The URL of a request has no beginning that can be shown. -/
  | noExcerpt
  deriving DecidableEq

/-- Takes up work over a table. -/
def start (t : RouteTable) : Run Unit := Run.note (.routerReady t.size)

/-- How many characters of a URL are reported. -/
def excerptLength : Nat := 80

/-- A value as it is reported. -/
def told (v : Json) : Except Fault Text :=
  if v.isShowable then .ok v.shown else .error (.number .tooLongToWrite)

/-- The beginning of a URL as it is reported; only texts and lists have one. -/
def excerpt : Json → Except Fault Text
  | .str t => .ok (t.take excerptLength)
  | .arr items => told (.arr (items.take excerptLength))
  | _ => .error .noExcerpt

/-- What is reported about a server of that URL, if it can be shown. -/
def shown (server : Url) : Except Fault Text := server.redacted.mapError .number

/-- Gives a notice if it can be put into words. -/
def report (n : Except Fault Notice) : Run (Except Fault Unit) := do
  match n with
  | .ok n =>
    Run.note n
    return .ok ()
  | .error fault => return .error fault

/-- The notice that a request failed among the stages. -/
def failure (x : Exchange) (fault : Stage.Fault) : Except Fault Notice := do
  return .routingFailed (← told x.url) fault.message

/-- The notice that a request was sent by way of the server of a route. -/
def success (r : Route) (x : Exchange) : Except Fault Notice := do
  return .routed r.tunnel (← excerpt x.url) (← shown r.server)

/-- The notice that a request for a tunnel failed among the stages. -/
def tunnelFailure (x : Exchange) (fault : Stage.Fault) : Except Fault Notice := do
  return .tunnelFailed (← told x.host) fault.message

/-- The notice that a request for a tunnel was given the credentials of a route. -/
def tunnelSuccess (r : Route) (x : Exchange) : Except Fault Notice := do
  return .tunnelRouted (← told x.host) (← shown r.server)

/-- What is done with a request. -/
def request (t : RouteTable) (x : Exchange) : Run (Except Fault Unit × Exchange) := do
  match ← Stage.runAll t Stage.routing ⟨x, {}⟩ with
  | (.error fault, p) => return (← report (failure x fault), p.exchange)
  | (.ok (), p) =>
    match p.findings.route? with
    | some r => return (← report (success r x), p.exchange)
    | none => return (.ok (), (p.exchange.reroute none).2)

/-- What is done with a request for a tunnel. -/
def requestTunnel (t : RouteTable) (x : Exchange) : Run (Except Fault Unit × Exchange) := do
  match ← Stage.runAll t Stage.tunnelling ⟨x, {}⟩ with
  | (.error fault, p) => return (← report (tunnelFailure x fault), p.exchange)
  | (.ok (), p) =>
    match p.findings.authorized with
    | some r => return (← report (tunnelSuccess r x), p.exchange)
    | none => return (.ok (), p.exchange)

end Router

end ProxySelection
