import ProxySelection.Exchange.Basic
import ProxySelection.Table.Basic

/-!
Stages of routing.

A stage works on an exchange and on what earlier stages have found, and says whether the next
stage is to follow. The routing stages let web requests pass, select a route and send the
exchange by way of its server; the tunnel stage gives the credentials of a proxy server to a
request addressed to it. What a stage has done before it fails stays done.
-/

namespace ProxySelection

/-- What the stages have found about an exchange. -/
structure Findings where
  /-- The route selected, once a selection was made. -/
  selected : Option (Option Route) := none
  /-- The route whose credentials were given. -/
  authorized : Option Route := none
  /-- Whether the exchange was sent by way of a server. -/
  routed : Bool := false
  deriving DecidableEq

/-- The route by way of whose server an exchange was sent. -/
def Findings.route? (f : Findings) : Option Route := if f.routed then f.selected.join else none

/-- An exchange among the stages. -/
structure Passage where
  exchange : Exchange
  findings : Findings

/-- The stages. -/
inductive Stage where
  /-- Lets everything pass. -/
  | pass
  /-- Lets requests of the web protocols pass. -/
  | web
  /-- Selects a route. -/
  | select
  /-- Sends the exchange by way of the server of the selected route. -/
  | forward
  /-- Gives the credentials of the server that the exchange is addressed to. -/
  | authorize
  deriving DecidableEq

namespace Stage

/-- Why a stage fails. -/
inductive Fault where
  /-- The port of a server, or a number in the place of a URL, cannot be shown. -/
  | number (fault : Decimal.Fault)
  /-- The user name and password of a server cannot be encoded. -/
  | credentials (fault : Utf8.Fault)
  deriving DecidableEq

/-- The wording of a fault. -/
def Fault.message : Fault → Text
  | .number fault => fault.message
  | .credentials fault => fault.message

/-- The header that credentials for a proxy server are given in. -/
def authorizationHeader : Text := "Proxy-Authorization".toText

/-- Whether the protocol of a request is one that routing knows. -/
def isWeb (scheme : Json) : Bool := (scheme.text?.bind WebProtocol.ofName?).isSome

/-- The next hop that a server stands for. -/
def hopOf (server : Url) (address : Endpoint) : NextHop where
  scheme := if server.protocol = some "https".toText then "https".toText else "http".toText
  address

/-- The exchange with the credentials for a server on its request. -/
def withAuthorization (x : Exchange) (value : Text) : Exchange :=
  { x with headers := x.headers.set authorizationHeader value }

/-- Whether credentials belong on a request itself: only plain requests reach the proxy. -/
def isPlain (scheme : Json) : Bool := scheme.text? == some "http".toText

/-- The exchange on its way to the server of a route, which has the given address. -/
def directTo (r : Route) (address : Endpoint) (x : Exchange) : Exchange :=
  (x.reroute (some (hopOf r.server address))).2

/-- The exchange with credentials, if there are any, on its request if that is plain. -/
def give (credentials : Option Text) (x : Exchange) : Exchange :=
  match credentials with
  | some value => if isPlain x.scheme then withAuthorization x value else x
  | none => x

/-- Sends an exchange by way of the server of a route, which has the given address: gives it the
next hop, then the credentials, and notes the server down. -/
def forwardTo (r : Route) (address : Endpoint) (p : Passage) : Except Fault Bool × Passage :=
  let x := directTo r address p.exchange
  match r.server.authorization with
  | .error fault => (.error (.credentials fault), { p with exchange := x })
  | .ok credentials =>
    let x := give credentials x
    match r.server.redacted with
    | .error fault => (.error (.number fault), { p with exchange := x })
    | .ok server =>
      (.ok true, {
        exchange := { x with record := some ⟨r.pattern, server, r.tunnel⟩ }
        findings := { p.findings with routed := true } })

/-- Sends an exchange by way of the server of the selected route, if there is one and it has an
address. -/
def forwardSelected (p : Passage) : Except Fault Bool × Passage :=
  match p.findings.selected with
  | some (some r) =>
    match r.server.endpoint with
    | some address => forwardTo r address p
    | none => (.ok false, p)
  | _ => (.ok false, p)

/-- Whether a route is enabled and its server has the address. -/
def serves (address : Endpoint) (r : Route) : Bool :=
  !r.disabled && r.server.endpoint == some address

/-- The first enabled route whose server has the address and credentials, and those. A server at
the address whose credentials are not to be had ends the search. -/
def findAuthorization (address : Endpoint) :
    List Route → Except Utf8.Fault (Option (Route × Text))
  | [] => .ok none
  | r :: rs =>
    if serves address r then do
      match ← r.server.authorization with
      | some value => return some (r, value)
      | none => findAuthorization address rs
    else findAuthorization address rs

/-- The route that lends an exchange the credentials of the server that it is addressed to, and
those. -/
def lender (t : RouteTable) (x : Exchange) : Except Utf8.Fault (Option (Route × Text)) :=
  match x.connection.address with
  | some address => findAuthorization address t.routes
  | none => .ok none

/-- Gives the credentials of the server that the exchange is addressed to. -/
def authorizeFor (t : RouteTable) (p : Passage) : Except Fault Bool × Passage :=
  match lender t p.exchange with
  | .error fault => (.error (.credentials fault), p)
  | .ok none => (.ok false, p)
  | .ok (some (r, value)) =>
    (.ok true, {
      exchange := withAuthorization p.exchange value
      findings := { p.findings with authorized := some r } })

/-- One stage over a table: whether the next one is to follow, and the passage after it. -/
def apply (t : RouteTable) (s : Stage) (p : Passage) : Run (Except Fault Bool × Passage) :=
  match s with
  | .pass => return (.ok true, p)
  | .web => return (.ok (isWeb p.exchange.scheme), p)
  | .select => do
    match ← (t.select p.exchange.url).outcome with
    | .error fault => return (.error (.number fault), p)
    | .ok r =>
      return (.ok r.isSome, { p with findings := { p.findings with selected := some r } })
  | .forward => return forwardSelected p
  | .authorize => return authorizeFor t p

/-- Stage after stage, up to the first that says the next one is not to follow. -/
def runAll (t : RouteTable) : List Stage → Passage → Run (Except Fault Unit × Passage)
  | [], p => return (.ok (), p)
  | s :: ss, p => do
    match ← s.apply t p with
    | (.ok true, p) => runAll t ss p
    | (.ok false, p) => return (.ok (), p)
    | (.error fault, p) => return (.error fault, p)

/-- The stages of routing a request. -/
def routing : List Stage := [.web, .select, .forward]

/-- The stages of a request for a tunnel. -/
def tunnelling : List Stage := [.authorize]

end Stage

end ProxySelection
