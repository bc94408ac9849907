import ProxySelection.Url.Proxy
import ProxySelection.Json.Literal
import ProxySelection.Exchange.Headers

/-!
Exchanges: a request on its way, and the connection it is to take.

A connection is made to an address, directly or by way of a next hop. One that is open keeps
the way it was opened with, so rerouting puts a new connection in its place if the way is to
be another, and keeps the one that was there among the former ones, as it was left;
`reroute_via` says that the exchange takes the given way afterwards.
-/

namespace ProxySelection

/-- The proxy that a connection goes by way of, and the protocol spoken with it. -/
structure NextHop where
  scheme : Text
  address : Endpoint
  deriving DecidableEq

/-- A connection. -/
structure Connection where
  /-- Tells one connection from another with equal contents. -/
  serial : Nat
  address : Option Endpoint
  via : Option NextHop
  isOpen : Bool
  deriving DecidableEq

/-- What is noted down with a request that was routed. -/
structure RouteRecord where
  pattern : Text
  server : Text
  tunnel : Bool
  deriving DecidableEq

/-- A request on its way. -/
structure Exchange where
  url : Json
  scheme : Json
  host : Json
  headers : Headers
  connection : Connection
  record : Option RouteRecord
  /-- The connections that were replaced, in order, each as it was left. -/
  former : List Connection
  /-- Connections are numbered in the order in which the exchange takes them. -/
  serial_eq : connection.serial = former.length

namespace Exchange

/-- An exchange without request data whose connection to an address is not open. -/
def fresh (address : Option Endpoint) : Exchange where
  url := .null
  scheme := .null
  host := .null
  headers := []
  connection := ⟨0, address, none, false⟩
  record := none
  former := []
  serial_eq := rfl

/-- The exchange with a new connection to the same address, not open and direct. -/
def reconnect (x : Exchange) : Exchange :=
  { x with
    connection := ⟨x.former.length + 1, x.connection.address, none, false⟩
    former := x.former ++ [x.connection]
    serial_eq := by simp }

/-- The exchange with its connection going the given way. -/
def setVia (x : Exchange) (via : Option NextHop) : Exchange :=
  { x with connection := { x.connection with via } }

/-- Whether the way of an exchange can only be changed by a new connection. -/
def mustReconnect (x : Exchange) (via : Option NextHop) : Bool :=
  x.connection.isOpen && x.connection.via != via

/-- The exchange with the given way to go, and whether this took a new connection. -/
def reroute (x : Exchange) (via : Option NextHop) : Bool × Exchange :=
  if x.mustReconnect via then (true, x.reconnect.setVia via) else (false, x.setVia via)

/-- The exchange takes the given way afterwards. -/
@[simp] theorem reroute_via (x : Exchange) (via : Option NextHop) :
    (x.reroute via).2.connection.via = via := by
  unfold reroute
  split <;> rfl

/-! All that is not about connections stays. -/

@[simp] theorem reroute_headers (x : Exchange) (via : Option NextHop) :
    (x.reroute via).2.headers = x.headers := by
  unfold reroute
  split <;> rfl

@[simp] theorem reroute_record (x : Exchange) (via : Option NextHop) :
    (x.reroute via).2.record = x.record := by
  unfold reroute
  split <;> rfl

@[simp] theorem reroute_url (x : Exchange) (via : Option NextHop) :
    (x.reroute via).2.url = x.url := by
  unfold reroute
  split <;> rfl

@[simp] theorem reroute_scheme (x : Exchange) (via : Option NextHop) :
    (x.reroute via).2.scheme = x.scheme := by
  unfold reroute
  split <;> rfl

@[simp] theorem reroute_host (x : Exchange) (via : Option NextHop) :
    (x.reroute via).2.host = x.host := by
  unfold reroute
  split <;> rfl

end Exchange

end ProxySelection
