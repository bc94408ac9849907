import ProxySelection.Service.Body

/-!
The answers of the service.

Passwords are masked in all of them. A request that does not fit is answered with the issues
found in it, and one by the method `HEAD` without a body.
-/

namespace ProxySelection

namespace Service

/-- The answer about the state. -/
def health (t : RouteTable) : Reply :=
  success [
    ("status", .str "ok".toText), ("service", .str "proxyroute".toText),
    ("proxies", .int t.size)]

/-- The answer that no route was selected. -/
def noRoute : Reply :=
  success [
    ("matched", .bool false), ("match", .null), ("server", .null), ("tunnel", .bool false)]

/-- The answer that a route was selected. -/
def routeReply (r : Route) : Except Decimal.Fault Reply := do
  let server ← r.server.redacted
  return success [
    ("matched", .bool true), ("match", .str r.pattern),
    ("server", if server.isEmpty then .null else .str server), ("tunnel", .bool r.tunnel)]

/-- The answer which route is selected for a URL. -/
def resolve (t : RouteTable) (url : Text) : Attempt Fault Reply := do
  match ← (t.select (.str url)).adapt .server with
  | none => return noRoute
  | some r => Attempt.ofExcept ((routeReply r).mapError .server)

/-- The answer whether a text is a pattern and is for a URL. -/
def test (pattern url : Text) : Attempt Fault Reply := do
  let valid := (← Run.compile pattern).isSome
  if !valid then Run.note (.rejectedPattern pattern)
  let matched ← (Pattern.test (.str pattern) (.str url)).adapt .server
  return success [("matched", .bool matched), ("valid", .bool valid)]

/-- The answer that lists the routes. -/
def list (t : RouteTable) : Except Fault Reply := do
  let routes ← (t.describe true).mapError .listing
  return success [("proxies", .arr routes)]

/-- The answer to what a request asks about. -/
def reply {α : Type} (answer : α → Attempt Fault Reply) : Except Rejection α → Attempt Fault Reply
  | .ok a => answer a
  | .error (.refused reply) => return reply
  | .error (.failed fault) => throw fault

/-- What an endpoint replies to a body, over a table. -/
def replyAt (depth : Nat) (t : RouteTable) (body : List UInt8) : Endpoint → Attempt Fault Reply
  | .health => return health t
  | .list => Attempt.ofExcept (list t)
  | .page => return pageReply
  | .resolve => reply (resolve t) (question depth urlOf body)
  | .test => reply (fun (pattern, url) => test pattern url) (question depth patternAndUrlOf body)

/-- A reply, if its body can be encoded. -/
def encodable (r : Reply) : Except Fault Reply :=
  if r.body.all Json.isEncodable then .ok r else .error .notEncodable

/-- The answer of an endpoint to a body, over a table. -/
def answerAt (depth : Nat) (t : RouteTable) (body : List UInt8) (e : Endpoint) :
    Attempt Fault Reply := do
  Attempt.ofExcept (encodable (← replyAt depth t body e))

/-- The answer to a request as if it were by a method with a body, over a table. -/
def fullAnswer (depth : Nat) (t : RouteTable) (r : Request) : Attempt Fault Reply := do
  let path ← Attempt.ofExcept ((Target.path? r.target).mapError .target)
  match path.bind endpointAt with
  | none => return notFound
  | some e =>
    if e.methods.contains r.method then answerAt depth t r.body e else return methodNotAllowed

/-- The answer to a request, over a table, where a body may have arrays and objects `depth` deep
inside each other. -/
def answer (depth : Nat) (t : RouteTable) (r : Request) : Attempt Fault Reply := do
  let full ← fullAnswer depth t r
  return if r.method = "HEAD".toText then { full with body := none } else full

/-- The table that the service is started with, from the one that routing uses. -/
def publish (t : RouteTable) (port : Text) : Run RouteTable := do
  let published ← RouteTable.ofRoutes t.routes
  Run.note (.serviceStarted port)
  return published

end Service

end ProxySelection
