import ProxySelection.Service.Target
import ProxySelection.Table.Basic
import ProxySelection.Text.Lines

/-!
Requests to the service that answers questions about routes over HTTP, its answers, and the
endpoints at which it is asked.

The service tells its state, selects the route for a URL, tests a pattern against a URL and
lists the routes. There are pages about it too, whose contents are not kept here.
-/

namespace ProxySelection

namespace Service

/-- A request: method, target and body. -/
structure Request where
  method : Text
  target : Text
  body : List UInt8

/-- An answer: status and body, if there is one in JSON. -/
structure Reply where
  status : Nat
  body : Option Json

/-- Why a request is not answered. -/
inductive Fault where
  /-- Its target is refused. -/
  | target (fault : Target.Fault)
  /-- The server of a route cannot be shown by itself. -/
  | server (fault : Decimal.Fault)
  /-- The server of a route cannot be shown in the list of routes. -/
  | listing (fault : Decimal.Fault)
  /-- The answer would show a number that is not finite. -/
  | notFinite
  /-- The answer would hold a text with a surrogate. -/
  | notEncodable

/-- The wording of a fault. -/
def Fault.message : Fault → Text
  | .target fault => fault.message
  | .server fault | .listing fault => fault.message
  | .notFinite => "Out of range float values are not JSON compliant".toText
  | .notEncodable => "surrogates not allowed".toText

/-! ### Endpoints -/

/-- What the service can be asked for. -/
inductive Endpoint where
  | health
  | resolve
  | test
  | list
  /-- A page about the service. -/
  | page
  deriving DecidableEq

/-- The endpoints and their paths. -/
def endpoints : List (Text × Endpoint) := [
  ("/health".toText, .health), ("/v1/resolve".toText, .resolve), ("/v1/test".toText, .test),
  ("/v1/proxies".toText, .list), ("/openapi.json".toText, .page), ("/docs".toText, .page),
  ("/docs/oauth2-redirect".toText, .page), ("/redoc".toText, .page)]

/-- The methods by which an endpoint is asked. -/
def Endpoint.methods : Endpoint → List Text
  | .health | .list => ["GET".toText]
  | .resolve | .test => ["POST".toText]
  | .page => ["GET".toText, "HEAD".toText]

/-- The endpoint of a path as it stands; one line feed at its end does not count. -/
def exactEndpointAt (path : Text) : Option Endpoint :=
  endpoints.lookup (Text.withoutFinalLineFeed path)

/-- The endpoint of a path. Where there is none, slashes at the end do not count. -/
def endpointAt (path : Text) : Option Endpoint :=
  match exactEndpointAt path with
  | some e => some e
  | none =>
    if path.getLast? = some (char '/') then exactEndpointAt (Text.dropEndWhile (· = '/') path)
    else none

/-! ### Answers -/

/-- An object with the given members. -/
def object (ms : List (String × Json)) : Json := .obj (ms.map fun m => (m.1.toText, m.2))

/-- An answer with a body. -/
def success (ms : List (String × Json)) : Reply := ⟨200, some (object ms)⟩

/-- An answer that says why a request is refused. -/
def refusal (status : Nat) (detail : Json) : Reply := ⟨status, some (object [("detail", detail)])⟩

/-- An issue as an object. -/
def describeIssue (i : Issue) : Json :=
  object [
    ("loc", .arr (i.path.map fun
      | .member name => .str name
      | .offset n => .int n)),
    ("type", .str i.cause.type), ("msg", .str i.cause.message)]

/-- The answer to a request with issues in its body. -/
def issuesReply (issues : List Issue) : Reply :=
  refusal 422 (.arr ((issues.map (·.under "body".toText)).map describeIssue))

/-- The answer to a request for something unknown. -/
def notFound : Reply := refusal 404 (.str "Not Found".toText)

/-- The answer to a request by a method that is not used there. -/
def methodNotAllowed : Reply := refusal 405 (.str "Method Not Allowed".toText)

/-- The answer to a request whose body is out of bounds. -/
def unreadable : Reply := refusal 400 (.str "There was an error parsing the body".toText)

/-- The answer with a page. -/
def pageReply : Reply := ⟨200, none⟩

end Service

end ProxySelection
