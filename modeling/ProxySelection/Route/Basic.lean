import ProxySelection.Url.Member
import ProxySelection.Pattern.Match

/-!
Routes: a pattern and the proxy server for the URLs it is for.

A route is read from an object (`check`) and written as one (`describe`). `update` changes what
an object of options names: the server by an overlay, along with whether it is a tunnel, the
pattern by a text, and whether the route is disabled by a truth value.
-/

namespace ProxySelection

/-- A pattern and the proxy server for the URLs it is for. -/
structure Route where
  pattern : Text := Pattern.allUrls
  server : Url := .empty
  /-- Whether the server is reached through a tunnel. -/
  tunnel : Bool := false
  /-- Whether the route is passed over. -/
  disabled : Bool := false
  deriving DecidableEq

namespace Route

/-- The name of the member that holds the pattern. -/
def patternName : Text := "match".toText

/-- The name of the member that holds the server. -/
def serverName : Text := "server".toText

/-- The name of the member that says whether the server is a tunnel. -/
def tunnelName : Text := "tunnel".toText

/-- The name of the member that says whether the route is disabled. -/
def disabledName : Text := "disabled".toText

/-! ### Reading and writing -/

/-- The server of a value, which is empty for nothing and for an empty text. -/
def checkServer : Json → Checked Url
  | .null => .ok .empty
  | .str [] => .ok .empty
  | v => Url.check v

/-- The route with the given members; those that are left out are as in the plain route. -/
def ofMembers (ms : Members) : Checked Route :=
  ((((Checked.of Route.mk).also
    (.member ms patternName Pattern.allUrls .text)).also
    (.member ms serverName .empty checkServer)).also
    (.member ms tunnelName false .bool)).also
    (.member ms disabledName false .bool)

/-- The route of a value, which has to be an object. -/
def check : Json → Checked Route
  | .obj ms => ofMembers ms
  | _ => Checked.fail (.notShape "ProxyConfig".toText)

/-- The server as it is shown, with its password masked if that is asked for. -/
def serverShown (r : Route) (redact : Bool) : Except Decimal.Fault Text :=
  if redact then r.server.redacted else r.server.render

/-- The members of a route whose server is shown as the given text. -/
def membersWith (r : Route) (server : Json) : Members := [
  (patternName, .str r.pattern), (serverName, server), (tunnelName, .bool r.tunnel),
  (disabledName, .bool r.disabled)]

/-- The route as an object. -/
def describe (r : Route) (redact : Bool) : Except Decimal.Fault Json := do
  let server ← r.serverShown redact
  return .obj (r.membersWith (.str server))

/-! ### Changing -/

/-- The truth value of a member, if it has one. -/
def boolMember? (ms : Members) (name : Text) : Option Bool :=
  match ms.get? name with
  | some (.bool b) => some b
  | _ => none

/-- The text of a member, if it has one. -/
def textMember? (ms : Members) (name : Text) : Option Text :=
  match ms.get? name with
  | some (.str t) => some t
  | _ => none

/-- Whether options name anything that changes a route. -/
def changes (options : Members) : Bool :=
  (options.get? serverName).isSome || (textMember? options patternName).isSome ||
    (boolMember? options disabledName).isSome

/-- The route with the members that options name. -/
def change (r : Route) (options : Members) : Except Url.OverlayFault Route := do
  let (server, tunnel) ← match options.get? serverName with
    | none => pure (r.server, r.tunnel)
    | some v => do
      let server ← r.server.overlay v
      pure (server, (boolMember? options tunnelName).getD false)
  return {
    pattern := (textMember? options patternName).getD r.pattern
    server
    tunnel
    disabled := (boolMember? options disabledName).getD r.disabled }

/-- The route with the members that options name, or nothing if they name none. -/
def revise (r : Route) : Json → Except Url.OverlayFault (Option Route)
  | .obj options => if changes options then (r.change options).map some else .ok none
  | _ => .ok none

/-- The route with the members that options name. -/
def update (r : Route) (options : Json) : Except Url.OverlayFault Route :=
  (r.revise options).map (·.getD r)

/-! ### Matching -/

/-- Whether the pattern of a route is for a value. -/
def test (r : Route) (url : Json) : Attempt Decimal.Fault Bool :=
  Pattern.test (.str r.pattern) url

/-- Whether the pattern of a route is one. -/
def isLive (r : Route) : Bool := (Pattern.compile r.pattern).isSome

end Route

end ProxySelection
