import ProxySelection.Proofs.Exchange.Credentials

/-!
Tunnels to the server that a request was sent to.

A request that is not plain is sent to the server of its route without credentials, and a
request for a tunnel to this server follows. The first route that does not pass at the address
decides: it lends the tunnel its credentials, or its credentials cannot be encoded and the tunnel
gets none: `tunnel_after_request`. What the tunnel gets is that of the route of the request as long
as all routes in front of it that lend to the address lend the same and none withholds; it need not
be if several routes share one server with different user names: `tunnel_of_other_user`.
-/

namespace ProxySelection

namespace Stage

variable {address : Endpoint} {e : Route} {value : Text} {hs : Headers}

/-- The headers with credentials, if there are some to be had. -/
def headersWith (given : Except Utf8.Fault (Option Text)) (hs : Headers) : Headers :=
  match given with
  | .ok (some value) => hs.set authorizationHeader value
  | .ok none => hs
  | .error _ => hs

/-- The headers with the credentials for a server, if it has a user name and they can be encoded. -/
def headersFor (server : Url) (hs : Headers) : Headers := headersWith server.authorization hs

/-- What the search among routes finds in the way of credentials. -/
def found (address : Endpoint) (rs : List Route) : Except Utf8.Fault (Option Text) :=
  (findAuthorization address rs).map (Option.map Prod.snd)

theorem headersWith_of_unlent {given : Except Utf8.Fault (Option Text)}
    (unlent : ∀ value, given ≠ .ok (some value)) : headersWith given hs = hs := by
  unfold headersWith
  split
  · exact absurd rfl (unlent _)
  · rfl
  · rfl

/-- Where no route lends, nothing is found. -/
theorem headersWith_found_of_unlent {rs : List Route}
    (unlent : ∀ q ∈ rs, ∀ w, ¬ q.Lends address w) : headersWith (found address rs) hs = hs := by
  refine headersWith_of_unlent fun value given => ?_
  unfold found at given
  cases searched : findAuthorization address rs with
  | error fault => simp [searched, Except.map] at given
  | ok lent =>
    obtain ⟨⟨r, w⟩, rfl, rfl⟩ : ∃ pair, lent = some pair ∧ pair.2 = value := by
      simpa [searched, Except.map] using given
    obtain ⟨front, back, split, lends, _⟩ := findAuthorization_eq_some_iff.mp searched
    exact unlent r (by simp [split]) w lends

/-- What is found is that of a route at the address if no route in front of it lends anything else,
none there withholds if it lends, and none behind it lends if it has no user name. -/
theorem headersWith_found_of_agreeing {front back : List Route} (enabled : e.disabled = false)
    (located : e.server.endpoint = some address)
    (agree : ∀ q ∈ front, ∀ w, q.Lends address w → e.server.authorization = .ok (some w))
    (given : ∀ w, e.server.authorization = .ok (some w) →
      ∀ q ∈ front, ∀ fault, ¬ q.Withholds address fault)
    (alone : e.server.authorization = .ok none → ∀ q ∈ back, ∀ w, ¬ q.Lends address w) :
    headersWith (found address (front ++ e :: back)) hs = headersFor e.server hs := by
  have own : loan address e = e.server.authorization.map (Option.map fun w => (e, w)) :=
    if_pos (serves_iff.mpr ⟨enabled, located⟩)
  unfold headersFor found
  rw [findAuthorization_append]
  cases ahead : findAuthorization address front with
  | error fault =>
    obtain ⟨first, q, behind, split, withholds, _⟩ := findAuthorization_eq_error_iff.mp ahead
    have unlent : ∀ w, e.server.authorization ≠ .ok (some w) :=
      fun w lent => given w lent q (by simp [split]) fault withholds
    exact (headersWith_of_unlent unlent).symm
  | ok lent =>
    cases lent with
    | some pair =>
      obtain ⟨first, behind, split, lends, _⟩ := findAuthorization_eq_some_iff.mp ahead
      rw [agree pair.1 (by simp [split]) pair.2 lends]
      rfl
    | none =>
      rw [if_pos rfl, findAuthorization_cons, own]
      cases lent : e.server.authorization with
      | error fault => rfl
      | ok w =>
        cases w with
        | some w => rfl
        | none =>
          have passed : (Except.ok none : Except Utf8.Fault (Option Text)).map
              (Option.map fun w => (e, w)) = .ok none := rfl
          rw [if_pos passed]
          exact headersWith_found_of_unlent (alone lent)

end Stage

namespace Router

variable {s : Session} {t : RouteTable} {y : Exchange} {address : Endpoint}

theorem requestTunnel_headers (reached : s.cache.Reachable)
    (addressed : y.connection.address = some address) :
    ((requestTunnel t y).result s).2.headers =
      Stage.headersWith (Stage.found address t.routes) y.headers := by
  have searched : Stage.lender t y = Stage.findAuthorization address t.routes := by
    rw [Stage.lender, addressed]
  rw [requestTunnel_exchange reached t y, searched, Stage.found]
  cases Stage.findAuthorization address t.routes with
  | error fault => rfl
  | ok lent => cases lent <;> rfl

/-- **The tunnel after a request.** A request that is not plain is sent to the server of its
route `e`, and a request for a tunnel to the address of that follows. The first route that does not
pass at the address decides: if it lends its credentials the tunnel is given them, and it is left
alone if they cannot be encoded or all routes pass. So the tunnel is given the credentials of `e`,
if there are some to be had, as long as no route in front of `e` lends others, nor withholds its own
while `e` lends some, and none at all lends some in case `e` has no user name. -/
theorem tunnel_after_request {s s' : Session} (reached : s.cache.Reachable)
    (reached' : s'.cache.Reachable) {t : RouteTable} {x y : Exchange} {e : Route}
    (secure : x.scheme = .str "https".toText)
    (chosen : (t.select x.url).outcome.result s = .ok (some e))
    (nonempty : e.server.isEmpty = false)
    (addressed : y.connection.address =
      ((request t x).result s).2.connection.via.map (·.address)) :
    ∃ a, e.server.endpoint = some a ∧
      (∀ front r back value, t.routes = front ++ r :: back → r.Lends a value →
        (∀ q ∈ front, q.Passes a) → ((requestTunnel t y).result s').2.headers =
          y.headers.set Stage.authorizationHeader value) ∧
      (∀ front r back fault, t.routes = front ++ r :: back → r.Withholds a fault →
        (∀ q ∈ front, q.Passes a) → ((requestTunnel t y).result s').2.headers = y.headers) ∧
      ((∀ r ∈ t.routes, r.Passes a) → ((requestTunnel t y).result s').2.headers = y.headers) ∧
      ∃ front back, t.routes = front ++ e :: back ∧ (∀ q ∈ front, ¬ q.Serves x.url) ∧
        ((∀ q ∈ front, ∀ w, q.Lends a w → e.server.authorization = .ok (some w)) →
          (∀ w, e.server.authorization = .ok (some w) → ∀ q ∈ front, ∀ f, ¬ q.Withholds a f) →
          (e.server.authorization = .ok none → ∀ q ∈ back, ∀ w, ¬ q.Lends a w) →
          ((requestTunnel t y).result s').2.headers = Stage.headersFor e.server y.headers) := by
  have selected : t.search x = .ok (some e) := by
    rw [(t.select_gives x.url).result_eq reached] at chosen
    rw [RouteTable.search, if_pos (Stage.isWeb_iff.mpr (.inr secure)), chosen]
  have route := RouteTable.routeFor_eq_some_iff.mpr selected
  obtain ⟨_, enabled, _⟩ := RouteTable.serves_of_routeFor route
  obtain ⟨front, back, split, _, before⟩ := RouteTable.split_of_routeFor route
  obtain ⟨a, located⟩ := Url.isEmpty_eq_false_iff.mp nonempty
  rw [request_address reached selected located] at addressed
  rw [requestTunnel_headers reached' addressed]
  refine ⟨a, located, ?_, ?_, ?_, front, back, split, before, ?_⟩
  · intro front r back value split lends first
    rw [Stage.found,
      Stage.findAuthorization_eq_some_iff.mpr ⟨front, back, split, lends, first⟩]
    rfl
  · intro front r back fault split withholds first
    rw [Stage.found,
      Stage.findAuthorization_eq_error_iff.mpr ⟨front, r, back, split, withholds, first⟩]
    rfl
  · intro passed
    rw [Stage.found, Stage.findAuthorization_eq_none_iff.mpr passed]
    rfl
  · intro agree given alone
    rw [split]
    exact Stage.headersWith_found_of_agreeing enabled located agree given alone

/-- The third route is the one for the request. Its credentials are given for the tunnel, as of
the other routes for its server the first has no user name and the second is disabled. -/
theorem tunnel_after_request_of_third :
    let server (username : Option Text) : Url := {
      username, password := some "p".toText, host := some "px".toText, port := some 8 }
    let r : Route := { pattern := "*://*.z/*".toText, server := server none }
    let r' : Route := { server := server (some "v".toText), disabled := true }
    let e : Route := { server := server (some "u".toText) }
    let t : RouteTable := ⟨[r, r', e]⟩
    let proxy : Endpoint := { host := "px".toText, port := 8 }
    let x : Exchange := { Exchange.fresh none with
      url := .str "https://a.b/".toText
      scheme := .str "https".toText }
    let y : Exchange := Exchange.fresh (some proxy)
    Session.start.cache.Reachable ∧ x.scheme = .str "https".toText ∧
      (t.select x.url).outcome.result Session.start = .ok (some e) ∧
      e.server.isEmpty = false ∧ y.connection.address =
        ((request t x).result Session.start).2.connection.via.map (·.address) ∧
      ((requestTunnel t y).result Session.start).2.headers =
        [(Stage.authorizationHeader, "Basic dTpw".toText)] := by
  intro server r r' e t proxy x y
  have reached : Session.start.cache.Reachable := .ofCapacity _
  have secure : x.scheme = .str "https".toText := rfl
  have route : t.search x = .ok (some e) := by decide
  have chosen : (t.select x.url).outcome.result Session.start = .ok (some e) := by
    rw [(t.select_gives x.url).result_eq reached]
    exact route
  have nonempty : e.server.isEmpty = false := rfl
  have located : e.server.endpoint = some proxy := rfl
  have credentials : e.server.authorization = .ok (some "Basic dTpw".toText) := by decide
  have addressed : y.connection.address =
      ((request t x).result Session.start).2.connection.via.map (·.address) :=
    (request_address reached route located).symm
  have given : y.headers.set Stage.authorizationHeader "Basic dTpw".toText =
    [(Stage.authorizationHeader, "Basic dTpw".toText)] := rfl
  refine ⟨reached, secure, chosen, nonempty, addressed, ?_⟩
  obtain ⟨a, located', first, _⟩ :=
    tunnel_after_request reached reached secure chosen nonempty addressed
  obtain rfl : proxy = a := Option.some.inj (located.symm.trans located')
  have lends : e.Lends proxy "Basic dTpw".toText := .of rfl located credentials
  rw [← given]
  refine first [r, r'] e [] _ rfl lends ?_
  intro q mem
  refine Stage.loan_eq_none_iff.mp ?_
  rcases List.mem_pair.mp mem with rfl | rfl <;> decide

/-- With two users of one server, the tunnel for a request of the second is given the
credentials of the first. -/
theorem tunnel_of_other_user :
    ¬ ∀ (s s' : Session) (t : RouteTable) (x y : Exchange) (e : Route),
      s.cache.Reachable → s'.cache.Reachable → x.scheme = .str "https".toText →
      (t.select x.url).outcome.result s = .ok (some e) → e.server.isEmpty = false →
      y.connection.address = ((request t x).result s).2.connection.via.map (·.address) →
      ((requestTunnel t y).result s').2.headers = Stage.headersFor e.server y.headers := by
  intro always
  let server (name : Text) : Url := {
    username := some name, password := some "p".toText, host := some "px".toText, port := some 8 }
  let r : Route := { pattern := "*://*.z/*".toText, server := server "v".toText }
  let e : Route := { server := server "u".toText }
  let t : RouteTable := ⟨[r, e]⟩
  let proxy : Endpoint := { host := "px".toText, port := 8 }
  let x : Exchange := { Exchange.fresh none with
    url := .str "https://a.b/".toText
    scheme := .str "https".toText }
  let y : Exchange := Exchange.fresh (some proxy)
  have reached : Session.start.cache.Reachable := .ofCapacity _
  have secure : x.scheme = .str "https".toText := rfl
  have route : t.search x = .ok (some e) := by decide
  have chosen : (t.select x.url).outcome.result Session.start = .ok (some e) := by
    rw [(t.select_gives x.url).result_eq reached]
    exact route
  have nonempty : e.server.isEmpty = false := rfl
  have located : e.server.endpoint = some proxy := rfl
  have addressed : y.connection.address = some proxy := rfl
  have own := always Session.start Session.start t x y e reached reached secure chosen nonempty
    (addressed.trans (request_address reached route located).symm)
  have found : Stage.found proxy t.routes = .ok (some "Basic djpw".toText) := by decide
  have given : ((requestTunnel t y).result Session.start).2.headers =
      y.headers.set Stage.authorizationHeader "Basic djpw".toText := by
    rw [requestTunnel_headers reached addressed, found]
    rfl
  have other : y.headers.set Stage.authorizationHeader "Basic djpw".toText ≠
      Stage.headersFor e.server y.headers := by decide
  exact other (given.symm.trans own)

end Router

end ProxySelection
