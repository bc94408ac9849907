import ProxySelection.Proofs.Exchange.Routing
import ProxySelection.Proofs.Service.Usable

/-!
The mode in which the proxy starts, and the routes.

In regular mode the proxy does not take a next hop from an exchange, and it starts so only where no
request has one: no route that is enabled has a server. Otherwise it starts in the mode for the
server of the first such route. This mode is a text that is put together of the protocol, the host
and the port, and read again on the other side. A server that was given as a text is found in it
again, without its credentials (`parse_remote`), unless brackets in the credentials hid those
of the host from the check. A server whose port is not legible has no such text, and the proxy does
not start: `mode_fits_routes`.
-/

namespace ProxySelection

/-! ### A server without its credentials -/

namespace Url

variable {t remote : Text} {u : Url}

/-- Behind a protocol, host and port of a parsed URL are parsed to the URL with that protocol and
without credentials and path, if there are no brackets in the credentials. -/
theorem parse_remote {q : Text} (parsed : parse t = .ok u) (shown : u.remote = .ok remote)
    (bracketless : ∀ c ∈ Authority.userText u.username u.password, isBracket c = false)
    (isProtocol : IsProtocol q) :
    parse (q ++ protocolMark ++ remote) =
      .ok { u with
        protocol := some q, username := none, password := none, path := [char '/'] } := by
  have isAuthority := isAuthorityText_remote parsed shown
  obtain ⟨s, a, path, read, hosted, _, _, _, whole⟩ := parts_of_parse parsed
  rw [whole] at parsed shown bracketless ⊢
  obtain rfl := Except.ok.inj ((remote_ofParts parsed).symm.trans shown)
  have unopened : char '[' ∉ Authority.userText a.username a.password := by
    intro mem
    cases bracketless _ mem
  have unclosed : char ']' ∉ Authority.userText a.username a.password := by
    intro mem
    cases bracketless _ mem
  have alone := Authority.read_hostAndPort read hosted ⟨unopened, unclosed⟩
  have given : ∀ p, some q = some p → IsProtocol p := by
    rintro _ ⟨⟩
    exact isProtocol
  have isPath : IsPathText [] := ⟨by simp, by simp⟩
  rw [show q ++ protocolMark ++ (a.host ++ Authority.portPart a.port) =
    protocolText (some q) ++ (a.host ++ Authority.portPart a.port ++ []) by simp [protocolText]]
  exact (parse_append_iff given isAuthority isPath).mpr ⟨_, alone, by simpa using hosted, rfl⟩

end Url

namespace Launch

variable {t : RouteTable} {r : Route} {u : Url} {remote : Text}

/-- No request is sent by way of the route: it is disabled or has no server. -/
def IsIdle (r : Route) : Prop := r.disabled = true ∨ r.server.isEmpty = true

/-- The route is the first that is not idle. -/
def IsFirstServing (t : RouteTable) (r : Route) : Prop :=
  ∃ front back, t.routes = front ++ r :: back ∧ ¬ IsIdle r ∧ ∀ q ∈ front, IsIdle q

/-- The mode names a URL without credentials that has the host, the port and the address of the
server. -/
def LeadsTo (mode : Text) (server : Url) : Prop :=
  ∃ text w, mode = "upstream:".toText ++ text ∧ Url.parse text = .ok w ∧
    w.username = none ∧ w.password = none ∧ w.host = server.host ∧ w.port = server.port ∧
    w.portText = server.portText ∧ w.endpoint = server.endpoint

/-! ### The first route with a server -/

theorem isIdle_iff : IsIdle r ↔ ¬ (!r.disabled && !r.server.isEmpty) = true := by
  simp only [IsIdle, Bool.and_eq_true, Bool.not_eq_true', not_and, Bool.not_eq_false]
  rw [← Bool.not_eq_false, or_iff_not_imp_left, not_not]

theorem firstServing_eq_none_iff : firstServing t = none ↔ ∀ r ∈ t.routes, IsIdle r := by
  simp only [firstServing, List.find?_eq_none, isIdle_iff]

theorem firstServing_eq_some_iff : firstServing t = some r ↔ IsFirstServing t r := by
  simp only [firstServing, List.find?_eq_some_iff_append, IsFirstServing, isIdle_iff, not_not,
    Bool.not_eq_true']
  constructor
  · rintro ⟨serves, front, back, split, before⟩
    exact ⟨front, back, split, serves, fun q mem => by simp [before q mem]⟩
  · rintro ⟨front, back, split, serves, before⟩
    exact ⟨serves, front, back, split, fun q mem => by simpa using before q mem⟩

/-- Over idle routes the search for a route gives no next hop. -/
theorem nextHop_of_idle (idle : ∀ r ∈ t.routes, IsIdle r) {x : Exchange} {e : Option Route}
    (found : t.search x = .ok e) : e.bind Route.nextHop = none := by
  rw [Option.bind_eq_none_iff]
  rintro r rfl
  obtain ⟨mem, enabled, _⟩ :=
    RouteTable.serves_of_routeFor (RouteTable.routeFor_eq_some_iff.mpr found)
  rcases idle r mem with disabled | empty
  · rw [enabled] at disabled
    cases disabled
  · exact Route.nextHop_eq_none_iff.mpr empty

/-- Over idle routes a request goes directly, or it stays as it was since its URL cannot be
shown. -/
theorem request_of_idle {s : Session} (reached : s.cache.Reachable)
    (idle : ∀ r ∈ t.routes, IsIdle r) (x : Exchange) :
    ((Router.request t x).result s).2.connection.via = none ∨
      x.url.isShowable = false ∧ ((Router.request t x).result s).2 = x := by
  cases found : t.search x with
  | error fault =>
    exact .inr ⟨(RouteTable.unshown_of_search found).2, Router.request_broken reached found⟩
  | ok e =>
    left
    rw [Router.request_direct reached found (nextHop_of_idle idle found), Exchange.reroute_via]

/-! ### The mode for a server -/

theorem modeFor_of_named (named : u.protocol ≠ some []) (remote : Text) :
    modeFor u remote =
      "upstream:".toText ++ (u.protocol.getD "http".toText ++ Url.protocolMark ++ remote) := by
  unfold modeFor Url.protocolMark
  rcases protocol : u.protocol with _ | _ | ⟨c, q⟩
  · simp
  · exact absurd protocol named
  · simp

theorem modeFor_upstream (u : Url) (remote : Text) :
    ∃ text, modeFor u remote = "upstream:".toText ++ text := by
  have regroup (a b c d : Text) : a ++ b ++ c ++ d = a ++ (b ++ (c ++ d)) := by simp
  exact ⟨_, regroup _ _ _ _⟩

theorem modeFor_ne_regular (u : Url) (remote : Text) : modeFor u remote ≠ "regular".toText := by
  obtain ⟨text, same⟩ := modeFor_upstream u remote
  rw [same]
  intro equal
  cases equal

/-- Without a protocol the port is that of `http`. -/
theorem defaultPort_getD (protocol : Option Text) :
    Url.defaultPort (some (protocol.getD "http".toText)) = Url.defaultPort protocol := by
  cases protocol with
  | none => decide
  | some q => rfl

/-- The mode for a server that was parsed leads to it. -/
theorem leadsTo_modeFor {given : Text} (parsed : Url.parse given = .ok u)
    (shown : u.remote = .ok remote)
    (bracketless : ∀ c ∈ Authority.userText u.username u.password, Url.isBracket c = false) :
    LeadsTo (modeFor u remote) u := by
  obtain ⟨_, _, _, _, _, _, _, isProtocol, _⟩ := Url.parts_of_parse parsed
  have named : u.protocol ≠ some [] := by
    intro empty
    obtain ⟨_, _, other, _⟩ := isProtocol [] empty
    cases other
  have spoken : Url.IsProtocol (u.protocol.getD "http".toText) := by
    cases found : u.protocol with
    | none => exact ⟨char 'h', "ttp".toText, rfl, rfl, by decide⟩
    | some q => exact isProtocol q found
  refine ⟨_, _, modeFor_of_named named remote, Url.parse_remote parsed shown bracketless spoken,
    rfl, rfl, rfl, rfl, rfl, ?_⟩
  simp only [Url.endpoint, defaultPort_getD]

/-! ### The mode for a table -/

theorem startingMode_of_some (first : firstServing t = some r) :
    startingMode t = r.server.remote.map (modeFor r.server) := by
  rw [startingMode, first]

/-- The mode is the regular one only if no route has a server to start with. -/
theorem startingMode_eq_regular_iff :
    startingMode t = .ok "regular".toText ↔ ∀ r ∈ t.routes, IsIdle r := by
  rw [← firstServing_eq_none_iff]
  cases first : firstServing t with
  | none => simp [startingMode, first]
  | some r =>
    rw [startingMode_of_some first]
    cases r.server.remote with
    | error fault => simp [Except.map]
    | ok remote => simpa [Except.map] using modeFor_ne_regular r.server remote

/-- Any other mode is one for a server. -/
theorem upstream_of_startingMode {m : Text} (first : firstServing t = some r)
    (starts : startingMode t = .ok m) : ∃ text, m = "upstream:".toText ++ text := by
  rw [startingMode_of_some first] at starts
  cases shown : r.server.remote with
  | error fault =>
    rw [shown] at starts
    cases starts
  | ok remote =>
    rw [shown] at starts
    obtain rfl := Except.ok.inj starts
    exact modeFor_upstream r.server remote

theorem startingMode_isOk_iff_legible (first : firstServing t = some r)
    (short : r.server.HasShortPort) :
    (∃ m, startingMode t = .ok m) ↔ r.server.HasLegiblePort := by
  rw [startingMode_of_some first, isOk_map_iff]
  exact Url.remote_isOk_iff short

/-- **The mode fits the routes.** The proxy starts in regular mode exactly if no enabled route has a
server, and then every request goes directly, except one whose URL cannot be shown: that may stay as
it was. Otherwise it starts in the mode for the server of the first route that has one, or not at
all if host and port of this server cannot be shown: if the port is not legible, that is. For a
server that was given as a text there is such a mode, and it leads to the server if no bracket
stands in its credentials. -/
theorem mode_fits_routes {s : Session} (reached : s.cache.Reachable) (t : RouteTable) :
    let outcome := (mode t).outcome.result s
    (outcome = .ok "regular".toText ↔ ∀ r ∈ t.routes, IsIdle r) ∧
    (outcome = .ok "regular".toText → ∀ (s' : Session) (x : Exchange), s'.cache.Reachable →
      ((Router.request t x).result s').2.connection.via = none ∨
        x.url.isShowable = false ∧ ((Router.request t x).result s').2 = x) ∧
    (outcome ≠ .ok "regular".toText → ∃ r, IsFirstServing t r) ∧
    ∀ r, IsFirstServing t r →
      (∀ m, outcome = .ok m → ∃ text, m = "upstream:".toText ++ text) ∧
      (∀ fault, outcome = .error fault ↔ r.server.remote = .error fault) ∧
      (r.server.HasShortPort → ((∃ m, outcome = .ok m) ↔ r.server.HasLegiblePort)) ∧
      (r.ServerIsText →
        (∀ c ∈ Authority.userText r.server.username r.server.password, Url.isBracket c = false) →
          ∃ m, outcome = .ok m ∧ LeadsTo m r.server) := by
  obtain ⟨_, gives⟩ := mode_gives t
  rw [gives.result_eq reached]
  refine ⟨startingMode_eq_regular_iff, fun regular s' x reached' => ?_, fun other => ?_,
    fun r chosen => ?_⟩
  · exact request_of_idle reached' (startingMode_eq_regular_iff.mp regular) x
  · cases first : firstServing t with
    | none =>
      have idle := firstServing_eq_none_iff.mp first
      exact absurd (startingMode_eq_regular_iff.mpr idle) other
    | some r => exact ⟨r, firstServing_eq_some_iff.mp first⟩
  · have first := firstServing_eq_some_iff.mpr chosen
    have mode_eq := startingMode_of_some first
    refine ⟨fun m => upstream_of_startingMode first, fun fault => ?_,
      startingMode_isOk_iff_legible first, fun texts bracketless => ?_⟩
    · rw [mode_eq]
      cases r.server.remote <;> simp [Except.map]
    · obtain ⟨_, _, _, busy, _⟩ := chosen
      rcases texts.cases with empty | ⟨given, parsed⟩
      · exact absurd (.inr (by rw [empty]; rfl)) busy
      · obtain ⟨remote, shown⟩ := texts.remote
        refine ⟨modeFor r.server remote, ?_, leadsTo_modeFor parsed shown bracketless⟩
        rw [mode_eq, shown]
        rfl

/-- A server in brackets with zeros in front of its port, behind a disabled route and one without a
server: the proxy starts in a mode that leads to it. For a server whose port has a superscript for
its text it does not start. -/
theorem mode_fits_routes_bracketed :
    let server : Url := {
      protocol := some "https".toText, username := some "u".toText, password := some "p".toText,
      host := some "[::1]".toText, port := some 80, portText := some "0080".toText }
    let odd : Url := { host := some [char 'h'], port := some 2, portText := some [char '²'] }
    let t : RouteTable := ⟨[{ server := odd, disabled := true }, {}, { server }]⟩
    (∃ m, (mode t).outcome.result Session.start = .ok m ∧ LeadsTo m server) ∧
      (mode ⟨[{ server := odd }]⟩).outcome.result Session.start =
        .error (.notInteger [char '²']) := by
  intro server odd t
  have reached : Session.start.cache.Reachable := .ofCapacity _
  constructor
  · have chosen : IsFirstServing t { server } := firstServing_eq_some_iff.mp rfl
    have texts : Route.ServerIsText { server } :=
      ⟨.str "HTTPS://u:p@[::1]:0080".toText, .inr ⟨_, rfl⟩, rfl⟩
    obtain ⟨_, _, _, starts⟩ := mode_fits_routes reached t
    obtain ⟨_, _, _, leads⟩ := starts _ chosen
    exact leads texts (by decide)
  · have chosen : IsFirstServing ⟨[{ server := odd }]⟩ { server := odd } :=
      firstServing_eq_some_iff.mp rfl
    have unshown : odd.remote = .error (.notInteger [char '²']) := by decide +kernel
    obtain ⟨_, _, _, starts⟩ := mode_fits_routes reached ⟨[{ server := odd }]⟩
    obtain ⟨_, fails, _⟩ := starts _ chosen
    exact (fails _).mpr unshown

end Launch

end ProxySelection
