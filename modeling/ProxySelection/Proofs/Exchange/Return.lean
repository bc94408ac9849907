import ProxySelection.Proofs.Exchange.Credentials
import ProxySelection.Proofs.Route.Server

/-!
What comes of failures in the router.

A request is always dealt with to the end: if the credentials for the server that it is sent by
cannot be encoded, or the server cannot be shown, this is reported. A request for a tunnel is given
the credentials first, and the server they are for is shown behind the stages, where nothing reports
a failure. So it fails if and only if that server cannot be shown: `request_returns`,
`requestTunnel_returns_iff`, and both in `returns_iff`.
-/

namespace ProxySelection

namespace Router

variable {s : Session} {t : RouteTable} {x : Exchange} {r : Route} {value : Text}

/-- A request whose URL is a text does not fail. -/
theorem request_returns (reached : s.cache.Reachable) (t : RouteTable) {url : Text}
    (given : x.url = .str url) : ((request t x).result s).1 = .ok () := by
  rcases t.search_cases x with broken | ⟨e, chosen, direct⟩ | ⟨r, address, chosen, located⟩
  · have unshown := (RouteTable.unshown_of_search broken).2
    rw [given] at unshown
    cases unshown
  · rw [(request_gives_direct chosen direct).result_eq reached]
  · cases sent : r.sending with
    | error fault =>
      rw [(request_gives_failed chosen located sent).result_eq reached, given]
      rfl
    | ok server =>
      rw [(request_gives_sent chosen located sent).result_eq reached, given]
      rfl

theorem tunnelSuccess_isOk_iff :
    (∃ n, tunnelSuccess r x = .ok n) ↔
      x.host.isShowable = true ∧ ∃ server, r.server.redacted = .ok server := by
  unfold tunnelSuccess told shown
  cases x.host.isShowable <;> cases r.server.redacted <;>
    simp [bind, Except.bind, pure, Except.pure, Except.mapError]

/-- A request for a tunnel fails exactly if something about it is to be reported and the host cannot
be shown, or the server that lends it credentials cannot. -/
theorem requestTunnel_returns_iff (reached : s.cache.Reachable) (t : RouteTable) (x : Exchange) :
    ((requestTunnel t x).result s).1 = .ok () ↔
      (∀ fault, Stage.lender t x = .error fault → x.host.isShowable = true) ∧
        ∀ r value, Stage.lender t x = .ok (some (r, value)) →
          x.host.isShowable = true ∧ ∃ server, r.server.redacted = .ok server := by
  cases lent : Stage.lender t x with
  | error fault =>
    rw [(requestTunnel_gives_withheld lent).result_eq reached, told]
    cases x.host.isShowable <;> simp [Except.map]
  | ok found =>
    cases found with
    | none =>
      rw [(requestTunnel_gives_nothing lent).result_eq reached]
      simp
    | some pair =>
      obtain ⟨r, value⟩ := pair
      rw [(requestTunnel_gives_lent lent).result_eq reached]
      have only : (∀ q w,
          (Except.ok (some (r, value)) : Except Utf8.Fault (Option (Route × Text))) =
            .ok (some (q, w)) →
              x.host.isShowable = true ∧ ∃ server, q.server.redacted = .ok server) ↔
          ∃ n, tunnelSuccess r x = .ok n := by
        rw [tunnelSuccess_isOk_iff]
        constructor
        · intro all
          exact all r value rfl
        · rintro fine _ _ ⟨⟩
          exact fine
      rw [only]
      cases tunnelSuccess r x <;> simp [Except.map]

/-- **A request does not fail; one for a tunnel may.** A request whose URL is a text is dealt with
over every table, and it is reported if the credentials for a server cannot be encoded or it cannot
be shown. A request for a tunnel, with a host that can be shown, fails exactly if it is lent
credentials for a server that cannot be shown: they are on it then, but nothing is reported. If
credentials for it cannot be encoded this is reported, and it stays as it was. Servers that were
only ever given as texts do not make it fail. -/
theorem returns_iff (reached : s.cache.Reachable) (t : RouteTable) (x : Exchange) {url : Text}
    (given : x.url = .str url) :
    ((request t x).result s).1 = .ok () ∧
      (∀ r address fault, t.routeFor x = some r → r.server.endpoint = some address →
        r.sending = .error fault →
          ((request t x).after s).reports =
            s.reports ++ [.routingFailed x.url.shown fault.message]) ∧
      (((requestTunnel t x).result s).1 = .ok () ↔
        (∀ fault, Stage.lender t x = .error fault → x.host.isShowable = true) ∧
          ∀ r value, Stage.lender t x = .ok (some (r, value)) →
            x.host.isShowable = true ∧ ∃ server, r.server.redacted = .ok server) ∧
      (∀ r value fault, x.host.isShowable = true → Stage.lender t x = .ok (some (r, value)) →
        r.server.redacted = .error fault →
          (requestTunnel t x).result s = (.error (.number fault), Stage.withAuthorization x value) ∧
          ((requestTunnel t x).after s).reports = s.reports) ∧
      (∀ fault, x.host.isShowable = true → Stage.lender t x = .error fault →
        (requestTunnel t x).result s = (.ok (), x) ∧
          ((requestTunnel t x).after s).reports =
            s.reports ++ [.tunnelFailed x.host.shown fault.message]) ∧
      (x.host.isShowable = true → (∀ r ∈ t.routes, r.Made Json.IsTextOrNull Json.IsTextOrNull) →
        ((requestTunnel t x).result s).1 = .ok ()) := by
  have shown : told x.url = .ok x.url.shown := told_of_showable (by rw [given]; rfl)
  refine ⟨request_returns reached t given, ?_, requestTunnel_returns_iff reached t x, ?_, ?_, ?_⟩
  · intro r address fault selected located failed
    have chosen := RouteTable.routeFor_eq_some_iff.mp selected
    have reports := (request_gives_failed chosen located failed s reached).2.1
    rwa [shown] at reports
  · intro r value fault host lent failed
    obtain ⟨result, reports, _⟩ := requestTunnel_gives_lent lent s reached
    have untold : tunnelSuccess r x = .error (.number fault) := by
      rw [tunnelSuccess, told_of_showable host, Router.shown, failed]
      rfl
    rw [untold] at result reports
    exact ⟨result, by simpa [Except.toOption] using reports⟩
  · intro fault host withheld
    obtain ⟨result, reports, _⟩ := requestTunnel_gives_withheld withheld s reached
    rw [told_of_showable host] at result reports
    exact ⟨result, reports⟩
  · intro host made
    refine (requestTunnel_returns_iff reached t x).mpr ⟨fun _ _ => host, fun r value lent => ?_⟩
    obtain ⟨_, _, mem, _⟩ := Stage.lends_of_lender lent
    exact ⟨host, (made r mem).serverIsText.redacted⟩

/-- A route whose server has a port with a superscript for its text is taken in. A request over it
is dealt with, and a request for a tunnel to the server fails, with the credentials on it. -/
theorem returns_iff_superscript :
    let r : Route := { server := {
      username := some "u".toText, host := some "px".toText, port := some 2,
      portText := some [char '²'] } }
    let x : Exchange := { Exchange.fresh (some { host := "px".toText, port := 2 }) with
      url := .str "http://a.b/".toText
      scheme := .str "http".toText }
    Route.check (.obj [(Route.serverName, .obj [
      (Url.usernameName, .str "u".toText), (Url.hostName, .str "px".toText),
      (Url.portName, .int 2), (Url.portTextName, .str [char '²'])])]) = .ok r ∧
    ((request ⟨[r]⟩ x).result Session.start).1 = .ok () ∧
    ((request ⟨[r]⟩ x).after Session.start).reports =
      [.routingFailed x.url.shown (Decimal.Fault.notInteger [char '²']).message] ∧
    (requestTunnel ⟨[r]⟩ x).result Session.start =
      (.error (.number (.notInteger [char '²'])),
        Stage.withAuthorization x "Basic dTo=".toText) := by
  intro r x
  have reached : Session.start.cache.Reachable := .ofCapacity _
  have taken : Route.check (.obj [(Route.serverName, .obj [
      (Url.usernameName, .str "u".toText), (Url.hostName, .str "px".toText),
      (Url.portName, .int 2), (Url.portTextName, .str [char '²'])])]) = .ok r := rfl
  have failed : r.server.redacted = .error (.notInteger [char '²']) := by decide +kernel
  have stuck : r.sending = .error (.number (.notInteger [char '²'])) := by decide +kernel
  have chosen : RouteTable.routeFor ⟨[r]⟩ x = some r := by decide
  have located : r.server.endpoint = some { host := "px".toText, port := 2 } := rfl
  have lent : Stage.lender ⟨[r]⟩ x = .ok (some (r, "Basic dTo=".toText)) := by decide
  obtain ⟨returned, reported, _, broken, _⟩ := returns_iff reached ⟨[r]⟩ x rfl
  exact ⟨taken, returned, reported r _ _ chosen located stuck, (broken r _ _ rfl lent failed).1⟩

end Router

end ProxySelection
