import ProxySelection.Proofs.Exchange.Routing
import ProxySelection.Proofs.Route.Server

/-!
What becomes of a request.

`Exchange.Follows e x x'` says for a request `x` what `x'` has to be if `e` is the route for it:
which way it takes and by which connection, when it gets credentials, and when it is recorded.
Over a table whose servers were given as texts, this is what the router makes of every request
whose route has credentials that can be encoded, or needs none. Otherwise the request takes the way
by the server and is left there, without credentials and without a record: `request_follows_unless`.
-/

namespace ProxySelection

namespace Exchange

variable {x : Exchange} {e : Option Route} {r : Route} {address : Endpoint}

/-- `x'` is what becomes of the request `x` if `e` is the route for it. -/
structure Follows (e : Option Route) (x x' : Exchange) : Prop where
  takes : x.Takes x' (e.bind Route.nextHop)
  open_untouched : ∀ (i : Nat) (c : Connection), x.pool[i]? = some c → c.isOpen = true →
    x'.pool[i]? = some c
  /-- A plain request that is sent to a server with a user name shows its credentials. -/
  authorized : ∀ r, e = some r → r.server.isEmpty = false → x.scheme = .str "http".toText →
    Url.isGiven r.server.username = true → ∃ value, r.server.authorization = .ok (some value) ∧
      x'.headers = x.headers.set Stage.authorizationHeader value
  headers_kept : (∀ r, e = some r → r.server.isEmpty = true ∨ x.scheme ≠ .str "http".toText ∨
    Url.isGiven r.server.username = false) → x'.headers = x.headers
  recorded : ∀ r, e = some r → r.server.isEmpty = false → ∃ server,
    r.server.redacted = .ok server ∧ x'.record = some ⟨r.pattern, server, r.tunnel⟩
  record_kept : (∀ r, e = some r → r.server.isEmpty = true) → x'.record = x.record
  request_kept : x'.url = x.url ∧ x'.scheme = x.scheme ∧ x'.host = x.host

theorem follows_direct (direct : e.bind Route.nextHop = none) : x.Follows e (x.reroute none).2 := by
  have empty : ∀ r, e = some r → r.server.isEmpty = true := by
    rintro r rfl
    exact Route.nextHop_eq_none_iff.mp direct
  have takes := x.reroute_takes none
  refine ⟨direct ▸ takes, fun i c => takes.open_untouched, ?_, ?_, ?_, ?_, by simp⟩
  · intro r chosen nonempty
    rw [empty r chosen] at nonempty
    cases nonempty
  · intro _
    exact x.reroute_headers none
  · intro r chosen nonempty
    rw [empty r chosen] at nonempty
    cases nonempty
  · intro _
    exact x.reroute_record none

theorem follows_sent {server : Text} (located : r.server.endpoint = some address)
    (recorded : r.sending = .ok server) :
    x.Follows (some r) { Stage.sendBy r address x with
      record := some ⟨r.pattern, server, r.tunnel⟩ } := by
  obtain ⟨⟨given, authorized⟩, shown⟩ := Route.sending_eq_ok_iff.mp recorded
  have credentials : r.server.credentials? = given := by
    rw [Url.credentials?, authorized]
    rfl
  have takes : x.Takes { Stage.sendBy r address x with
      record := some ⟨r.pattern, server, r.tunnel⟩ } r.nextHop :=
    Route.nextHop_eq_some located ▸ (Stage.sendBy_takes r address x).congr rfl rfl
  have nonempty : r.server.isEmpty = false := Url.isEmpty_eq_false_iff.mpr ⟨address, located⟩
  refine ⟨takes, fun i c => takes.open_untouched, ?_, ?_, ?_, ?_, Stage.sendBy_request r address x⟩
  · rintro _ ⟨⟩ _ plain named
    rcases Stage.sendBy_cases r address x with ⟨value, _, known, sent⟩ | ⟨not, _⟩
    · refine ⟨value, ?_, by simp [sent, Stage.withAuthorization]⟩
      rw [authorized, ← credentials, known]
    · rcases not with other | none
      · exact absurd plain other
      · rw [← Url.isSome_of_authorization authorized, ← credentials, none] at named
        cases named
  · intro without
    rcases Stage.sendBy_cases r address x with ⟨value, plain, known, _⟩ | ⟨_, sent⟩
    · rcases without r rfl with empty | other | unnamed
      · rw [nonempty] at empty
        cases empty
      · exact absurd plain other
      · rw [← Url.isSome_of_authorization authorized, ← credentials, known] at unnamed
        cases unnamed
    · simp [sent]
  · rintro _ ⟨⟩ _
    exact ⟨server, shown, rfl⟩
  · intro empty
    rw [empty r rfl] at nonempty
    cases nonempty

end Exchange

/-- Without credentials a request is only rerouted. -/
theorem Stage.sendBy_of_error {r : Route} {address : Endpoint} {fault : Utf8.Fault}
    (located : r.server.endpoint = some address) (failed : r.server.authorization = .error fault)
    (x : Exchange) : sendBy r address x = (x.reroute r.nextHop).2 := by
  rw [sendBy, Url.credentials?, failed, Route.nextHop_eq_some located]
  rfl

namespace Router

/-- If the credentials cannot be encoded, a request is rerouted and a failure reported, and that is
all. -/
theorem request_of_surrogates {s : Session} (reached : s.cache.Reachable) {t : RouteTable}
    {x : Exchange} {r : Route} {address : Endpoint} (chosen : t.search x = .ok (some r))
    (located : r.server.endpoint = some address) (shown : x.url.isShowable = true)
    (surrogates : ¬ r.server.HasEncodableUser) :
    ((request t x).result s).2 = (x.reroute r.nextHop).2 ∧
      ∃ fault : Utf8.Fault, r.server.authorization = .error fault ∧
        ((request t x).after s).reports =
          s.reports ++ [.routingFailed x.url.shown fault.message] := by
  obtain ⟨fault, failed⟩ := Url.authorization_isError_iff.mpr surrogates
  have stuck : r.sending = .error (.credentials fault) :=
    Route.sending_eq_error_iff.mpr (.inl ⟨fault, failed, rfl⟩)
  obtain ⟨result, reports, _⟩ := request_gives_failed chosen located stuck s reached
  rw [told_of_showable shown] at reports
  rw [result]
  exact ⟨Stage.sendBy_of_error located failed x, fault, failed, reports⟩

/-- **A request follows its route, unless the credentials for it cannot be encoded.** Over a table
whose servers were given as texts, a request of the web is routed by the route that is selected for
its URL, and any other by none. If the server of the route has a user name and a password that can
be encoded, or no user name, the request takes the way by the server, or the direct one, with all
that belongs to it; an open connection that goes another way is replaced and left as it was. If
there is a surrogate in the user name or the password, the request is rerouted and nothing else is
done with it: it is not given credentials and not recorded, and what is reported is a failure. -/
theorem request_follows_unless {s : Session} (reached : s.cache.Reachable) {t : RouteTable}
    (texts : ∀ r ∈ t.routes, r.ServerIsText) (x : Exchange) (shown : x.url.isShowable = true) :
    ∃ e : Option Route,
      (x.scheme = .str "http".toText ∨ x.scheme = .str "https".toText →
        (t.select x.url).outcome.result s = .ok e) ∧
      (¬ (x.scheme = .str "http".toText ∨ x.scheme = .str "https".toText) → e = none) ∧
      ((∀ r, e = some r → r.server.isEmpty = false → r.server.HasEncodableUser) →
        x.Follows e ((request t x).result s).2) ∧
      (∀ r, e = some r → r.server.isEmpty = false → ¬ r.server.HasEncodableUser →
        ((request t x).result s).2 = (x.reroute r.nextHop).2 ∧
        (x.scheme = .str "http".toText → ¬ x.Follows e ((request t x).result s).2) ∧
        ∃ fault : Utf8.Fault, r.server.authorization = .error fault ∧
          ((request t x).after s).reports =
            s.reports ++ [.routingFailed x.url.shown fault.message]) ∧
      ∀ url, x.url = .str url → ((request t x).result s).1 = .ok () := by
  rcases t.search_cases x with broken | ⟨e, chosen, direct⟩ | ⟨r, address, chosen, located⟩
  · rw [(RouteTable.unshown_of_search broken).2] at shown
    cases shown
  · refine ⟨e, ?_, ?_, ?_, ?_, ?_⟩
    · intro web
      rw [(t.select_gives x.url).result_eq reached, ← chosen, RouteTable.search,
        if_pos (Stage.isWeb_iff.mpr web)]
    · intro other
      rw [RouteTable.search, if_neg (mt Stage.isWeb_iff.mp other)] at chosen
      exact (Except.ok.inj chosen).symm
    · intro _
      rw [request_direct reached chosen direct]
      exact Exchange.follows_direct direct
    · rintro r rfl nonempty
      rw [Route.nextHop_eq_none_iff.mp direct] at nonempty
      cases nonempty
    · intro _ _
      rw [(request_gives_direct chosen direct).result_eq reached]
  · obtain ⟨web, selected⟩ := RouteTable.search_eq_some_iff.mp chosen
    have mem := (RouteTable.serves_of_routeFor (RouteTable.routeFor_eq_some_iff.mpr chosen)).1
    obtain ⟨server, redacted⟩ := (texts r mem).redacted
    refine ⟨some r, ?_, fun other => absurd (Stage.isWeb_iff.mp web) other, ?_, ?_, ?_⟩
    · intro _
      rw [(t.select_gives x.url).result_eq reached, selected]
    · intro encodable
      have nonempty : r.server.isEmpty = false := Url.isEmpty_eq_false_iff.mpr ⟨address, located⟩
      have recorded : r.sending = .ok server := Route.sending_eq_ok_iff.mpr
        ⟨Url.authorization_isOk_iff.mpr (encodable r rfl nonempty), redacted⟩
      rw [(request_gives_sent chosen located recorded).result_eq reached]
      exact Exchange.follows_sent located recorded
    · rintro _ ⟨⟩ nonempty surrogates
      obtain ⟨become, fault, failed, reports⟩ :=
        request_of_surrogates reached chosen located shown surrogates
      refine ⟨become, fun plain follows => ?_, fault, failed, reports⟩
      have named : Url.isGiven r.server.username = true := by
        by_contra unnamed
        exact surrogates fun given => absurd given unnamed
      obtain ⟨value, given, _⟩ := follows.authorized r rfl nonempty plain named
      rw [failed] at given
      cases given
    · rintro url known
      cases sent : r.sending with
      | ok server =>
        rw [(request_gives_sent chosen located sent).result_eq reached, known]
        rfl
      | error fault =>
        rw [(request_gives_failed chosen located sent).result_eq reached, known]
        rfl

/-- The password of the server is a surrogate. A plain request is rerouted, by a new connection as
the former one is open and direct, but it has no credentials and no record. With another password
it follows the route. -/
theorem request_follows_unless_of_surrogate :
    let server (password : Text) : Url := {
      protocol := some "http".toText, username := some "u".toText, password := some password,
      host := some "px".toText }
    let written (password : Text) : Json := .str ("http://u:".toText ++ password ++ "@px".toText)
    let t (password : Text) : RouteTable := ⟨[{ server := server password }]⟩
    let origin : Endpoint := { host := "a.b".toText, port := 80 }
    let x : Exchange := { Exchange.fresh (some origin) with
      url := .str "http://a.b/".toText
      scheme := .str "http".toText
      connection := ⟨0, some origin, none, true⟩ }
    let x' (password : Text) := ((request (t password) x).result Session.start).2
    let fault : Utf8.Fault := ⟨2, [.surrogate 0]⟩
    Route.checkServer (written [.surrogate 0]) = .ok (server [.surrogate 0]) ∧
      ¬ x.Follows (some { server := server [.surrogate 0] }) (x' [.surrogate 0]) ∧
      (x' [.surrogate 0]).connection.serial ≠ x.connection.serial ∧
      (x' [.surrogate 0]).headers = [] ∧ (x' [.surrogate 0]).record = none ∧
      ((request (t [.surrogate 0]) x).after Session.start).reports =
        [.routingFailed x.url.shown fault.message] ∧
      x.Follows (some { server := server [char 'p'] }) (x' [char 'p']) ∧
      (x' [char 'p']).headers = [(Stage.authorizationHeader, "Basic dTpw".toText)] := by
  intro server written t origin x x' fault
  have reached : Session.start.cache.Reachable := .ofCapacity _
  have texts (password : Text)
      (taken : Route.checkServer (written password) = .ok (server password)) :
      ∀ q ∈ (t password).routes, q.ServerIsText := by
    intro q mem
    obtain rfl := List.mem_singleton.mp mem
    exact ⟨written password, .inr ⟨_, rfl⟩, taken⟩
  have taken : Route.checkServer (written [.surrogate 0]) = .ok (server [.surrogate 0]) := rfl
  have surrogates : ¬ (server [.surrogate 0]).HasEncodableUser :=
    Url.authorization_isError_iff.mp ⟨fault, by decide⟩
  obtain ⟨e, chosen, _, _, stuck, _⟩ :=
    request_follows_unless reached (texts [.surrogate 0] taken) x rfl
  have selected : ((t [.surrogate 0]).select x.url).outcome.result Session.start =
    .ok (some { server := server [.surrogate 0] }) := rfl
  obtain rfl := Except.ok.inj (selected.symm.trans (chosen (.inl rfl)))
  obtain ⟨become, strays, fault', failed, reports⟩ := stuck _ rfl rfl surrogates
  obtain rfl : fault = fault' := Except.error.inj
    ((show (server [.surrogate 0]).authorization = .error fault by decide).symm.trans failed)
  obtain ⟨e, chosen, _, follows, _⟩ := request_follows_unless reached (texts [char 'p'] rfl) x rfl
  have selected : ((t [char 'p']).select x.url).outcome.result Session.start =
    .ok (some { server := server [char 'p'] }) := rfl
  obtain rfl := Except.ok.inj (selected.symm.trans (chosen (.inl rfl)))
  have credentials : (server [char 'p']).authorization = .ok (some "Basic dTpw".toText) := by decide
  have followed := follows fun r known _ => by
    cases known
    exact Url.authorization_isOk_iff.mp ⟨_, credentials⟩
  refine ⟨taken, strays rfl, ?_, ?_, ?_, reports, followed, ?_⟩
  · simp only [x', become]
    decide
  · simp only [x', become]
    decide
  · simp only [x', become]
    decide
  · obtain ⟨value, given, headers⟩ := followed.authorized _ rfl rfl rfl rfl
    rw [credentials] at given
    cases given
    exact headers

end Router

end ProxySelection
