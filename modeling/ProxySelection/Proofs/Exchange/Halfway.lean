import ProxySelection.Proofs.Exchange.Routing
import ProxySelection.Proofs.Service.Usable

/-!
Requests that fail halfway.

The last stage of routing gives a request its next hop, then makes the credentials for it, and shows
the server for the record only then. If the credentials cannot be encoded or the server cannot be
shown, the request is reported as failed, but nothing is taken back: it is on its way to the server,
and what it lacks is the record, and the credentials if those failed (`Exchange.Halfway`). So a
failure leaves a request as it was only if the request went that way already, with these credentials
(`Halfway.eq_iff`). The one other stage that fails is the search for a route, which has done nothing
then: `failure_leaves`.
-/

namespace ProxySelection

namespace Headers

variable {name value : Text} {hs : Headers}

theorem values_eq_nil_iff : values name hs = [] ↔ without name hs = hs := by
  rw [values, without, List.map_eq_nil_iff, List.filter_eq_nil_iff, List.filter_eq_self]
  simp

/-- Setting a header changes nothing exactly if the value is the only one of the name. -/
theorem set_eq_self_iff : set name value hs = hs ↔ values name hs = [value] := by
  constructor
  · intro same
    rw [← same, values_set]
  · intro only
    induction hs with
    | nil => cases only
    | cons h hs ih =>
      by_cases named : sameName h.1 name = true
      · have first : h.2 :: values name hs = [value] := by simpa [values, named] using only
        obtain ⟨rfl, rest⟩ := List.cons.inj first
        simp [set, named, values_eq_nil_iff.mp rest]
      · have later : values name hs = [value] := by simpa [values, named] using only
        simp [set, named, ih later]

end Headers

/-- A route whose ports were all given as texts or legibly has a server that can be shown. -/
theorem Route.Made.redacted {r : Route} (short : r.Made Json.HasShortPort Json.HasShortPort)
    (readable : r.Made Json.HasReadablePort Json.HasReadablePort) :
    ∃ server, r.server.redacted = .ok server :=
  (Url.renderWith_isOk_iff short.hasShortPort _).mpr readable.hasLegiblePort

namespace Stage

/-- The credentials that a request is given when it is sent by way of the server of a route. -/
def credentials (r : Route) (x : Exchange) : Option Text :=
  if isPlain x.scheme then r.server.credentials? else none

theorem credentials_of_error {r : Route} {fault : Utf8.Fault}
    (failed : r.server.authorization = .error fault) (x : Exchange) : credentials r x = none := by
  rw [credentials, Url.credentials?, failed]
  exact ite_self none

theorem sendBy_headers (r : Route) (address : Endpoint) (x : Exchange) :
    (sendBy r address x).headers =
      (credentials r x).elim x.headers (x.headers.set authorizationHeader) := by
  unfold credentials
  rcases sendBy_cases r address x with ⟨value, plain, authorized, sent⟩ | ⟨without, sent⟩
  · simp [sent, withAuthorization, isPlain_iff.mpr plain, authorized]
  · have none : (if isPlain x.scheme then r.server.credentials? else none) = none := by
      rcases without with other | none
      · rw [if_neg (mt isPlain_iff.mp other)]
      · simp [none]
    simp [sent, none]

end Stage

namespace Exchange

variable {x x' : Exchange} {r : Route} {address : Endpoint}

/-- `x'` is the request `x` on its way to the server of a route, which has the given address, as
far as it is sent but not recorded. -/
structure Halfway (r : Route) (address : Endpoint) (x x' : Exchange) : Prop where
  takes : x.Takes x' (some (Stage.hopOf r.server address))
  headers_eq : x'.headers =
    (Stage.credentials r x).elim x.headers (x.headers.set Stage.authorizationHeader)
  record_kept : x'.record = x.record
  request_kept : x'.url = x.url ∧ x'.scheme = x.scheme ∧ x'.host = x.host

theorem halfway_sendBy (r : Route) (address : Endpoint) (x : Exchange) :
    x.Halfway r address (Stage.sendBy r address x) where
  takes := Stage.sendBy_takes r address x
  headers_eq := Stage.sendBy_headers r address x
  record_kept := Stage.sendBy_record r address x
  request_kept := Stage.sendBy_request r address x

/-- Such a request is as it was exactly if it went this way already, and had these credentials and
no other ones if it is given any. -/
theorem Halfway.eq_iff (h : x.Halfway r address x') :
    x' = x ↔ x.connection.via = some (Stage.hopOf r.server address) ∧
      ∀ value, Stage.credentials r x = some value →
        x.headers.values Stage.authorizationHeader = [value] := by
  constructor
  · rintro rfl
    refine ⟨h.takes.via_eq, fun value given => ?_⟩
    have kept := h.headers_eq
    rw [given] at kept
    exact Headers.set_eq_self_iff.mp kept.symm
  · rintro ⟨already, carried⟩
    obtain ⟨kept, former⟩ := h.takes.kept (h.takes.same_iff.mpr (.inr already))
    have connection : x'.connection = x.connection := by rw [kept, ← already]
    have headers : x'.headers = x.headers := by
      rw [h.headers_eq]
      cases given : Stage.credentials r x with
      | none => rfl
      | some value => exact Headers.set_eq_self_iff.mpr (carried value given)
    obtain ⟨url, scheme, host⟩ := h.request_kept
    have record := h.record_kept
    cases x
    cases x'
    exact (Exchange.mk.injEq ..).mpr ⟨url, scheme, host, headers, connection, record, former⟩

end Exchange

namespace Router

variable {s : Session} {t : RouteTable} {x : Exchange}

/-- Dealing with the request is reported as failed. -/
def ReportsFailure (s : Session) (t : RouteTable) (x : Exchange) : Prop :=
  ∃ reports told fault, ((request t x).after s).reports = s.reports ++ reports ∧
    Notice.routingFailed told fault ∈ reports

/-- Of a request that is known to give some reports, those say whether it failed. -/
theorem reportsFailure_of_gives (reached : s.cache.Reachable)
    {result : Except Fault Unit × Exchange} {new : List Notice}
    (gives : (request t x).Gives result new) :
    ReportsFailure s t x ↔ ∃ told fault, Notice.routingFailed told fault ∈ new := by
  have added := (gives s reached).2.1
  constructor
  · rintro ⟨reports, told, fault, same, mem⟩
    obtain rfl : reports = new := List.append_cancel_left (same.symm.trans added)
    exact ⟨told, fault, mem⟩
  · rintro ⟨told, fault, mem⟩
    exact ⟨new, told, fault, added, mem⟩

/-- What is reported of a request whose URL can be shown is a failure exactly if the route for it
has a server by way of which it is not sent. -/
theorem reportsFailure_iff (reached : s.cache.Reachable) (t : RouteTable) (x : Exchange) :
    ReportsFailure s t x ↔ x.url.isShowable = true ∧
      ∃ r address fault, t.routeFor x = some r ∧ r.server.endpoint = some address ∧
        r.sending = .error fault := by
  rcases t.search_cases x with broken | ⟨e, chosen, direct⟩ | ⟨r, address, chosen, located⟩
  · rw [reportsFailure_of_gives reached (request_gives_broken broken),
      (RouteTable.unshown_of_search broken).2]
    exact iff_of_false nofun nofun
  · rw [reportsFailure_of_gives reached (request_gives_direct chosen direct)]
    refine iff_of_false nofun ?_
    rintro ⟨_, r, address, fault, selected, located, _⟩
    rw [RouteTable.routeFor_eq_some_iff, chosen] at selected
    cases selected
    rw [Option.bind_some, Route.nextHop_eq_some located] at direct
    cases direct
  · have only : (∃ q a fault, t.routeFor x = some q ∧ q.server.endpoint = some a ∧
        q.sending = .error fault) ↔ ∃ fault, r.sending = .error fault := by
      simp [RouteTable.routeFor_eq_some_iff, chosen, located]
    rw [only]
    cases sent : r.sending with
    | error fault =>
      rw [reportsFailure_of_gives reached (request_gives_failed chosen located sent), told]
      cases x.url.isShowable <;> simp [Except.toOption]
    | ok server =>
      rw [reportsFailure_of_gives reached (request_gives_sent chosen located sent)]
      cases excerpt x.url <;> simp [Except.toOption]

/-- **What a failure leaves.** A request is reported as failed exactly if its URL can be shown and
the route for it has a server by way of which it is not sent: the credentials for the server cannot
be encoded, or it cannot be shown. The request is on its way to that server then, by a connection
that is another one if the former one was open and went another way, and with the credentials for
the server if it is plain and there are some to be had; only its record is as it was. It is
unchanged exactly if it went this way already, with these credentials as the only ones. A request is
unchanged too if the search for its route breaks off. Routes whose ports were given within the
limits of integers and legibly, as they always are in texts, and whose user names and passwords can
be encoded do not make routing fail. -/
theorem failure_leaves (reached : s.cache.Reachable) (t : RouteTable) (x : Exchange) :
    (ReportsFailure s t x ↔ x.url.isShowable = true ∧
      ∃ r address fault, t.routeFor x = some r ∧ r.server.endpoint = some address ∧
        r.sending = .error fault) ∧
    (∀ r address fault, t.routeFor x = some r → r.server.endpoint = some address →
      r.sending = .error fault →
        let x' := ((request t x).result s).2
        x.Halfway r address x' ∧
        (x' = x ↔ x.connection.via = some (Stage.hopOf r.server address) ∧
          ∀ value, Stage.credentials r x = some value →
            x.headers.values Stage.authorizationHeader = [value]) ∧
        ((∃ f, r.server.authorization = .error f ∧ fault = .credentials f ∧
            x'.headers = x.headers) ∨
          ∃ given f, r.server.authorization = .ok given ∧ r.server.redacted = .error f ∧
            fault = .number f) ∧
        (x.url.isShowable = true → ((request t x).result s).1 = .ok () ∧
          ((request t x).after s).reports =
            s.reports ++ [.routingFailed x.url.shown fault.message])) ∧
    (∀ fault, t.search x = .error fault → ((request t x).result s).2 = x) ∧
    ((∀ r ∈ t.routes, r.Made Json.HasShortPort Json.HasShortPort ∧
        r.Made Json.HasReadablePort Json.HasReadablePort ∧ r.server.HasEncodableUser) →
      ¬ ReportsFailure s t x) := by
  have fails := reportsFailure_iff reached t x
  refine ⟨fails, ?_, fun fault broken => request_broken reached broken, ?_⟩
  · intro r address fault selected located failed
    have chosen := RouteTable.routeFor_eq_some_iff.mp selected
    obtain ⟨result, reports, _⟩ := request_gives_failed chosen located failed s reached
    have halfway := Exchange.halfway_sendBy r address x
    rw [result]
    refine ⟨halfway, halfway.eq_iff, ?_, fun shown => ?_⟩
    · rcases Route.sending_eq_error_iff.mp failed with ⟨f, unencoded, same⟩ | unshown
      · refine .inl ⟨f, unencoded, same, ?_⟩
        rw [halfway.headers_eq, Stage.credentials_of_error unencoded]
        rfl
      · exact .inr unshown
    · rw [reports, told_of_showable shown]
      exact ⟨rfl, rfl⟩
  · intro made reported
    obtain ⟨_, r, _, fault, selected, _, failed⟩ := fails.mp reported
    obtain ⟨short, readable, encodable⟩ := made r (RouteTable.serves_of_routeFor selected).1
    obtain ⟨server, shown⟩ := short.redacted readable
    rw [Route.sending_eq_ok_iff.mpr ⟨Url.authorization_isOk_iff.mpr encodable, shown⟩] at failed
    cases failed

/-- A route whose server has a port with a superscript for its text is taken in. A request fails
over it, with the way to the server and the credentials on it but no record, and failing a second
time changes nothing more. With the server given as a text it does not fail, unless the password is
a surrogate: then it fails with the way to the server but without credentials. -/
theorem failure_leaves_of_superscript :
    let object : Json := .obj [
      (Url.usernameName, .str "u".toText), (Url.hostName, .str "px".toText),
      (Url.portName, .int 2), (Url.portTextName, .str [char '²'])]
    let text (password : Text) : Json := .str ("u:".toText ++ password ++ "@px:02".toText)
    let route (password : Option Text) (portText : Text) : Route := { server := {
      username := some "u".toText, password, host := some "px".toText, port := some 2,
      portText := some portText } }
    let hop : NextHop := { scheme := "http".toText, address := { host := "px".toText, port := 2 } }
    let origin : Endpoint := { host := "origin.local".toText, port := 443 }
    let x : Exchange := { Exchange.fresh (some origin) with
      url := .str "http://a.b/".toText
      scheme := .str "http".toText }
    let y : Exchange := { x with
      headers := [(Stage.authorizationHeader, "Basic dTo=".toText)]
      connection := ⟨0, some origin, some hop, false⟩ }
    let odd := route none [char '²']
    let plain := route (some [char 'p']) "02".toText
    let strange := route (some [.surrogate 0]) "02".toText
    let after (r : Route) (x : Exchange) := ((request ⟨[r]⟩ x).result Session.start).2
    Session.start.cache.Reachable ∧
      Route.check (.obj [(Route.serverName, object)]) = .ok odd ∧
      ReportsFailure Session.start ⟨[odd]⟩ x ∧
      (after odd x).connection.via = some hop ∧
      (after odd x).headers = [(Stage.authorizationHeader, "Basic dTo=".toText)] ∧
      (after odd x).record = none ∧ after odd x ≠ x ∧ after odd y = y ∧
      Route.check (.obj [(Route.serverName, text [char 'p'])]) = .ok plain ∧
      ¬ ReportsFailure Session.start ⟨[plain]⟩ x ∧
      Route.check (.obj [(Route.serverName, text [.surrogate 0])]) = .ok strange ∧
      ReportsFailure Session.start ⟨[strange]⟩ x ∧
      (after strange x).connection.via = some hop ∧ (after strange x).headers = [] := by
  intro object text route hop origin x y odd plain strange after
  have reached : Session.start.cache.Reachable := .ofCapacity _
  have failed : odd.sending = .error (.number (.notInteger [char '²'])) := by decide +kernel
  have chosen : RouteTable.routeFor ⟨[odd]⟩ x = some odd := by decide
  have chosenAgain : RouteTable.routeFor ⟨[odd]⟩ y = some odd := by decide
  have given : Stage.credentials odd x = some "Basic dTo=".toText := by decide
  have located : odd.server.endpoint = some hop.address := rfl
  obtain ⟨reported, leaves, _⟩ := failure_leaves reached ⟨[odd]⟩ x
  obtain ⟨halfway, unchanged, _⟩ := leaves _ _ _ chosen located failed
  obtain ⟨_, leavesAgain, _⟩ := failure_leaves reached ⟨[odd]⟩ y
  obtain ⟨_, unchangedAgain, _⟩ := leavesAgain _ _ _ chosenAgain located failed
  obtain ⟨_, _, _, clean⟩ := failure_leaves reached ⟨[plain]⟩ x
  have taken : Route.check (.obj [(Route.serverName, text [char 'p'])]) = .ok plain := rfl
  have chosen' : RouteTable.routeFor ⟨[strange]⟩ x = some strange := by decide
  have located' : strange.server.endpoint = some hop.address := rfl
  have failed' : strange.sending = .error (.credentials ⟨2, [.surrogate 0]⟩) := by decide +kernel
  obtain ⟨reported', leaves', _⟩ := failure_leaves reached ⟨[strange]⟩ x
  obtain ⟨halfway', _, either, _⟩ := leaves' _ _ _ chosen' located' failed'
  refine ⟨reached, rfl, reported.mpr ⟨rfl, _, _, _, chosen, located, failed⟩,
    halfway.takes.via_eq, ?_, halfway.record_kept, ?_, ?_, taken, clean ?_, rfl,
    reported'.mpr ⟨rfl, _, _, _, chosen', located', failed'⟩, halfway'.takes.via_eq, ?_⟩
  · rw [halfway.headers_eq, given]
    rfl
  · intro same
    cases (unchanged.mp same).1
  · refine unchangedAgain.mpr ⟨rfl, fun value lent => ?_⟩
    obtain rfl : "Basic dTo=".toText = value := Option.some.inj (given.symm.trans lent)
    rfl
  · intro r mem
    obtain rfl := List.mem_singleton.mp mem
    have noObject (name : Text) (P : Json → Prop) : ∀ v,
        Members.get? Route.serverName [(Route.serverName, text [char 'p'])] = some v →
          Json.EachMember name P v := by
      rintro v there ms w rfl
      cases Option.some.inj there
    exact ⟨.read taken (noObject _ _), .read taken (noObject _ _), fun _ => ⟨rfl, rfl⟩⟩
  · rcases either with ⟨_, _, _, kept⟩ | ⟨_, _, _, _, other⟩
    · exact kept
    · cases other

end Router

end ProxySelection
