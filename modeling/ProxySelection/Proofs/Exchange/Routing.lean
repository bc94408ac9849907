import ProxySelection.Exchange.Router
import ProxySelection.Proofs.Exchange.Connection
import ProxySelection.Proofs.Table.Selection

/-!
What is done with a request.

The route for a request is the one selected for its URL if its protocol is one of the web
(`RouteTable.routeFor`), and it leads to the server of that route, if there is one
(`Route.nextHop`). The stages of routing are taken one by one, then in a row. Either the search for
a route breaks off, and the request stays as it was (`request_gives_broken`); or no next hop is
found, and it goes directly (`request_gives_direct`); or it is sent by way of the server. This is
recorded and reported (`request_gives_sent`), unless the credentials for the server cannot be
encoded or the server cannot be shown (`Route.sending`), which is reported in its place
(`request_gives_failed`).
-/

namespace ProxySelection

/-- The next hop by which a route sends, which one without a server does not have: its server,
spoken to by `https` if that is its protocol and by `http` otherwise. -/
def Route.nextHop (r : Route) : Option NextHop :=
  r.server.endpoint.map fun address => {
    scheme := if r.server.protocol = some "https".toText then "https".toText else "http".toText
    address }

theorem Route.nextHop_eq_some {r : Route} {address : Endpoint}
    (located : r.server.endpoint = some address) :
    r.nextHop = some (Stage.hopOf r.server address) := by
  rw [nextHop, located]
  rfl

theorem Route.nextHop_eq_none_iff {r : Route} : r.nextHop = none ↔ r.server.isEmpty = true := by
  simp [nextHop]

/-- The credentials of a server, if it has any and they can be encoded. -/
def Url.credentials? (u : Url) : Option Text := u.authorization.toOption.join

theorem Url.credentials?_eq_some_iff {u : Url} {value : Text} :
    u.credentials? = some value ↔ u.authorization = .ok (some value) := by
  unfold credentials?
  cases u.authorization <;> simp [Except.toOption]

/-- How the server of a route is recorded, or why it is not: its credentials cannot be encoded, or
it cannot be shown. -/
def Route.sending (r : Route) : Except Stage.Fault Text :=
  match r.server.authorization with
  | .error fault => .error (.credentials fault)
  | .ok _ => r.server.redacted.mapError .number

theorem Route.sending_eq_ok_iff {r : Route} {server : Text} :
    r.sending = .ok server ↔
      (∃ given, r.server.authorization = .ok given) ∧ r.server.redacted = .ok server := by
  unfold sending
  cases r.server.authorization with
  | error fault => simp
  | ok given => cases r.server.redacted <;> simp [Except.mapError]

theorem Route.sending_eq_error_iff {r : Route} {fault : Stage.Fault} :
    r.sending = .error fault ↔
      (∃ f, r.server.authorization = .error f ∧ fault = .credentials f) ∨
        ∃ given f, r.server.authorization = .ok given ∧ r.server.redacted = .error f ∧
          fault = .number f := by
  unfold sending
  cases r.server.authorization with
  | error f => simp [eq_comm]
  | ok given => cases r.server.redacted <;> simp [Except.mapError, eq_comm]

/-- What the search for the route for a request comes to: for one whose protocol is none of the web
there is no search. -/
def RouteTable.search (t : RouteTable) (x : Exchange) : Except Decimal.Fault (Option Route) :=
  if Stage.isWeb x.scheme then selection x.url t.routes else .ok none

/-- The route for a request. -/
def RouteTable.routeFor (t : RouteTable) (x : Exchange) : Option Route := (t.search x).toOption.join

theorem RouteTable.routeFor_eq_some_iff {t : RouteTable} {x : Exchange} {r : Route} :
    t.routeFor x = some r ↔ t.search x = .ok (some r) := by
  unfold routeFor
  cases t.search x <;> simp [Except.toOption]

theorem RouteTable.search_eq_some_iff {t : RouteTable} {x : Exchange} {r : Route} :
    t.search x = .ok (some r) ↔
      Stage.isWeb x.scheme = true ∧ selection x.url t.routes = .ok (some r) := by
  unfold search
  split
  · rename_i web
    simp [web]
  · rename_i other
    simp [other]

/-- No route in front of the one for a request serves. -/
theorem RouteTable.split_of_routeFor {t : RouteTable} {x : Exchange} {r : Route}
    (chosen : t.routeFor x = some r) :
    ∃ front back, t.routes = front ++ r :: back ∧ r.Serves x.url ∧
      ∀ q ∈ front, ¬ q.Serves x.url := by
  obtain ⟨_, selected⟩ := search_eq_some_iff.mp (routeFor_eq_some_iff.mp chosen)
  obtain ⟨i, ⟨place, serves, before⟩, _⟩ := selection_eq_some_iff.mp selected
  obtain ⟨inside, rfl⟩ := List.getElem?_eq_some_iff.mp place
  refine ⟨t.routes.take i, t.routes.drop (i + 1), by simp, serves, fun q mem => ?_⟩
  obtain ⟨j, earlier, rfl⟩ := List.mem_take_iff_getElem.mp mem
  exact before j _ (by omega) (List.getElem?_eq_getElem (by omega))

theorem RouteTable.serves_of_routeFor {t : RouteTable} {x : Exchange} {r : Route}
    (chosen : t.routeFor x = some r) : r ∈ t.routes ∧ r.Serves x.url := by
  obtain ⟨front, back, split, serves, _⟩ := split_of_routeFor chosen
  exact ⟨by simp [split], serves⟩

/-- The search breaks off only for a URL that cannot be shown. -/
theorem RouteTable.unshown_of_search {t : RouteTable} {x : Exchange} {fault : Decimal.Fault}
    (broken : t.search x = .error fault) :
    fault = .tooLongToWrite ∧ x.url.isShowable = false := by
  unfold search at broken
  split at broken
  · obtain ⟨same, i, r, break_⟩ := selection_eq_error_iff.mp broken
    exact ⟨same, break_.breaks.2.unshown⟩
  · cases broken

/-- The search for a route breaks off, or it leaves a request without a next hop, or it gives a
route whose server has an address. -/
theorem RouteTable.search_cases (t : RouteTable) (x : Exchange) :
    t.search x = .error .tooLongToWrite ∨
      (∃ e, t.search x = .ok e ∧ e.bind Route.nextHop = none) ∨
      ∃ r address, t.search x = .ok (some r) ∧ r.server.endpoint = some address := by
  cases found : t.search x with
  | error fault => exact .inl (by rw [(unshown_of_search found).1])
  | ok e =>
    cases way : e.bind Route.nextHop with
    | none => exact .inr (.inl ⟨e, rfl, way⟩)
    | some hop =>
      obtain ⟨r, rfl, sends⟩ := Option.bind_eq_some_iff.mp way
      obtain ⟨address, located, _⟩ := Option.map_eq_some_iff.mp sends
      exact .inr (.inr ⟨r, address, rfl, located⟩)

namespace Stage

variable {t : RouteTable} {x : Exchange} {p p' : Passage} {r : Route} {address : Endpoint}

theorem isWeb_iff {scheme : Json} :
    isWeb scheme = true ↔ scheme = .str "http".toText ∨ scheme = .str "https".toText := by
  cases scheme with
  | str name =>
    change (WebProtocol.ofName? name).isSome = true ↔ _
    rw [Option.isSome_iff_exists, Json.str.injEq, Json.str.injEq]
    constructor
    · rintro ⟨q, named⟩
      obtain rfl := WebProtocol.ofName?_eq_some_iff.mp named
      cases q with
      | http => exact .inl rfl
      | https => exact .inr rfl
    · rintro (rfl | rfl)
      · exact ⟨.http, rfl⟩
      · exact ⟨.https, rfl⟩
  | _ => simp [isWeb, Json.text?]

theorem isPlain_iff {scheme : Json} : isPlain scheme = true ↔ scheme = .str "http".toText := by
  cases scheme <;> simp [isPlain, Json.text?]

/-! ### Sending -/

/-- The exchange on its way to the server of a route, which has the given address, with the
credentials for it if it is plain and there are any to be had. -/
def sendBy (r : Route) (address : Endpoint) (x : Exchange) : Exchange :=
  give r.server.credentials? (directTo r address x)

/-- The exchange is sent so in any case, and recorded unless something stands in the way. -/
theorem forwardTo_eq (r : Route) (address : Endpoint) (p : Passage) :
    forwardTo r address p =
      match r.sending with
      | .error fault => (.error fault, { p with exchange := sendBy r address p.exchange })
      | .ok server =>
        (.ok true, {
          exchange := { sendBy r address p.exchange with
            record := some ⟨r.pattern, server, r.tunnel⟩ }
          findings := { p.findings with routed := true } }) := by
  unfold forwardTo Route.sending sendBy Url.credentials?
  cases r.server.authorization with
  | error fault => rfl
  | ok given => cases r.server.redacted <;> rfl

theorem give_cases (given : Option Text) (x : Exchange) :
    (∃ value, x.scheme = .str "http".toText ∧ given = some value ∧
      give given x = withAuthorization x value) ∨
    ((x.scheme ≠ .str "http".toText ∨ given = none) ∧ give given x = x) := by
  cases given with
  | none => exact .inr ⟨.inr rfl, rfl⟩
  | some value =>
    by_cases plain : x.scheme = .str "http".toText
    · exact .inl ⟨value, plain, rfl, if_pos (isPlain_iff.mpr plain)⟩
    · exact .inr ⟨.inl plain, if_neg (mt isPlain_iff.mp plain)⟩

/-- Sending reroutes, and gives the credentials to a plain request if there are any. -/
theorem sendBy_cases (r : Route) (address : Endpoint) (x : Exchange) :
    (∃ value, x.scheme = .str "http".toText ∧ r.server.credentials? = some value ∧
      sendBy r address x =
        withAuthorization (x.reroute (some (hopOf r.server address))).2 value) ∨
    ((x.scheme ≠ .str "http".toText ∨ r.server.credentials? = none) ∧
      sendBy r address x = (x.reroute (some (hopOf r.server address))).2) := by
  have given := give_cases r.server.credentials? (directTo r address x)
  rwa [directTo, Exchange.reroute_scheme] at given

theorem sendBy_takes (r : Route) (address : Endpoint) (x : Exchange) :
    x.Takes (sendBy r address x) (some (hopOf r.server address)) := by
  have rerouted := x.reroute_takes (some (hopOf r.server address))
  rcases sendBy_cases r address x with ⟨value, _, _, sent⟩ | ⟨_, sent⟩
  · rw [sent]
    exact rerouted.congr rfl rfl
  · rw [sent]
    exact rerouted

theorem sendBy_connection (r : Route) (address : Endpoint) (x : Exchange) :
    (sendBy r address x).connection = (x.reroute (some (hopOf r.server address))).2.connection := by
  rcases sendBy_cases r address x with ⟨value, _, _, sent⟩ | ⟨_, sent⟩ <;>
    simp [sent, withAuthorization]

theorem sendBy_record (r : Route) (address : Endpoint) (x : Exchange) :
    (sendBy r address x).record = x.record := by
  rcases sendBy_cases r address x with ⟨value, _, _, sent⟩ | ⟨_, sent⟩ <;>
    simp [sent, withAuthorization]

/-- Only credentials change in the headers. -/
theorem sendBy_without (r : Route) (address : Endpoint) (x : Exchange) :
    Headers.without authorizationHeader (sendBy r address x).headers =
      Headers.without authorizationHeader x.headers := by
  rcases sendBy_cases r address x with ⟨value, _, _, sent⟩ | ⟨_, sent⟩
  · rw [sent]
    simp [withAuthorization, Headers.without_set]
  · rw [sent, Exchange.reroute_headers]

theorem sendBy_request (r : Route) (address : Endpoint) (x : Exchange) :
    (sendBy r address x).url = x.url ∧ (sendBy r address x).scheme = x.scheme ∧
      (sendBy r address x).host = x.host := by
  rcases sendBy_cases r address x with ⟨value, _, _, sent⟩ | ⟨_, sent⟩ <;>
    simp [sent, withAuthorization]

/-! ### One stage -/

theorem web_gives {known : Bool} (t : RouteTable) (p : Passage)
    (h : isWeb p.exchange.scheme = known) : (web.apply t p).Gives (.ok known, p) [] :=
  h ▸ Run.gives_pure _

theorem select_gives {found : Option Route} (t : RouteTable) (p : Passage)
    (h : RouteTable.selection p.exchange.url t.routes = .ok found) :
    (select.apply t p).Gives
      (.ok found.isSome, { p with findings := { p.findings with selected := some found } }) [] := by
  have selected := t.select_gives p.exchange.url
  rw [h] at selected
  exact selected.bind (Run.gives_pure _)

theorem select_gives_error {fault : Decimal.Fault} (t : RouteTable) (p : Passage)
    (h : RouteTable.selection p.exchange.url t.routes = .error fault) :
    (select.apply t p).Gives (.error (.number fault), p) [] := by
  have selected := t.select_gives p.exchange.url
  rw [h] at selected
  exact selected.bind (Run.gives_pure _)

theorem forward_gives {outcome : Except Fault Bool × Passage} (t : RouteTable)
    (p : Passage) (h : forwardSelected p = outcome) : (forward.apply t p).Gives outcome [] :=
  h ▸ Run.gives_pure _

/-! ### Stage after stage -/

theorem runAll_of_true {s : Stage} {ss : List Stage}
    {Q : Except Fault Unit × Passage → Prop} {reports : List Notice}
    (step : (s.apply t p).Gives (.ok true, p') []) (rest : (runAll t ss p').Yields Q reports) :
    (runAll t (s :: ss) p).Yields Q reports :=
  step.bind rest

theorem runAll_of_false {s : Stage} {ss : List Stage} {reports : List Notice}
    (step : (s.apply t p).Gives (.ok false, p') reports) :
    (runAll t (s :: ss) p).Gives (.ok (), p') reports := by
  rw [← List.append_nil reports]
  exact step.bind (Run.gives_pure _)

theorem runAll_of_error {s : Stage} {ss : List Stage} {fault : Fault}
    {reports : List Notice} (step : (s.apply t p).Gives (.error fault, p') reports) :
    (runAll t (s :: ss) p).Gives (.error fault, p') reports := by
  rw [← List.append_nil reports]
  exact step.bind (Run.gives_pure _)

/-! ### The stages of routing -/

/-- Where a route is selected for a request of the web, the last stage decides. -/
theorem routing_gives {outcome : Except Fault Unit × Passage} (chosen : t.search x = .ok (some r))
    (last : (runAll t [forward] ⟨x, { selected := some (some r) }⟩).Gives outcome []) :
    (runAll t routing ⟨x, {}⟩).Gives outcome [] := by
  obtain ⟨web, selected⟩ := RouteTable.search_eq_some_iff.mp chosen
  have picked := select_gives t ⟨x, {}⟩ selected
  exact runAll_of_true (web_gives t _ web) (runAll_of_true picked last)

theorem routing_gives_broken {fault : Decimal.Fault} (broken : t.search x = .error fault) :
    (runAll t routing ⟨x, {}⟩).Gives (.error (.number fault), ⟨x, {}⟩) [] := by
  unfold RouteTable.search at broken
  split at broken
  · rename_i web
    have failed := select_gives_error t ⟨x, {}⟩ broken
    exact runAll_of_true (web_gives t _ web) (runAll_of_error failed)
  · cases broken

/-- A request without a next hop comes out of the stages as it was. -/
theorem routing_gives_direct {e : Option Route} (chosen : t.search x = .ok e)
    (direct : e.bind Route.nextHop = none) :
    ∃ found : Findings, found.route? = none ∧
      (runAll t routing ⟨x, {}⟩).Gives (.ok (), ⟨x, found⟩) [] := by
  cases e with
  | some r =>
    have noAddress : r.server.endpoint = none :=
      Url.endpoint_eq_none_iff.mpr (Route.nextHop_eq_none_iff.mp direct)
    have passed : forwardSelected ⟨x, { selected := some (some r) }⟩ =
        (.ok false, ⟨x, { selected := some (some r) }⟩) := by
      simp only [forwardSelected, noAddress]
    exact ⟨_, rfl, routing_gives chosen (runAll_of_false (forward_gives t _ passed))⟩
  | none =>
    by_cases web : isWeb x.scheme = true
    · rw [RouteTable.search, if_pos web] at chosen
      have nothing := select_gives t ⟨x, {}⟩ chosen
      exact ⟨_, rfl, runAll_of_true (web_gives t _ web) (runAll_of_false nothing)⟩
    · have other := web_gives t ⟨x, {}⟩ (Bool.eq_false_iff.mpr web)
      exact ⟨_, rfl, runAll_of_false other⟩

theorem forwardSelected_eq (located : r.server.endpoint = some address) :
    forwardSelected ⟨x, { selected := some (some r) }⟩ =
      forwardTo r address ⟨x, { selected := some (some r) }⟩ := by
  simp only [forwardSelected, located]

/-- A request is sent by way of a server and recorded if nothing stands in the way. -/
theorem routing_gives_sent {server : Text} (chosen : t.search x = .ok (some r))
    (located : r.server.endpoint = some address) (sent : r.sending = .ok server) :
    (runAll t routing ⟨x, {}⟩).Gives
      (.ok (), ⟨{ sendBy r address x with record := some ⟨r.pattern, server, r.tunnel⟩ },
        { selected := some (some r), routed := true }⟩) [] := by
  have last := forwardSelected_eq (x := x) located
  simp only [forwardTo_eq, sent] at last
  exact routing_gives chosen (runAll_of_true (forward_gives t _ last) (Run.gives_pure _))

theorem routing_gives_failed {fault : Fault} (chosen : t.search x = .ok (some r))
    (located : r.server.endpoint = some address) (failed : r.sending = .error fault) :
    (runAll t routing ⟨x, {}⟩).Gives
      (.error fault, ⟨sendBy r address x, { selected := some (some r) }⟩) [] := by
  have last := forwardSelected_eq (x := x) located
  simp only [forwardTo_eq, failed] at last
  exact routing_gives chosen (runAll_of_error (forward_gives t _ last))

end Stage

namespace Router

variable {t : RouteTable} {x : Exchange} {r : Route} {address : Endpoint}

/-! ### Reports -/

theorem told_of_showable {v : Json} (shown : v.isShowable = true) : told v = .ok v.shown :=
  if_pos shown

theorem told_of_not_showable {v : Json} (unshown : v.isShowable = false) :
    told v = .error (.number .tooLongToWrite) :=
  if_neg (Bool.eq_false_iff.mp unshown)

/-- What can be put into words is reported. -/
theorem report_gives (n : Except Fault Notice) (other : ∀ m, n = .ok m → m.source ≠ .patterns) :
    (report n).Gives (n.map fun _ => ()) n.toOption.toList := by
  cases n with
  | ok m => exact Run.gives_note_pure (other m rfl) _
  | error fault => exact Run.gives_pure _

/-- A report about a text is given if there is such a text. -/
theorem report_gives_text (text : Except Fault Text) {n : Text → Notice}
    (other : ∀ t, (n t).source ≠ .patterns) :
    (report (text.map n)).Gives (text.map fun _ => ()) (text.toOption.toList.map n) := by
  cases text with
  | ok t => exact report_gives (.ok (n t)) (by rintro _ ⟨⟩; exact other t)
  | error fault => exact report_gives (.error fault) nofun

theorem failure_eq (x : Exchange) (fault : Stage.Fault) :
    failure x fault = (told x.url).map (.routingFailed · fault.message) := by
  unfold failure
  cases told x.url <;> rfl

theorem success_eq {server : Text} (recorded : r.server.redacted = .ok server) (x : Exchange) :
    success r x = (excerpt x.url).map (.routed r.tunnel · server) := by
  unfold success shown
  rw [recorded]
  cases excerpt x.url <;> rfl

/-! ### A request -/

theorem request_gives_broken {fault : Decimal.Fault} (broken : t.search x = .error fault) :
    (request t x).Gives (.error (.number fault), x) [] := by
  obtain ⟨rfl, unshown⟩ := RouteTable.unshown_of_search broken
  have untold : failure x (.number .tooLongToWrite) = .error (.number .tooLongToWrite) := by
    rw [failure_eq, told_of_not_showable unshown]
    rfl
  refine Run.Gives.bind (Stage.routing_gives_broken broken) ?_
  simp only [untold]
  exact Run.gives_pure _

theorem request_gives_direct {e : Option Route} (chosen : t.search x = .ok e)
    (direct : e.bind Route.nextHop = none) :
    (request t x).Gives (.ok (), (x.reroute none).2) [] := by
  obtain ⟨found, unrouted, gives⟩ := Stage.routing_gives_direct chosen direct
  refine Run.Gives.bind gives ?_
  simp only [unrouted]
  exact Run.gives_pure _

/-- That a request failed is reported if its URL can be shown. -/
theorem request_gives_failed {fault : Stage.Fault} (chosen : t.search x = .ok (some r))
    (located : r.server.endpoint = some address) (failed : r.sending = .error fault) :
    (request t x).Gives ((told x.url).map fun _ => (), Stage.sendBy r address x)
      ((told x.url).toOption.toList.map (.routingFailed · fault.message)) := by
  refine Run.Gives.bind (Stage.routing_gives_failed chosen located failed) ?_
  simp only [failure_eq]
  exact (report_gives_text (told x.url) (by simp [Notice.source])).map fun result =>
    (result, Stage.sendBy r address x)

/-- A request that is sent is recorded, and reported if its URL has a beginning that can be
shown. -/
theorem request_gives_sent {server : Text} (chosen : t.search x = .ok (some r))
    (located : r.server.endpoint = some address) (sent : r.sending = .ok server) :
    (request t x).Gives
      ((excerpt x.url).map fun _ => (),
        { Stage.sendBy r address x with record := some ⟨r.pattern, server, r.tunnel⟩ })
      ((excerpt x.url).toOption.toList.map (.routed r.tunnel · server)) := by
  refine Run.Gives.bind (Stage.routing_gives_sent chosen located sent) ?_
  change Run.Yields (report (success r x) >>= _) _ _
  rw [success_eq (Route.sending_eq_ok_iff.mp sent).2]
  have reported := report_gives_text (excerpt x.url) (n := (.routed r.tunnel · server))
    (by simp [Notice.source])
  exact reported.map fun result =>
    (result, { Stage.sendBy r address x with record := some ⟨r.pattern, server, r.tunnel⟩ })

/-! ### What becomes of a request -/

section
variable {s : Session} (reached : s.cache.Reachable)
include reached

/-- A request stays as it was if the search for its route breaks off. -/
theorem request_broken {fault : Decimal.Fault} (broken : t.search x = .error fault) :
    ((request t x).result s).2 = x := by
  rw [(request_gives_broken broken).result_eq reached]

theorem request_direct {e : Option Route} (chosen : t.search x = .ok e)
    (direct : e.bind Route.nextHop = none) : ((request t x).result s).2 = (x.reroute none).2 := by
  rw [(request_gives_direct chosen direct).result_eq reached]

/-- A request is sent by way of the server of its route, whether or not this is recorded. -/
theorem request_sent (chosen : t.search x = .ok (some r))
    (located : r.server.endpoint = some address) :
    ∃ record, ((request t x).result s).2 = { Stage.sendBy r address x with record } := by
  cases sent : r.sending with
  | error fault =>
    rw [(request_gives_failed chosen located sent).result_eq reached]
    exact ⟨(Stage.sendBy r address x).record, rfl⟩
  | ok server =>
    rw [(request_gives_sent chosen located sent).result_eq reached]
    exact ⟨_, rfl⟩

/-- The next hop of a request that is sent has the address of the server. -/
theorem request_address (chosen : t.search x = .ok (some r))
    (located : r.server.endpoint = some address) :
    ((request t x).result s).2.connection.via.map (·.address) = some address := by
  obtain ⟨_, become⟩ := request_sent reached chosen located
  have way := (Stage.sendBy_takes r address x).via_eq
  rw [become]
  simp only [way, Option.map_some, Stage.hopOf]

end

end Router

end ProxySelection
