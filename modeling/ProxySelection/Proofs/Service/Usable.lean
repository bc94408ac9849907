import ProxySelection.Proofs.Service.Passwords
import ProxySelection.Proofs.Table.Listing
import ProxySelection.Proofs.Url.Legible

/-!
Which routes can be used.

A route that was read may still have a server that cannot be shown, namely one whose port is not
legible, and then showing it, listing the table, answering with it, checking a URL and starting the
proxy fail where they come to it. Answering with a route and checking a URL fail too if what is
shown cannot be encoded. They fail nowhere else: `usable_iff_legible`. A port that is not legible
takes an object that gives the text of it (`Route.Made.hasLegiblePort`).
-/

namespace ProxySelection

/-- Every member of this name, in a value that is an object, is as said. -/
def Json.EachMember (name : Text) (P : Json → Prop) (v : Json) : Prop :=
  ∀ ms w, v = .obj ms → (name, w) ∈ ms → P w

/-- No port is given as an integer with more digits than can be written. -/
def Json.HasShortPort : Json → Prop :=
  EachMember Url.portName fun w => ∀ n, w = .int n → n.natAbs < 10 ^ Decimal.digitLimit

/-- No text of a port is given that is a run of digits and no integer is read from. -/
def Json.HasReadablePort : Json → Prop :=
  EachMember Url.portTextName fun w => ∀ t, w = .str t → Url.IsReadable t

/-! ### Servers -/

namespace Route

variable {r : Route}

/-- What holds of the empty URL and of parsed ones, and is kept by reading and laying over objects
as given, holds of all servers. -/
theorem Made.server {P : Url → Prop} {given : Json → Prop} (made : r.Made given given)
    (empty : P .empty) (parsed : ∀ t u, Url.parse t = .ok u → P u)
    (read : ∀ ms u, given (.obj ms) → Url.ofMembers ms = .ok u → P u)
    (laid : ∀ ms u w, given (.obj ms) → P u → Url.ofMembers (u.members.overlay ms) = .ok w → P w) :
    P r.server := by
  induction made with
  | read checked ok =>
    rcases server_of_ofMembers checked with ⟨_, none⟩ | ⟨v, there, server⟩
    · exact none ▸ empty
    · rcases checkServer_cases server with ⟨_, none | ⟨t, text⟩⟩ | ⟨ms, rfl, object⟩
      · exact none ▸ empty
      · exact parsed t _ text
      · exact read ms _ (ok _ there) object
  | @updated r r' options _ updated ok ih =>
    rcases server_of_update updated with ⟨_, same⟩ | ⟨ms, v, rfl, named, overlaid⟩
    · exact same ▸ ih
    · rcases overlay_cases overlaid with ⟨_, none | ⟨t, text⟩⟩ | ⟨ms', rfl, object⟩
      · exact none ▸ empty
      · exact parsed t _ text
      · exact laid ms' _ _ (ok ms _ rfl named) ih object

theorem Made.hasShortPort (made : r.Made Json.HasShortPort Json.HasShortPort) :
    r.server.HasShortPort := by
  refine made.server ?_ ?_ ?_ ?_
  · intro port found
    cases found
  · intro t u parsed
    exact Url.hasShortPort_of_parse parsed
  · intro ms u given read
    refine Url.hasShortPort_of_ofMembers read fun n there => ?_
    exact given ms _ rfl (Members.mem_of_get? there) n rfl
  · intro ms u w given short read
    refine Url.hasShortPort_of_ofMembers read fun n there => ?_
    rcases Members.get?_overlay_cases there with above | below
    · exact given ms _ rfl above n rfl
    · have kept : Json.ofInt? u.port = .int n := Option.some.inj below
      exact short n (Json.ofInt?_eq_int_iff.mp kept)

/-- A server whose port is not legible was given the text of it by an object. -/
theorem Made.hasLegiblePort (made : r.Made Json.HasReadablePort Json.HasReadablePort) :
    r.server.HasLegiblePort := by
  have readable : ∀ written, r.server.portText = some written → Url.IsReadable written := by
    refine made.server
      (P := fun u => ∀ written, u.portText = some written → Url.IsReadable written) ?_ ?_ ?_ ?_
    · intro written text
      cases text
    · intro t u parsed written text
      exact Url.isReadable_of_parse parsed text
    · intro ms u given read written text
      have there := Url.portText_of_ofMembers read text
      exact given ms _ rfl (Members.mem_of_get? there) written rfl
    · intro ms u w given kept read written text
      have there := Url.portText_of_ofMembers read text
      rcases Members.get?_overlay_cases there with above | below
      · exact given ms _ rfl above written rfl
      · have same : Json.ofText? u.portText = .str written := Option.some.inj below
        exact kept written (Json.ofText?_eq_str_iff.mp same)
  intro _ _ written text
  exact readable written text

end Route

/-! ### What comes to a server -/

variable {t : RouteTable} {url : Text}

/-- The answer which route is selected for a URL, without a session. -/
def Service.resolution (t : RouteTable) (url : Text) : Except Service.Fault Service.Reply :=
  match RouteTable.firstServing (.str url) t.routes with
  | none => .ok noRoute
  | some r => (routeReply r).mapError .server

theorem Service.resolve_gives (t : RouteTable) (url : Text) :
    (resolve t url).outcome.Gives (resolution t url) [] := by
  have selected := Attempt.gives_adapt (t.select_gives_text url) Service.Fault.server
  refine Attempt.bind_yields selected ?_
  unfold resolution
  cases RouteTable.firstServing (.str url) t.routes with
  | none => exact Attempt.gives_pure noRoute
  | some r => exact Attempt.gives_ofExcept _

/-- The request asks which route is selected for a URL. -/
structure Service.Request.AsksFor (q : Service.Request) (depth : Nat) (url : Text) : Prop where
  method : q.method = "POST".toText
  endpoint : ∃ path, Target.path? q.target = .ok (some path) ∧ endpointAt path = some .resolve
  body : question depth urlOf q.body = .ok url

theorem Service.publish_gives (t : RouteTable) (port : Text) :
    ∃ reports, (publish t port).Gives t reports := by
  refine ⟨t.routes.flatMap RouteTable.announcement ++ [.serviceStarted port], ?_⟩
  refine Run.Gives.bind (RouteTable.appendAll_gives .empty t.routes) ?_
  exact Run.gives_note_pure (by simp [Notice.source]) t

/-- A request for an endpoint, by a method with a body that is used there, is answered by it. -/
theorem Service.answer_eq_answerAt {q : Service.Request} {path : Text} {e : Endpoint}
    (readable : Target.path? q.target = .ok (some path)) (found : endpointAt path = some e)
    (used : e.methods.contains q.method = true) (other : q.method ≠ "HEAD".toText) (depth : Nat)
    (t : RouteTable) : answer depth t q = answerAt depth t q.body e := by
  have known : (Attempt.ofExcept ((Target.path? q.target).mapError Fault.target) :
      Attempt Fault (Option Text)) = pure (some path) := by
    rw [readable]
    rfl
  have full : fullAnswer depth t q = answerAt depth t q.body e := by
    simp only [fullAnswer, known, pure_bind, Option.bind_some, found, used, if_true]
  simp only [answer, full, if_neg other, bind_pure]

theorem Service.answer_gives {q : Service.Request} {depth : Nat} (asks : q.AsksFor depth url)
    (t : RouteTable) :
    (answer depth t q).outcome.Gives (resolution t url >>= encodable) [] := by
  obtain ⟨path, readable, found⟩ := asks.endpoint
  have used : Endpoint.resolve.methods.contains q.method = true := by
    rw [asks.method]
    decide
  have other : q.method ≠ "HEAD".toText := by
    rw [asks.method]
    decide
  rw [answer_eq_answerAt readable found used other, answerAt, replyAt, asks.body]
  exact Attempt.gives_bind_ofExcept (resolve_gives t url) encodable

/-- The service answers a request by what it selects from the table it was started with. -/
theorem Service.publishedAnswer_gives {q : Service.Request} {depth : Nat}
    (asks : q.AsksFor depth url) (t : RouteTable) (port : Text) :
    ∃ reports, (publishedAnswer depth t port q).outcome.Gives (resolution t url >>= encodable)
      reports := by
  obtain ⟨reports, published⟩ := publish_gives t port
  refine ⟨reports ++ [], Attempt.lift_bind_yields published ?_⟩
  rintro _ rfl
  exact answer_gives asks _

/-- The report of checking a URL, without a session. -/
def CommandLine.checked (t : RouteTable) (url : Text) :
    Except CommandLine.Fault CommandLine.Report :=
  checkReport url (RouteTable.firstServing (.str url) t.routes)

theorem CommandLine.checkUrl_gives (t : RouteTable) (url : Text) :
    (checkUrl t url).outcome.Gives (checked t url) [] :=
  Attempt.gives_bind_ofExcept (Attempt.gives_adapt (t.select_gives_text url) Fault.number)
    (checkReport url)

/-- The mode in which the proxy starts, without a session. -/
def Launch.startingMode (t : RouteTable) : Except Decimal.Fault Text :=
  match firstServing t with
  | none => .ok "regular".toText
  | some r => r.server.remote.map (modeFor r.server)

theorem Launch.mode_gives (t : RouteTable) :
    ∃ reports, (mode t).outcome.Gives (startingMode t) reports := by
  unfold mode startingMode
  cases firstServing t with
  | none =>
    refine ⟨[.regularMode], ?_⟩
    exact Attempt.lift_bind_pure (Run.gives_note (by simp [Notice.source]))
  | some r => exact ⟨[], Attempt.gives_bind_pure (Attempt.gives_ofExcept _) _⟩

/-! ### What can be used -/

theorem isOk_map_iff {ε α β : Type} {x : Except ε α} {f : α → β} :
    (∃ b, x.map f = .ok b) ↔ ∃ a, x = .ok a := by
  cases x <;> simp [Except.map]

/-- What is shown of a route by itself, its pattern and its server, can be encoded. -/
def Route.IsEncodable (r : Route) : Prop :=
  Utf8.isEncodable r.pattern = true ∧ r.server.HasEncodableParts

/-- The server of the route can be shown, and what is shown can be encoded. -/
def Route.IsPresentable (r : Route) : Prop :=
  (∃ server, r.server.redacted = .ok server) ∧ r.IsEncodable

theorem Service.encodable_isOk_iff {reply : Reply} :
    (∃ same, encodable reply = .ok same) ↔ ∀ v, reply.body = some v → v.isEncodable = true := by
  unfold encodable
  cases reply.body with
  | none => simp
  | some v => by_cases encodable : v.isEncodable = true <;> simp [encodable]

/-- The answer that a route was selected can be encoded exactly if the route can. -/
theorem Service.isEncodable_routeReply {r : Route} {server : Text}
    (shown : r.server.redacted = .ok server) :
    ∃ v, routeReply r = .ok ⟨200, some v⟩ ∧ (v.isEncodable = true ↔ r.IsEncodable) := by
  refine ⟨_, by rw [routeReply, shown]; rfl, ?_⟩
  rw [Route.IsEncodable, ← Url.isEncodable_redacted_iff shown]
  cases server <;> simp [object, Json.isEncodable, Json.texts, Json.memberTexts]

theorem Service.resolution_isOk_iff :
    (∃ reply, resolution t url >>= encodable = .ok reply) ↔
      ∀ r, RouteTable.firstServing (.str url) t.routes = some r → r.IsPresentable := by
  unfold resolution
  cases RouteTable.firstServing (.str url) t.routes with
  | none => exact iff_of_true ⟨noRoute, rfl⟩ nofun
  | some r =>
    have only : (∀ q, some r = some q → q.IsPresentable) ↔ r.IsPresentable := by simp
    rw [only, Route.IsPresentable]
    cases shown : r.server.redacted with
    | error fault =>
      simp [routeReply, shown, bind, Except.bind, Except.mapError]
    | ok server =>
      obtain ⟨v, replied, encodable_iff⟩ := isEncodable_routeReply shown
      simp only [replied, ← encodable_iff]
      refine encodable_isOk_iff.trans ?_
      simp

theorem CommandLine.printed_isOk_iff {code : Nat} {line : Text} :
    (∃ report, printed code line = .ok report) ↔ Utf8.isEncodable line = true := by
  unfold printed Utf8.encode
  split <;> simp [*, bind, Except.bind, pure, Except.pure, Except.mapError]

theorem CommandLine.checked_isOk_iff :
    (∃ report, checked t url = .ok report) ↔ Utf8.isEncodable url = true ∧
      ∀ r, RouteTable.firstServing (.str url) t.routes = some r → r.IsPresentable := by
  unfold checked
  cases RouteTable.firstServing (.str url) t.routes with
  | none =>
    rw [checkReport, printed_isOk_iff]
    simp [directLine]
  | some r =>
    have only : (∀ q, some r = some q → q.IsPresentable) ↔ r.IsPresentable := by simp
    rw [only, Route.IsPresentable, Route.IsEncodable]
    cases shown : r.server.redacted with
    | error fault => simp [checkReport, shown, bind, Except.bind, Except.mapError]
    | ok server =>
      have line : Utf8.isEncodable (routeLine url server r) = true ↔ Utf8.isEncodable url = true ∧
          Utf8.isEncodable r.pattern = true ∧ Utf8.isEncodable server = true := by
        cases tunnel : r.tunnel <;> simp [routeLine, tunnel] <;> tauto
      have report : checkReport url (some r) = printed 0 (routeLine url server r) := by
        rw [checkReport, shown]
        rfl
      rw [report, printed_isOk_iff, line, ← Url.isEncodable_redacted_iff shown]
      simp

theorem Launch.startingMode_isOk_iff :
    (∃ mode, startingMode t = .ok mode) ↔
      ∀ r, firstServing t = some r → ∃ remote, r.server.remote = .ok remote := by
  unfold startingMode
  cases firstServing t with
  | none => simp
  | some r => simp [isOk_map_iff]

theorem Route.describe_isOk_iff {r : Route} (short : r.server.HasShortPort) (redact : Bool) :
    (∃ v, r.describe redact = .ok v) ↔ r.server.HasLegiblePort := by
  have shown : (∃ text, r.serverShown redact = .ok text) ↔ r.server.HasLegiblePort := by
    cases redact
    · exact Url.renderWith_isOk_iff short _
    · exact Url.renderWith_isOk_iff short _
  rw [← shown]
  constructor
  · rintro ⟨v, described⟩
    obtain ⟨text, shown, _⟩ := describe_eq_ok_iff.mp described
    exact ⟨text, shown⟩
  · rintro ⟨text, shown⟩
    exact ⟨_, describe_eq_ok_iff.mpr ⟨text, shown, rfl⟩⟩

/-- **Routes are usable if their ports are legible and their texts can be encoded.** Over routes
that were read and updated, with ports of no more digits than can be written, showing a server,
listing the table and finding the mode of the proxy fail exactly if they come to a server whose port
is not legible. Answering which route is selected and checking a URL fail moreover if what is shown
of the route cannot be encoded, or of the URL. No port is illegible unless an object gave the text
of it that is made of digits and is no integer, or too long for one. -/
theorem RouteTable.usable_iff_legible {s : Session} (reached : s.cache.Reachable)
    (made : ∀ r ∈ t.routes, r.Made Json.HasShortPort Json.HasShortPort) :
    (∀ r ∈ t.routes,
      ((∃ remote, r.server.remote = .ok remote) ↔ r.server.HasLegiblePort) ∧
      ((∃ text, r.server.render = .ok text) ↔ r.server.HasLegiblePort) ∧
      ((∃ text, r.server.redacted = .ok text) ↔ r.server.HasLegiblePort)) ∧
    (∀ redact, (∃ items, t.describe redact = .ok items) ↔
      ∀ r ∈ t.routes, r.server.HasLegiblePort) ∧
    (∀ depth q url port, Service.Request.AsksFor q depth url →
      ((∃ reply, (Service.publishedAnswer depth t port q).outcome.result s = .ok reply) ↔
        ∀ r, firstServing (.str url) t.routes = some r →
          r.server.HasLegiblePort ∧ r.IsEncodable)) ∧
    (∀ url, (∃ report, (CommandLine.checkUrl t url).outcome.result s = .ok report) ↔
      Utf8.isEncodable url = true ∧ ∀ r, firstServing (.str url) t.routes = some r →
        r.server.HasLegiblePort ∧ r.IsEncodable) ∧
    ((∃ mode, (Launch.mode t).outcome.result s = .ok mode) ↔
      ∀ r, Launch.firstServing t = some r → r.server.HasLegiblePort) ∧
    ∀ r : Route, r.Made Json.HasReadablePort Json.HasReadablePort → r.server.HasLegiblePort := by
  have short : ∀ r ∈ t.routes, r.server.HasShortPort := fun r mem => (made r mem).hasShortPort
  have served : ∀ url, (∀ r, firstServing url t.routes = some r → r.IsPresentable) ↔
      ∀ r, firstServing url t.routes = some r → r.server.HasLegiblePort ∧ r.IsEncodable := by
    intro url
    refine forall₂_congr fun r found => ?_
    have legible :=
      Url.renderWith_isOk_iff (short r (List.mem_of_find?_eq_some found)) (some Url.mask)
    exact and_congr_left' legible
  refine ⟨fun r mem => ⟨?_, ?_, ?_⟩, fun redact => ?_, fun depth q url port asks => ?_,
    fun url => ?_, ?_, fun r readable => readable.hasLegiblePort⟩
  · exact Url.remote_isOk_iff (short r mem)
  · exact Url.renderWith_isOk_iff (short r mem) _
  · exact Url.renderWith_isOk_iff (short r mem) _
  · refine mapM_isOk_iff.trans (forall₂_congr fun r mem => ?_)
    exact Route.describe_isOk_iff (short r mem) redact
  · obtain ⟨_, gives⟩ := Service.publishedAnswer_gives asks t port
    rw [gives.result_eq reached, Service.resolution_isOk_iff, served]
  · rw [(CommandLine.checkUrl_gives t url).result_eq reached, CommandLine.checked_isOk_iff, served]
  · obtain ⟨_, gives⟩ := Launch.mode_gives t
    rw [gives.result_eq reached, Launch.startingMode_isOk_iff]
    refine forall₂_congr fun r found => ?_
    exact Url.remote_isOk_iff (short r (List.mem_of_find?_eq_some found))

/-- A port with a superscript for its text is taken in, and then it cannot be shown: neither by
itself nor in a listing, whatever else is listed. A surrogate for the name of a host is taken in and
shown, but not when a URL is checked. -/
theorem RouteTable.usable_iff_legible_superscript :
    let server : Members := [
      (Url.hostName, .str [char 'h']), (Url.portName, .int 2), (Url.portTextName, .str [char '²'])]
    let text : Text := "http://".toText ++ [.surrogate 0]
    ∃ r : Route, Route.check (.obj [(Route.serverName, .obj server)]) = .ok r ∧
      (¬ ∃ remote, r.server.remote = .ok remote) ∧
      (∀ redact, ¬ ∃ items, (RouteTable.mk [{}, r]).describe redact = .ok items) ∧
      (¬ ∃ mode, (Launch.mode ⟨[{}, r]⟩).outcome.result Session.start = .ok mode) ∧
      ∃ q : Route, Route.check (.obj [(Route.serverName, .str text)]) = .ok q ∧
        (∃ shown, q.server.redacted = .ok shown) ∧
        ¬ ∃ report, (CommandLine.checkUrl ⟨[q]⟩ "http://a.b/".toText).outcome.result Session.start =
          .ok report := by
  intro server text
  let r : Route := {
    server := { host := some [char 'h'], port := some 2, portText := some [char '²'] } }
  have plain : Route.check (.obj []) = .ok {} := rfl
  have taken : Route.check (.obj [(Route.serverName, .obj server)]) = .ok r := rfl
  have given : (Json.obj server).HasShortPort := by
    rintro ms w same mem n rfl
    obtain rfl := Json.obj.inj same
    have number : Json.int n = .int 2 := by
      rcases List.mem_cons.mp mem with host | mem
      · cases (Prod.mk.inj host).2
      · rcases List.mem_cons.mp mem with port | mem
        · exact (Prod.mk.inj port).2
        · cases (Prod.mk.inj (List.mem_singleton.mp mem)).2
    have small : n.natAbs ≤ 2 ^ 63 := by
      obtain rfl := Json.int.inj number
      decide
    exact Decimal.lt_bound_of_le small
  have made : ∀ q ∈ [{}, r], Route.Made Json.HasShortPort Json.HasShortPort q := by
    intro q mem
    rcases List.mem_pair.mp mem with rfl | rfl
    · refine .read plain ?_
      rintro v ⟨⟩
    · refine .read taken ?_
      rintro v ⟨⟩
      exact given
  have illegible : ¬ r.server.HasLegiblePort := by
    intro legible
    obtain ⟨n, read⟩ := legible (by decide) (by decide) _ rfl (by decide)
    have unread : Decimal.read [char '²'] = .error (.notInteger [char '²']) := rfl
    rw [unread] at read
    cases read
  have reached : Session.start.cache.Reachable := .ofCapacity _
  obtain ⟨shown, listed, _, _, mode, _⟩ := usable_iff_legible (t := ⟨[{}, r]⟩) reached made
  let q : Route := { server := { protocol := some "http".toText, host := some [.surrogate 0] } }
  have taken' : Route.check (.obj [(Route.serverName, .str text)]) = .ok q := rfl
  have made' : ∀ p ∈ [q], Route.Made Json.HasShortPort Json.HasShortPort p := by
    intro p mem
    obtain rfl := List.mem_singleton.mp mem
    refine .read taken' ?_
    rintro v ⟨⟩
    exact nofun
  obtain ⟨_, _, _, checks, _⟩ := usable_iff_legible (t := ⟨[q]⟩) reached made'
  have first : firstServing (.str "http://a.b/".toText) [q] = some q := by decide
  have surrogates : ¬ q.IsEncodable := fun h => absurd (h.2 rfl).2.2.1 Bool.false_ne_true
  refine ⟨r, taken, ?_, fun redact => ?_, ?_, q, taken', ⟨_, rfl⟩, ?_⟩
  · exact mt (shown r (by simp)).1.mp illegible
  · exact mt (listed redact).mp fun all => illegible (all r (by simp))
  · exact mt mode.mp fun all => illegible (all r rfl)
  · exact mt (checks _).mp fun all => surrogates (all.2 q first).2

end ProxySelection
