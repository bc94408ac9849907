import ProxySelection.CommandLine.Run
import ProxySelection.Service.Answer
import ProxySelection.Proofs.Exchange.Shown

/-!
Passwords do not show.

Over tables that differ in passwords only, the service gives the same answers, a URL is checked
with the same line and exit code, the proxy is started in the same mode, and a request takes the
same way; whatever fails fails in the same way. If moreover the passwords can be encoded, the router
does the same but for the values of the credentials that it puts on requests. But a password that
cannot be encoded shows in what is recorded and reported: `passwords_unobservable_unless`.
-/

namespace ProxySelection

variable {t t' : RouteTable} {r r' : Route}

/-! ### Checking a URL -/

theorem CommandLine.routeLine_eq (twins : r.Twins r') (url server : Text) :
    routeLine url server r' = routeLine url server r := by
  rw [routeLine, routeLine, twins.pattern_eq, twins.tunnel_eq]

theorem CommandLine.checkReport_eq (twins : r.Twins r') (url : Text) :
    checkReport url (some r') = checkReport url (some r) := by
  simp only [checkReport, twins.server.redacted_eq, routeLine_eq twins]

theorem CommandLine.checkUrl_eq (h : t.Twins t') (url : Text) :
    checkUrl t' url = checkUrl t url := by
  have selected := (h.select_lockstep (.str url)).adapt Fault.number
  refine Attempt.Lockstep.eq (selected.bind ?_)
  intro chosen chosen' related
  cases related with
  | none => exact Attempt.lockstep_refl _
  | some twins => exact Attempt.lockstep_of_eq (by rw [checkReport_eq twins])

/-! ### Launching -/

theorem Launch.modeFor_eq (twins : r.Twins r') (remote : Text) :
    modeFor r'.server remote = modeFor r.server remote := by
  unfold modeFor
  rw [twins.server.protocol_eq]

theorem Launch.mode_eq (h : t.Twins t') : mode t' = mode t := by
  have serving : Option.Rel Route.Twins (firstServing t) (firstServing t') := by
    refine RouteTable.find?_rel ?_ h
    intro r r' twins
    rw [twins.disabled_eq, twins.server.isEmpty_eq]
  unfold mode
  generalize firstServing t = first, firstServing t' = first' at serving
  cases serving with
  | none => rfl
  | some twins => simp only [twins.server.remote_eq, modeFor_eq twins]

namespace Service

/-! ### The service -/

theorem routeReply_eq (twins : r.Twins r') : routeReply r' = routeReply r := by
  rw [routeReply, routeReply, twins.server.redacted_eq, twins.pattern_eq, twins.tunnel_eq]

theorem resolve_eq (h : t.Twins t') (url : Text) : resolve t' url = resolve t url := by
  have selected := (h.select_lockstep (.str url)).adapt Fault.server
  refine Attempt.Lockstep.eq (selected.bind ?_)
  intro chosen chosen' related
  cases related with
  | none => exact Attempt.lockstep_refl _
  | some twins => exact Attempt.lockstep_of_eq (by simp only [routeReply_eq twins])

theorem replyAt_eq (depth : Nat) (h : t.Twins t') (body : List UInt8) (e : Endpoint) :
    replyAt depth t' body e = replyAt depth t body e := by
  cases e with
  | health => simp only [replyAt, health, h.size_eq]
  | resolve =>
    have same : resolve t' = resolve t := funext (resolve_eq h)
    rw [replyAt, replyAt, same]
  | test => rfl
  | list => rw [replyAt, replyAt, list, list, h.describe_eq]
  | page => rfl

theorem answer_eq (depth : Nat) (h : t.Twins t') (request : Request) :
    answer depth t' request = answer depth t request := by
  have full : fullAnswer depth t' request = fullAnswer depth t request := by
    simp only [fullAnswer, answerAt, replyAt_eq depth h]
  rw [answer, answer, full]

/-- What is answered over the table that is published. -/
def publishedAnswer (depth : Nat) (t : RouteTable) (port : Text) (request : Request) :
    Attempt Fault Reply := do
  let published ← publish t port
  answer depth published request

theorem publishedAnswer_eq (depth : Nat) (h : t.Twins t') (port : Text) (request : Request) :
    publishedAnswer depth t' port request = publishedAnswer depth t port request := by
  have published : Run.Lockstep RouteTable.Twins (publish t port) (publish t' port) := by
    refine (RouteTable.ofRoutes_lockstep h).bind ?_
    intro u u' twins
    exact Run.lockstep_bind_same _ fun _ => Run.lockstep_pure twins
  refine Attempt.Lockstep.eq (Attempt.lockstep_lift_bind published ?_)
  intro u u' twins
  exact Attempt.lockstep_of_eq (answer_eq depth twins request)

end Service

/-- **Passwords do not show, unless they cannot be encoded.** Over tables that differ in passwords
only, where each of both is given, nothing differs in the list of routes with masked passwords, in
the answers of the service, in what is shown when a URL is checked, and in the mode of the proxy.
All of this fails alike, and a request takes the same way. A request with a text for its URL is
recorded and reported in the same way exactly if what keeps the credentials for the server of its
route from being encoded is worded in the same way, if there is something. Over tables where the
credentials fail to be encoded alike or not at all, a request and a request for a tunnel leave the
same session with the same notices, come to the same end, and look the same; at most the values of
their credentials differ. -/
theorem RouteTable.passwords_unobservable_unless (h : t.Twins t') :
    t'.describe true = t.describe true ∧
      (∀ depth request, Service.answer depth t' request = Service.answer depth t request) ∧
      (∀ depth port request, Service.publishedAnswer depth t' port request =
        Service.publishedAnswer depth t port request) ∧
      (∀ url, CommandLine.checkUrl t' url = CommandLine.checkUrl t url) ∧
      Launch.mode t' = Launch.mode t ∧
      (∀ (x : Exchange) (s : Session), s.cache.Reachable →
        ((Router.request t' x).result s).2.connection =
          ((Router.request t x).result s).2.connection) ∧
      (∀ (x : Exchange) (s : Session) (url : Text), s.cache.Reachable → x.url = .str url →
        ((Router.request t' x).result s).1 = ((Router.request t x).result s).1 ∧
        (((Router.request t' x).result s).2.record = ((Router.request t x).result s).2.record ∧
            ((Router.request t' x).after s).reports = ((Router.request t x).after s).reports ↔
          ∀ r r', t.routeFor x = some r → t'.routeFor x = some r' → r.server.isEmpty = false →
            r'.server.encodingFault?.map Utf8.Fault.message =
              r.server.encodingFault?.map Utf8.Fault.message)) ∧
      (t.Peers t' → ∀ (x : Exchange) (s : Session),
        ((Router.request t' x).result s).1 = ((Router.request t x).result s).1 ∧
        ((Router.request t' x).result s).2.shown = ((Router.request t x).result s).2.shown ∧
        ((Router.request t' x).result s).2.record = ((Router.request t x).result s).2.record ∧
        (Router.request t' x).after s = (Router.request t x).after s ∧
        ((Router.requestTunnel t' x).result s).1 = ((Router.requestTunnel t x).result s).1 ∧
        ((Router.requestTunnel t' x).result s).2.shown =
          ((Router.requestTunnel t x).result s).2.shown ∧
        (Router.requestTunnel t' x).after s = (Router.requestTunnel t x).after s) := by
  refine ⟨h.describe_eq, fun depth => Service.answer_eq depth h,
    fun depth => Service.publishedAnswer_eq depth h, CommandLine.checkUrl_eq h, Launch.mode_eq h,
    ?_, ?_, ?_⟩
  · intro x s reached
    exact Router.request_connection_eq reached h x
  · intro x s url reached text
    exact Router.request_reported_alike_iff reached h text
  · intro peers x s
    obtain ⟨⟨value, shown⟩, last⟩ := Router.request_lockstep peers x s
    obtain ⟨_, _, _, record⟩ := Exchange.eq_of_shown shown
    obtain ⟨⟨value', shown'⟩, last'⟩ := Router.requestTunnel_lockstep peers x s
    exact ⟨value, shown, record, last, value', shown', last'⟩

/-- Tables with the passwords `p` and `q` are written differently, but not once they are masked, and
requests are given other credentials over them, which is all that can be seen. With a surrogate for
the password it is seen in the record of a request or in what is reported of it. -/
theorem RouteTable.passwords_unobservable_unless_of_surrogate :
    let r (password : Text) : Route := { server := {
      username := some "u".toText, password := some password, host := some "px".toText } }
    let t := fun password => RouteTable.mk [r password]
    let x : Exchange := { Exchange.fresh none with
      url := .str "http://a.b/".toText
      scheme := .str "http".toText }
    let outcome password := (Router.request (t password) x).result Session.start
    let reports password := ((Router.request (t password) x).after Session.start).reports
    (t "p".toText).Twins (t "q".toText) ∧ (t "p".toText).Twins (t [.surrogate 0]) ∧
      (r "p".toText).server.render ≠ (r "q".toText).server.render ∧
      (r "p".toText).server.authorization ≠ (r "q".toText).server.authorization ∧
      (t "q".toText).describe true = (t "p".toText).describe true ∧
      (outcome "q".toText).2.shown = (outcome "p".toText).2.shown ∧
      (t [.surrogate 0]).describe true = (t "p".toText).describe true ∧
      (outcome [.surrogate 0]).2.connection = (outcome "p".toText).2.connection ∧
      ¬ ((outcome [.surrogate 0]).2.record = (outcome "p".toText).2.record ∧
        reports [.surrogate 0] = reports "p".toText) := by
  intro r t x outcome reports
  have reached : Session.start.cache.Reachable := .ofCapacity _
  have twins : (t "p".toText).Twins (t "q".toText) := .cons ⟨_, rfl, _, rfl, rfl⟩ .nil
  have twins' : (t "p".toText).Twins (t [.surrogate 0]) := .cons ⟨_, rfl, _, rfl, rfl⟩ .nil
  have encodable (password : Text) (h : Utf8.isEncodable password = true) :
      ∀ q ∈ (t password).routes, q.server.HasEncodableUser := by
    intro q mem
    obtain rfl := List.mem_singleton.mp mem
    exact fun _ => ⟨rfl, h⟩
  have peers := twins.peers_of_encodable (encodable _ (by decide)) (encodable _ (by decide))
  obtain ⟨listed, _, _, _, _, _, _, alike⟩ := passwords_unobservable_unless twins
  obtain ⟨listed', _, _, _, _, way, told, _⟩ := passwords_unobservable_unless twins'
  refine ⟨twins, twins', by decide, by decide, listed, (alike peers x Session.start).2.1, listed',
    way x Session.start reached, fun same => ?_⟩
  have worded := (told x Session.start _ reached rfl).2.mp same (r "p".toText) (r [.surrogate 0])
    (by decide) (by decide) rfl
  exact absurd worded (by decide)

end ProxySelection
