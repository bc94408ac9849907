import ProxySelection.Proofs.Exchange.Request
import ProxySelection.Proofs.Service.Usable

/-!
What checking a URL says of its requests.

Checking a URL and routing a request for it select the same route. What follows is decided twice:
the check reports that there is no proxy if no route is selected, and a request goes directly if
none is selected or the selected one has no server. So the two agree on the proxy of a route that
has one, and part on a route without a server: its requests go directly, and the check shows it as
a proxy without a text. `check_agrees_iff` says that they part nowhere else. The check makes no
report if what it would show cannot be encoded, and the request is not recorded if the credentials
for the server cannot.
-/

namespace ProxySelection

namespace Router

variable {s : Session} (reached : s.cache.Reachable) {t : RouteTable} {x : Exchange}
include reached

/-- A request whose search ends goes directly exactly if it finds no route with a server. -/
theorem request_via_eq_none_iff {e : Option Route} (chosen : t.search x = .ok e) :
    ((request t x).result s).2.connection.via = none ↔
      ∀ r, e = some r → r.server.isEmpty = true := by
  have direct : e.bind Route.nextHop = none ↔ ∀ r, e = some r → r.server.isEmpty = true := by
    rw [Option.bind_eq_none_iff]
    simp only [Route.nextHop_eq_none_iff]
  rw [← direct]
  cases way : e.bind Route.nextHop with
  | none => simp [request_direct reached chosen way]
  | some hop =>
    obtain ⟨r, rfl, sends⟩ := Option.bind_eq_some_iff.mp way
    obtain ⟨address, located, _⟩ := Option.map_eq_some_iff.mp sends
    have via := request_address reached chosen located
    refine iff_of_false (fun none => ?_) nofun
    rw [none] at via
    cases via

/-- The record stays if the route has no server, or its credentials cannot be encoded. -/
theorem request_record_kept {r : Route} (chosen : t.search x = .ok (some r))
    (unfit : r.server.isEmpty = true ∨ ¬ r.server.HasEncodableUser) :
    ((request t x).result s).2.record = x.record := by
  cases located : r.server.endpoint with
  | none =>
    have direct : (some r).bind Route.nextHop = none :=
      Route.nextHop_eq_none_iff.mpr (Url.endpoint_eq_none_iff.mp located)
    rw [request_direct reached chosen direct, Exchange.reroute_record]
  | some address =>
    have nonempty := Url.isEmpty_eq_false_iff.mpr ⟨address, located⟩
    obtain ⟨fault, failed⟩ := Url.authorization_isError_iff.mpr
      (unfit.resolve_left (by simp [nonempty]))
    have stuck : r.sending = .error (.credentials fault) :=
      Route.sending_eq_error_iff.mpr (.inl ⟨fault, failed, rfl⟩)
    rw [(request_gives_failed chosen located stuck).result_eq reached]
    exact Stage.sendBy_record r address x

/-- A request by way of a server that was given as a text is recorded with it if the credentials
can be encoded. -/
theorem request_record_of_encodable {r : Route} {server : Text} (chosen : t.search x = .ok (some r))
    (nonempty : r.server.isEmpty = false) (encodable : r.server.HasEncodableUser)
    (shown : r.server.redacted = .ok server) :
    ((request t x).result s).2.record = some ⟨r.pattern, server, r.tunnel⟩ := by
  obtain ⟨address, located⟩ := Url.isEmpty_eq_false_iff.mp nonempty
  have sent : r.sending = .ok server :=
    Route.sending_eq_ok_iff.mpr ⟨Url.authorization_isOk_iff.mpr encodable, shown⟩
  rw [(request_gives_sent chosen located sent).result_eq reached]

end Router

namespace CommandLine

variable {s s' : Session} {t : RouteTable} {x : Exchange} {url : Text}

/-- The report that there is no proxy. -/
def directReport (url : Text) : Report := ⟨1, directLine url, []⟩

/-- The report that a route is selected, with its server as `server`. -/
def proxyReport (url server : Text) (r : Route) : Report := ⟨0, routeLine url server r, []⟩

theorem proxyReport_ne_directReport (url server : Text) (r : Route) :
    proxyReport url server r ≠ directReport url := nofun

theorem report_of_checkReport_none {report : Report} (checked : checkReport url none = .ok report) :
    report = directReport url :=
  report_of_printed checked

theorem report_of_checkReport_some {r : Route} {server : Text} {report : Report}
    (shown : r.server.redacted = .ok server) (checked : checkReport url (some r) = .ok report) :
    report = proxyReport url server r := by
  rw [checkReport, shown] at checked
  exact report_of_printed checked

/-- What is said if there is no route agrees with what is said if there is no route with a server,
unless there is a route without one. -/
theorem agree_iff {p q : Prop} {e : Option Route} (none : p ↔ e = none)
    (direct : q ↔ ∀ r, e = some r → r.server.isEmpty = true) :
    (p ↔ q) ↔ ∀ r, e = some r → r.server.isEmpty = false := by
  rw [none, direct]
  cases e <;> simp

/-- **A check predicts the way of requests, unless the route has no server.** Over a table whose
servers were given as texts, let `e` be the route that is selected for a URL. A request for the URL
goes directly exactly if `e` is none or has no server. The check makes a report exactly if the URL
and what is shown of `e` can be encoded. The report says that there is no proxy exactly if `e` is
none; so it agrees with the request exactly if `e` has a server or is none, and otherwise shows an
empty server. The server that is shown is that of `e`, and a request that goes by way of it records
the same one from `e`, unless the credentials for it cannot be encoded, when it records nothing. -/
theorem check_agrees_iff (reached : s.cache.Reachable) (reached' : s'.cache.Reachable)
    (texts : ∀ r ∈ t.routes, r.ServerIsText) (asked : x.url = .str url)
    (web : x.scheme = .str "http".toText ∨ x.scheme = .str "https".toText) :
    ∃ e, (t.select (.str url)).outcome.result s = .ok e ∧
      let x' := ((Router.request t x).result s).2
      (x'.connection.via = none ↔ ∀ r, e = some r → r.server.isEmpty = true) ∧
      ((∃ report, (checkUrl t url).outcome.result s' = .ok report) ↔
        Utf8.isEncodable url = true ∧ ∀ r, e = some r → r.IsEncodable) ∧
      (∀ report, (checkUrl t url).outcome.result s' = .ok report →
        (report = directReport url ↔ e = none) ∧
        (report.code = 1 ↔ report = directReport url) ∧
        ((report = directReport url ↔ x'.connection.via = none) ↔
          ∀ r, e = some r → r.server.isEmpty = false)) ∧
      ∀ r, e = some r → ∃ server, r.server.redacted = .ok server ∧
        (r.server.isEmpty = true → server = []) ∧
        (∀ report, (checkUrl t url).outcome.result s' = .ok report →
          report = proxyReport url server r) ∧
        (r.server.isEmpty = false → r.server.HasEncodableUser →
          x'.record = some ⟨r.pattern, server, r.tunnel⟩) ∧
        (r.server.isEmpty = true ∨ ¬ r.server.HasEncodableUser → x'.record = x.record) := by
  have check := (checkUrl_gives t url).result_eq reached'
  have reports : (∃ report, checked t url = .ok report) ↔ _ := checked_isOk_iff
  have chosen : t.search x = .ok (RouteTable.firstServing (.str url) t.routes) := by
    rw [RouteTable.search, if_pos (Stage.isWeb_iff.mpr web), asked,
      RouteTable.selection_of_showable rfl]
  have mem : ∀ r, RouteTable.firstServing (.str url) t.routes = some r → r ∈ t.routes :=
    fun r => List.mem_of_find?_eq_some
  have direct := Router.request_via_eq_none_iff reached chosen
  refine ⟨_, (t.select_gives_text url).result_eq reached, direct, ?_, ?_, ?_⟩
  · rw [check, reports]
    refine and_congr_right fun _ => forall₂_congr fun r found => ?_
    exact and_iff_right (texts r (mem r found)).redacted
  · intro report made
    rw [check, checked] at made
    generalize RouteTable.firstServing (.str url) t.routes = e at *
    have same : (report = directReport url ↔ e = none) ∧
        (report.code = 1 ↔ report = directReport url) := by
      cases e with
      | none => simp [report_of_checkReport_none made, directReport]
      | some r =>
        obtain ⟨server, shown⟩ := (texts r (mem r rfl)).redacted
        rw [report_of_checkReport_some shown made]
        have other := proxyReport_ne_directReport url server r
        exact ⟨iff_of_false other (Option.some_ne_none r), iff_of_false Nat.zero_ne_one other⟩
    exact ⟨same.1, same.2, agree_iff same.1 direct⟩
  · intro r found
    obtain ⟨server, shown⟩ := (texts r (mem r found)).redacted
    rw [found] at chosen
    refine ⟨server, shown, fun empty => ?_, fun report made => ?_, fun nonempty encodable => ?_,
      fun unfit => ?_⟩
    · exact Except.ok.inj (shown.symm.trans (Url.redacted_of_isEmpty empty))
    · rw [check, checked, found] at made
      exact report_of_checkReport_some shown made
    · exact Router.request_record_of_encodable reached chosen nonempty encodable shown
    · exact Router.request_record_kept reached chosen unfit

/-- A route without a server stands in front of one with a server. The check shows an empty server
for a URL of both, and a request for it goes directly and is not recorded. -/
theorem check_agrees_iff_serverless :
    let server : Url := { protocol := some "http".toText, host := some "px".toText }
    let t : RouteTable := ⟨[{}, { server }]⟩
    let url := "http://a.b/".toText
    let x : Exchange := { Exchange.fresh none with url := .str url, scheme := .str "http".toText }
    (∀ r ∈ t.routes, r.ServerIsText) ∧ (proxyReport url [] {}).code = 0 ∧
      (proxyReport url [] {}).output = "http://a.b/ ->  (forward, match=<all_urls>)\n".toText ∧
      (checkUrl t url).outcome.result Session.start = .ok (proxyReport url [] {}) ∧
      ((Router.request t x).result Session.start).2.connection.via = none ∧
      ((Router.request t x).result Session.start).2.record = x.record := by
  intro server t url x
  have reached : Session.start.cache.Reachable := .ofCapacity _
  have texts : ∀ r ∈ t.routes, r.ServerIsText := by
    intro r mem
    rcases List.mem_pair.mp mem with rfl | rfl
    · exact Route.serverIsText_empty rfl
    · exact ⟨.str "http://px".toText, .inr ⟨_, rfl⟩, rfl⟩
  have asked : x.url = .str url := rfl
  obtain ⟨e, selected, direct, reports, _, parts⟩ :=
    check_agrees_iff reached reached texts asked (.inl rfl)
  have first : RouteTable.firstServing (.str url) t.routes = some {} := by decide +kernel
  rw [(t.select_gives_text url).result_eq reached, first] at selected
  cases selected
  have encodable : ({} : Route).IsEncodable := ⟨rfl, nofun⟩
  obtain ⟨report, checked⟩ := reports.mpr ⟨rfl, by rintro _ ⟨⟩; exact encodable⟩
  obtain ⟨server', _, blank, shown, _, kept⟩ := parts {} rfl
  obtain rfl := shown report checked
  obtain rfl := blank rfl
  refine ⟨texts, rfl, by decide, checked, direct.mpr ?_, kept (.inl rfl)⟩
  rintro _ ⟨⟩
  rfl

end CommandLine

end ProxySelection
