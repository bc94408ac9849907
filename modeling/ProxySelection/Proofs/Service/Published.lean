import ProxySelection.Proofs.Service.Usable
import ProxySelection.Proofs.Session.Inversion
import ProxySelection.Proofs.Table.Keys

/-!
The table of the service while the one of routing changes.

The service is started with a table of its own, which has the routes of the table that routing
uses (`Service.publish`). Operations on the latter do not come to the former
(`Service.startThen_gives`), so the service goes on answering for the routes of its start. What it
answers is right for the present routes if these are listed like those of the start with their
passwords masked: a listing shows what is selected for every URL
(`RouteTable.selection_of_describe`). It is not right otherwise, as the listing is itself an answer,
if it can be encoded. `answersFor_iff` states this, and that for every URL there is one operation
after which the answer for it is wrong.
-/

namespace ProxySelection

variable {t t' : RouteTable} {r r' : Route}

/-! ### What a listing shows -/

/-- Two routes that are listed as one value, with their passwords masked. -/
def Route.ListedAlike (r r' : Route) : Prop :=
  ∃ v, r.describe true = .ok v ∧ r'.describe true = .ok v

theorem Route.ListedAlike.parts (alike : r.ListedAlike r') :
    r'.pattern = r.pattern ∧ r'.tunnel = r.tunnel ∧ r'.disabled = r.disabled ∧
      r'.server.redacted = r.server.redacted := by
  obtain ⟨v, described, described'⟩ := alike
  obtain ⟨text, shown, rfl⟩ := describe_eq_ok_iff.mp described
  obtain ⟨text', shown', same⟩ := describe_eq_ok_iff.mp described'
  simp only [membersWith, Json.obj.injEq, List.cons.injEq, Prod.mk.injEq, Json.str.injEq,
    Json.bool.injEq, and_true, true_and] at same
  obtain ⟨pattern, rfl, tunnel, disabled⟩ := same
  exact ⟨pattern.symm, tunnel.symm, disabled.symm, shown'.trans shown.symm⟩

theorem Route.ListedAlike.serves_iff (alike : r.ListedAlike r') (url : Json) :
    r'.Serves url ↔ r.Serves url := by
  obtain ⟨pattern, _, disabled, _⟩ := alike.parts
  rw [Serves, Serves, pattern, disabled]

namespace RouteTable

theorem forall₂_listedAlike {items : List Json} (listed : t.describe true = .ok items)
    (same : t'.describe true = t.describe true) :
    List.Forall₂ Route.ListedAlike t.routes t'.routes := by
  have listed' := same.trans listed
  rw [describe, mapM_eq_ok_iff] at listed listed'
  generalize t.routes = rs, t'.routes = rs' at listed listed'
  induction listed generalizing rs' with
  | nil =>
    cases listed'
    exact .nil
  | @cons r v rs items described _ ih =>
    rcases List.forall₂_cons_right_iff.mp listed' with ⟨r', rest, described', more, rfl⟩
    exact .cons ⟨v, described, described'⟩ (ih rest more)

/-- From tables with one listing, routes that are listed alike are selected for every URL. -/
theorem selection_of_describe {items : List Json} (listed : t.describe true = .ok items)
    (same : t'.describe true = t.describe true) (url : Json) :
    Option.Rel Route.ListedAlike (firstServing url t.routes) (firstServing url t'.routes) := by
  refine find?_rel (fun r r' alike => ?_) (forall₂_listedAlike listed same)
  exact decide_eq_decide.mpr (alike.serves_iff url)

end RouteTable

namespace Service

/-! ### Right answers -/

/-- The answer that says which route is selected, if it can be encoded. -/
def selectionReply : Option Route → Except Fault Reply
  | none => encodable noRoute
  | some r => (routeReply r).mapError .server >>= encodable

/-- The answer that lists the routes, if it can be encoded. -/
def listReply (t : RouteTable) : Except Fault Reply := list t >>= encodable

theorem resolution_eq (t : RouteTable) (url : Text) :
    resolution t url >>= encodable =
      selectionReply (RouteTable.firstServing (.str url) t.routes) := by
  unfold resolution
  cases RouteTable.firstServing (.str url) t.routes <;> rfl

/-- An answer that can be encoded is left as it is. -/
theorem encodable_eq_ok_iff {reply same : Reply} :
    encodable reply = .ok same ↔ reply.body.all Json.isEncodable = true ∧ reply = same := by
  unfold encodable
  split <;> simp [*]

theorem routeReply_of_listedAlike (alike : r.ListedAlike r') : routeReply r' = routeReply r := by
  obtain ⟨pattern, tunnel, _, server⟩ := alike.parts
  rw [routeReply, routeReply, pattern, tunnel, server]

/-- What is selected is answered the same from tables with one listing. -/
theorem selectionReply_of_describe {items : List Json} (listed : t.describe true = .ok items)
    (same : t'.describe true = t.describe true) (url : Json) :
    selectionReply (RouteTable.firstServing url t'.routes) =
      selectionReply (RouteTable.firstServing url t.routes) := by
  have related := RouteTable.selection_of_describe listed same url
  generalize RouteTable.firstServing url t.routes = e,
    RouteTable.firstServing url t'.routes = e' at related
  cases related with
  | none => rfl
  | some alike => rw [selectionReply, selectionReply, routeReply_of_listedAlike alike]

/-- No answer that a route is selected is the one that none is. -/
theorem selectionReply_some_ne (r : Route) : selectionReply (some r) ≠ selectionReply none := by
  intro same
  have none : selectionReply none = .ok noRoute := rfl
  rw [none, selectionReply, bind_eq_ok_iff] at same
  obtain ⟨reply, replied, encoded⟩ := same
  obtain ⟨_, rfl⟩ := encodable_eq_ok_iff.mp encoded
  obtain ⟨server, _, equal⟩ := bind_eq_ok_iff.mp (mapError_eq_ok_iff.mp replied)
  cases equal

theorem listReply_eq_ok_iff {reply : Reply} :
    listReply t = .ok reply ↔ ∃ items, t.describe true = .ok items ∧
      (success [("proxies", .arr items)]).body.all Json.isEncodable = true ∧
      success [("proxies", .arr items)] = reply := by
  unfold listReply list
  cases t.describe true with
  | error fault => simp [Except.mapError, bind, Except.bind]
  | ok items =>
    have only : ((Except.ok items : Except Decimal.Fault (List Json)).mapError Fault.listing >>=
        fun routes => pure (success [("proxies", .arr routes)])) >>= encodable =
          encodable (success [("proxies", .arr items)]) := rfl
    rw [only, encodable_eq_ok_iff]
    simp

/-- A listing that can be encoded is told from all others by the answer. -/
theorem describe_eq_of_listReply {items : List Json} (listed : t.describe true = .ok items)
    (encoded : (Json.arr items).isEncodable = true) (same : listReply t' = listReply t) :
    t'.describe true = t.describe true := by
  have whole : (success [("proxies", .arr items)]).body.all Json.isEncodable = true := by
    simpa [success, object, Json.isEncodable, Json.texts, Json.memberTexts] using encoded
  rw [listReply_eq_ok_iff.mpr ⟨items, listed, whole, rfl⟩] at same
  obtain ⟨items', listed', _, equal⟩ := listReply_eq_ok_iff.mp same
  cases equal
  exact listed'.trans listed.symm

/-! ### Requests -/

/-- The request asks for the listing. -/
structure Request.AsksForListing (q : Request) : Prop where
  method : q.method = "GET".toText
  endpoint : ∃ path, Target.path? q.target = .ok (some path) ∧ endpointAt path = some .list

theorem asksForListing_plain :
    Request.AsksForListing ⟨"GET".toText, "/v1/proxies".toText, []⟩ where
  method := rfl
  endpoint := ⟨"/v1/proxies".toText, by decide +kernel, by decide⟩

/-- A body that is JSON text of an object with the URL alone asks for it. -/
theorem asksFor_plain {depth : Nat} {body : List UInt8} {text url : Text} (given : body ≠ [])
    (decoded : Encoding.read body = some text)
    (read : Json.read depth text = .ok (.obj [("url".toText, .str url)])) :
    Request.AsksFor ⟨"POST".toText, "/v1/resolve".toText, body⟩ depth url where
  method := rfl
  endpoint := by
    have readable : Target.path? "/v1/resolve".toText = .ok (some "/v1/resolve".toText) := by
      decide +kernel
    exact ⟨_, readable, by decide⟩
  body := by
    have found : members depth body = .ok [("url".toText, .str url)] := by
      simp [members, given, decoded, read]
    rw [question, found]
    rfl

theorem answer_gives_list {q : Request} (asks : q.AsksForListing) (depth : Nat)
    (t : RouteTable) : (answer depth t q).outcome.Gives (listReply t) [] := by
  obtain ⟨path, readable, found⟩ := asks.endpoint
  have used : Endpoint.list.methods.contains q.method = true := by
    rw [asks.method]
    decide
  have other : q.method ≠ "HEAD".toText := by
    rw [asks.method]
    decide
  rw [answer_eq_answerAt readable found used other, answerAt, replyAt]
  exact Attempt.gives_bind_ofExcept (Attempt.gives_ofExcept (list t)) encodable

/-! ### The service and the table of routing -/

/-- The tables of a running program: the one that routing uses, and the one of the service. -/
structure Tables where
  routing : RouteTable
  service : RouteTable

/-- The service is started, and then operations change the table that routing uses. -/
def startThen (t : RouteTable) (port : Text) (ops : List RouteTable.Operation) : Run Tables := do
  let service ← publish t port
  let done ← (RouteTable.doingAll ops).run t
  return { routing := done.2, service }

/-- The service keeps the table of its start. -/
theorem startThen_gives {ops : List RouteTable.Operation}
    {answers : List (Σ op : RouteTable.Operation, op.Answer)} {reports : List Notice}
    (done : ((RouteTable.doingAll ops).run t).Gives (answers, t') reports) (port : Text) :
    ∃ reports', (startThen t port ops).Gives ⟨t', t⟩ reports' := by
  obtain ⟨first, published⟩ := publish_gives t port
  have rest := done.map fun out => ({ routing := out.2, service := t } : Tables)
  exact ⟨first ++ reports, published.bind rest⟩

/-- In a session the service answers for the routes that routing uses: which of them is selected
for a URL, and how they are listed. -/
structure AnswersFor (tables : Tables) (s : Session) : Prop where
  selection : ∀ depth q url e, q.AsksFor depth url →
    (tables.routing.select (.str url)).outcome.result s = .ok e →
      (answer depth tables.service q).outcome.result s = selectionReply e
  listing : ∀ depth q, q.AsksForListing →
    (answer depth tables.service q).outcome.result s = listReply tables.routing

theorem answersFor_of_describe {s : Session} (reached : s.cache.Reachable) {items : List Json}
    (listed : t.describe true = .ok items) (same : t'.describe true = t.describe true) :
    AnswersFor ⟨t', t⟩ s where
  selection := by
    intro depth q url e asks selected
    rw [(t'.select_gives_text url).result_eq reached] at selected
    obtain rfl := Except.ok.inj selected
    rw [(answer_gives asks t).result_eq reached, resolution_eq]
    exact (selectionReply_of_describe listed same (.str url)).symm
  listing := by
    intro depth q asks
    rw [(answer_gives_list asks depth t).result_eq reached, listReply, listReply, list, list, same]

/-- Right answers include the listing. -/
theorem AnswersFor.describe_eq {s : Session} (right : AnswersFor ⟨t', t⟩ s)
    (reached : s.cache.Reachable) {items : List Json} (listed : t.describe true = .ok items)
    (encoded : (Json.arr items).isEncodable = true) : t'.describe true = t.describe true := by
  have listing := right.listing 0 _ asksForListing_plain
  rw [(answer_gives_list asksForListing_plain 0 t).result_eq reached] at listing
  exact describe_eq_of_listReply listed encoded listing.symm

/-- For every URL there is an operation that changes the answer which route is selected: with no
route left in the place of one, or with one for every URL in the place of none. -/
theorem exists_operation (t : RouteTable) (url : Text) :
    ∃ op answer current reports, (t.perform op).Gives (answer, current) reports ∧
      selectionReply (RouteTable.firstServing (.str url) current.routes) ≠
        selectionReply (RouteTable.firstServing (.str url) t.routes) := by
  cases selected : RouteTable.firstServing (.str url) t.routes with
  | some r =>
    exact ⟨.fillWith [], (), .empty, [], Run.gives_pure _, (selectionReply_some_ne r).symm⟩
  | none =>
    obtain ⟨r, serves⟩ : ∃ r : Route, r.Serves (.str url) := ⟨{}, rfl, .everything _⟩
    have found : RouteTable.firstServing (.str url) (t.routes ++ [r]) = some r := by
      have last := RouteTable.firstServing_cons_of_serves serves []
      unfold RouteTable.firstServing at selected last ⊢
      rw [List.find?_append, selected, last, Option.none_or]
    refine ⟨.append r, (), ⟨t.routes ++ [r]⟩, _, (RouteTable.append_gives t r).map _, ?_⟩
    rw [found]
    exact selectionReply_some_ne r

/-- **The service answers for the routes of its start.** The service is started, and then operations
change the table that routing uses. The service still answers by what the table of its start
selects. If that table can be listed, its answers are right for the present one if this is listed as
that one was, with masked passwords, and they are not right otherwise if the listing can be encoded.
And for every request which route is selected there is one operation after which the answer is not
the one for the route that the present table selects. -/
theorem answersFor_iff {s : Session} (reached : s.cache.Reachable) (t : RouteTable)
    (port : Text) :
    (∀ ops, let run := startThen t port ops
      ∃ current, (((RouteTable.doingAll ops).run t).result s).2 = current ∧
        run.result s = ⟨current, t⟩ ∧
        (∀ url, (current.select (.str url)).outcome.result (run.after s) =
          .ok (RouteTable.firstServing (.str url) current.routes)) ∧
        (∀ depth q url, q.AsksFor depth url →
          (answer depth t q).outcome.result (run.after s) =
            selectionReply (RouteTable.firstServing (.str url) t.routes)) ∧
        ∀ items, t.describe true = .ok items →
          (current.describe true = t.describe true → AnswersFor ⟨current, t⟩ (run.after s)) ∧
          ((Json.arr items).isEncodable = true → AnswersFor ⟨current, t⟩ (run.after s) →
            current.describe true = t.describe true)) ∧
    ∀ depth q url, q.AsksFor depth url → ∃ op current e, let run := startThen t port [op]
      run.result s = ⟨current, t⟩ ∧
      (current.select (.str url)).outcome.result (run.after s) = .ok e ∧
      (answer depth t q).outcome.result (run.after s) ≠ selectionReply e := by
  refine ⟨fun ops => ?_, fun depth q url asks => ?_⟩
  · obtain ⟨⟨answers, current⟩, reports, done⟩ := RouteTable.doingAll_settled ops t
    obtain ⟨_, gives⟩ := startThen_gives done port
    obtain ⟨tables, _, next⟩ := gives s reached
    refine ⟨current, congrArg Prod.snd (done.result_eq reached), tables,
      fun url => (current.select_gives_text url).result_eq next, fun depth q url asks => ?_,
      fun items listed => ⟨answersFor_of_describe next listed,
        fun encoded right => right.describe_eq next listed encoded⟩⟩
    rw [(answer_gives asks t).result_eq next, resolution_eq]
  · obtain ⟨op, a, current, reports, done, other⟩ := exists_operation t url
    obtain ⟨_, gives⟩ := startThen_gives (RouteTable.doingAll_one done) port
    obtain ⟨tables, _, next⟩ := gives s reached
    refine ⟨op, current, _, tables, (current.select_gives_text url).result_eq next, ?_⟩
    rw [(answer_gives asks t).result_eq next, resolution_eq]
    exact other.symm

/-- The one route is disabled after the start. It is no longer selected, and the service still
answers that it is. -/
theorem answersFor_iff_disabled :
    let r : Route := { pattern := "http://a.b/*".toText, server := { host := some "px".toText } }
    let t : RouteTable := ⟨[r]⟩
    let ops : List RouteTable.Operation :=
      [.update r.pattern (.obj [(Route.disabledName, .bool true)])]
    let url := "http://a.b/".toText
    let q : Request := ⟨"POST".toText, "/v1/resolve".toText,
      "\x7b\x22url\x22: \x22http://a.b/\x22\x7d".toText.flatMap Utf8.octetsOf⟩
    let run := startThen t "9000".toText ops
    q.AsksFor 1 url ∧ t.describe true = .ok [.obj (r.membersWith (.str "px".toText))] ∧
      ∃ current, run.result Session.start = ⟨current, t⟩ ∧
        (current.select (.str url)).outcome.result (run.after Session.start) = .ok none ∧
        (answer 1 t q).outcome.result (run.after Session.start) = selectionReply (some r) ∧
        ¬ AnswersFor ⟨current, t⟩ (run.after Session.start) := by
  intro r t ops url q run
  have reached : Session.start.cache.Reachable := .ofCapacity _
  have asks : q.AsksFor 1 url := by
    have decoded : Encoding.read q.body =
        some "\x7b\x22url\x22: \x22http://a.b/\x22\x7d".toText := by
      decide +kernel
    exact asksFor_plain (by decide) decoded (by with_unfolding_all rfl)
  have listed : t.describe true = .ok [.obj (r.membersWith (.str "px".toText))] := rfl
  have first : RouteTable.firstServing (.str url) t.routes = some r := by decide +kernel
  obtain ⟨current, left, tables, selected, answered, right⟩ :=
    (answersFor_iff reached t "9000".toText).1 ops
  have disabled : current = ⟨[{ r with disabled := true }]⟩ := by
    rw [← left]
    decide +kernel
  have none : RouteTable.firstServing (.str url) current.routes = .none := by
    rw [disabled]
    decide +kernel
  refine ⟨asks, listed, current, tables, ?_, ?_, ?_⟩
  · rw [selected, none]
  · rw [answered 1 q url asks, first]
  · intro agrees
    have encoded : (Json.arr [.obj (r.membersWith (.str "px".toText))]).isEncodable = true := rfl
    have same := (right _ listed).2 encoded agrees
    rw [listed, disabled] at same
    cases same

end Service

end ProxySelection
