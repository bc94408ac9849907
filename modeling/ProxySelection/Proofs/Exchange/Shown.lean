import ProxySelection.Proofs.Exchange.Credentials
import ProxySelection.Proofs.Table.Twins

/-!
What exchanges show of passwords.

`Exchange.shown` is an exchange without the values of the credentials on its request. Over
tables that are peers, every stage turns passages that look the same into passages that look the
same, and decides alike (`Stage.apply_lockstep`). By induction so do stages in a row
(`Stage.runAll_lockstep`), and with them the router, which reports the same as well:
`Router.request_lockstep`, `Router.requestTunnel_lockstep`.

Over tables that differ in passwords only, but are no peers, a request takes the same way
(`Router.request_connection_eq`). It is recorded and reported in the same way exactly if the reports
of what keeps the credentials from being encoded have the same wording:
`Router.request_reported_alike_iff`.
-/

namespace ProxySelection

/-! ### Credentials blanked -/

/-- The fields with an empty value for each of a name. -/
def Headers.blank (name : Text) (hs : Headers) : Headers :=
  hs.map fun h => if sameName h.1 name then (h.1, []) else h

theorem Headers.without_blank (name : Text) (hs : Headers) :
    without name (blank name hs) = blank name (without name hs) := by
  induction hs with
  | nil => rfl
  | cons h hs ih =>
    by_cases same : sameName h.1 name = true
    · simpa [without, blank, same] using ih
    · simpa [without, blank, same] using ih

/-- Which value a header is set to does not matter once it is blanked. -/
theorem Headers.blank_set (name value : Text) (hs : Headers) :
    blank name (set name value hs) = set name [] (blank name hs) := by
  induction hs with
  | nil => simp [blank, set, sameName]
  | cons h hs ih =>
    by_cases same : sameName h.1 name = true
    · simpa [blank, set, same] using (without_blank name hs).symm
    · simpa [blank, set, same] using ih

/-- The exchange without the values of the credentials on its request. -/
def Exchange.shown (x : Exchange) : Exchange :=
  { x with headers := Headers.blank Stage.authorizationHeader x.headers }

/-- Exchanges that look the same differ in those values at most. -/
theorem Exchange.eq_of_shown {x x' : Exchange} (same : x'.shown = x.shown) :
    x'.url = x.url ∧ x'.scheme = x.scheme ∧ x'.connection = x.connection ∧
      x'.record = x.record := by
  have url : x'.shown.url = x.shown.url := by rw [same]
  have scheme : x'.shown.scheme = x.shown.scheme := by rw [same]
  have connection : x'.shown.connection = x.shown.connection := by rw [same]
  have record : x'.shown.record = x.shown.record := by rw [same]
  exact ⟨url, scheme, connection, record⟩

namespace Stage

variable {x x' : Exchange} {r r' : Route}

theorem shown_reroute (x : Exchange) (via : Option NextHop) :
    (x.reroute via).2.shown = (x.shown.reroute via).2 := by
  have must : x.shown.mustReconnect via = x.mustReconnect via := rfl
  unfold Exchange.reroute
  rw [must]
  split <;> rfl

theorem shown_withAuthorization (x : Exchange) (value : Text) :
    (withAuthorization x value).shown = withAuthorization x.shown [] := by
  simp [withAuthorization, Exchange.shown, Headers.blank_set]

theorem shown_give (same : x'.shown = x.shown) {given given' : Option Text}
    (alike : Option.Rel (fun _ _ => True) given given') :
    (give given' x').shown = (give given x).shown := by
  obtain ⟨_, scheme, _⟩ := Exchange.eq_of_shown same
  cases alike with
  | none => exact same
  | some =>
    simp only [give, scheme]
    split
    · rw [shown_withAuthorization, shown_withAuthorization, same]
    · exact same

theorem credentials?_peers (alike : r.Peers r') :
    Option.Rel (fun _ _ => True) r.server.credentials? r'.server.credentials? := by
  have given := alike.twins.server.authorization_agree alike.fail_alike
  unfold Url.credentials?
  generalize r.server.authorization = own at given ⊢
  generalize r'.server.authorization = other at given ⊢
  cases given with
  | ok related => exact related
  | error fault => exact .none

/-- What is sent looks the same if it did before and the routes are peers. -/
theorem shown_sendBy (same : x'.shown = x.shown) (alike : r.Peers r') (address : Endpoint) :
    (sendBy r' address x').shown = (sendBy r address x).shown := by
  have hop : hopOf r'.server address = hopOf r.server address := by
    rw [hopOf, hopOf, alike.twins.server.protocol_eq]
  have sent : (directTo r' address x').shown = (directTo r address x).shown := by
    rw [directTo, directTo, hop, shown_reroute, shown_reroute, same]
  exact shown_give sent (credentials?_peers alike)

/-- Peers are recorded alike, or fail to be for the same reason. -/
theorem sending_peers (alike : r.Peers r') : r'.sending = r.sending := by
  have given := alike.twins.server.authorization_agree alike.fail_alike
  unfold Route.sending
  rw [alike.twins.server.redacted_eq]
  generalize r.server.authorization = own at given ⊢
  generalize r'.server.authorization = other at given ⊢
  cases given <;> rfl

end Stage

/-! ### Stages -/

/-- The passages look the same, and the routes found are peers. -/
structure Passage.Peers (p p' : Passage) : Prop where
  shown : p'.exchange.shown = p.exchange.shown
  selected : Option.Rel (Option.Rel Route.Peers) p.findings.selected p'.findings.selected
  authorized : Option.Rel Route.Peers p.findings.authorized p'.findings.authorized
  routed : p'.findings.routed = p.findings.routed

/-- The same is decided, and the passages are peers. -/
def Passage.SameOutcome {α : Type} (o o' : α × Passage) : Prop := o'.1 = o.1 ∧ o.2.Peers o'.2

namespace Stage

variable {t t' : RouteTable} {p p' : Passage}

/-- The same comes of searches for credentials, and the routes that lend them are peers. -/
abbrev LoansAgree (lent lent' : Except Utf8.Fault (Option (Route × Text))) : Prop :=
  Attempt.Agree (Option.Rel fun found found' => Route.Peers found.1 found'.1) lent lent'

theorem loan_peers (address : Endpoint) {r r' : Route} (alike : r.Peers r') :
    LoansAgree (loan address r) (loan address r') := by
  have served : serves address r' = serves address r := by
    rw [serves, serves, alike.twins.disabled_eq, alike.twins.server.endpoint_eq]
  have given := alike.twins.server.authorization_agree alike.fail_alike
  unfold loan
  rw [served]
  split
  · generalize r.server.authorization = own at given ⊢
    generalize r'.server.authorization = other at given ⊢
    cases given with
    | error fault => exact .error fault
    | ok related =>
      cases related with
      | none => exact .ok .none
      | some => exact .ok (.some alike)
  · exact .ok .none

theorem findAuthorization_peers (address : Endpoint) {rs rs' : List Route}
    (h : List.Forall₂ Route.Peers rs rs') :
    LoansAgree (findAuthorization address rs) (findAuthorization address rs') := by
  induction h with
  | nil => exact .ok .none
  | @cons r r' rs rs' alike _ ih =>
    have loans := loan_peers address alike
    rw [findAuthorization_cons, findAuthorization_cons]
    generalize loan address r = lent at loans ⊢
    generalize loan address r' = lent' at loans ⊢
    cases loans with
    | error fault => exact .error fault
    | ok related =>
      cases related with
      | none => exact ih
      | some peers => exact .ok (.some peers)

theorem lender_peers {x x' : Exchange} (h : t.Peers t') (same : x'.shown = x.shown) :
    LoansAgree (lender t x) (lender t' x') := by
  obtain ⟨_, _, connection, _⟩ := Exchange.eq_of_shown same
  unfold lender
  rw [connection]
  cases x.connection.address with
  | none => exact .ok .none
  | some address => exact findAuthorization_peers address h

theorem forwardTo_peers (alike : p.Peers p') {r r' : Route} (peers : r.Peers r')
    (address : Endpoint) :
    Passage.SameOutcome (forwardTo r address p) (forwardTo r' address p') := by
  have sent := shown_sendBy alike.shown peers address
  rw [forwardTo_eq, forwardTo_eq, sending_peers peers]
  cases r.sending with
  | error fault => exact ⟨rfl, { alike with shown := sent }⟩
  | ok server =>
    have recorded : Exchange.shown { sendBy r' address p'.exchange with
        record := some ⟨r'.pattern, server, r'.tunnel⟩ } =
        Exchange.shown { sendBy r address p.exchange with
          record := some ⟨r.pattern, server, r.tunnel⟩ } := by
      rw [peers.twins.pattern_eq, peers.twins.tunnel_eq]
      exact congrArg (fun x => { x with record := some ⟨r.pattern, server, r.tunnel⟩ }) sent
    exact ⟨rfl, { alike with shown := recorded, routed := rfl }⟩

theorem forwardSelected_peers (alike : p.Peers p') :
    Passage.SameOutcome (forwardSelected p) (forwardSelected p') := by
  have passed : Passage.SameOutcome ((.ok false : Except Fault Bool), p) (.ok false, p') :=
    ⟨rfl, alike⟩
  have selected := alike.selected
  unfold forwardSelected
  generalize p.findings.selected = found, p'.findings.selected = found' at selected
  cases selected with
  | none => exact passed
  | some chosen =>
    cases chosen with
    | none => exact passed
    | @some r r' peers =>
      simp only [peers.twins.server.endpoint_eq]
      cases r.server.endpoint with
      | none => exact passed
      | some address => exact forwardTo_peers alike peers address

theorem authorizeFor_peers (h : t.Peers t') (alike : p.Peers p') :
    Passage.SameOutcome (authorizeFor t p) (authorizeFor t' p') := by
  have found := lender_peers h alike.shown
  unfold authorizeFor
  generalize lender t p.exchange = lent at found ⊢
  generalize lender t' p'.exchange = lent' at found ⊢
  cases found with
  | error fault => exact ⟨rfl, alike⟩
  | ok related =>
    cases related with
    | none => exact ⟨rfl, alike⟩
    | some peers =>
      have shown : ∀ value value', (withAuthorization p'.exchange value').shown =
          (withAuthorization p.exchange value).shown := by
        intro value value'
        rw [shown_withAuthorization, shown_withAuthorization, alike.shown]
      exact ⟨rfl, { alike with shown := shown _ _, authorized := .some peers }⟩

theorem apply_lockstep (h : t.Peers t') (s : Stage) (alike : p.Peers p') :
    Run.Lockstep Passage.SameOutcome (s.apply t p) (s.apply t' p') := by
  obtain ⟨url, scheme, _⟩ := Exchange.eq_of_shown alike.shown
  cases s with
  | pass => exact Run.lockstep_pure ⟨rfl, alike⟩
  | web => exact Run.lockstep_pure ⟨congrArg (Except.ok ∘ isWeb) scheme, alike⟩
  | select =>
    unfold apply
    rw [url]
    refine Run.Lockstep.bind (h.select_lockstep p.exchange.url) ?_
    rintro _ _ (found | fault)
    · cases found with
      | none => exact Run.lockstep_pure ⟨rfl, { alike with selected := .some .none }⟩
      | some peers =>
        exact Run.lockstep_pure ⟨rfl, { alike with selected := .some (.some peers) }⟩
    · exact Run.lockstep_pure ⟨rfl, alike⟩
  | forward => exact Run.lockstep_pure (forwardSelected_peers alike)
  | authorize => exact Run.lockstep_pure (authorizeFor_peers h alike)

theorem runAll_lockstep (h : t.Peers t') (ss : List Stage) :
    ∀ {p p' : Passage}, p.Peers p' →
      Run.Lockstep Passage.SameOutcome (runAll t ss p) (runAll t' ss p') := by
  induction ss with
  | nil =>
    intro p p' alike
    exact Run.lockstep_pure ⟨rfl, alike⟩
  | cons s ss ih =>
    intro p p' alike
    refine (apply_lockstep h s alike).bind ?_
    rintro ⟨decision, q⟩ ⟨decision', q'⟩ ⟨same, alike'⟩
    obtain rfl : decision' = decision := same
    cases decision' with
    | error fault => exact Run.lockstep_pure ⟨rfl, alike'⟩
    | ok next =>
      cases next with
      | true => exact ih alike'
      | false => exact Run.lockstep_pure ⟨rfl, alike'⟩

end Stage

/-! ### The router -/

/-- Passages that are peers have been routed by peers, or not. -/
theorem Passage.Peers.route {p p' : Passage} (alike : p.Peers p') :
    Option.Rel Route.Peers p.findings.route? p'.findings.route? := by
  have selected := alike.selected
  unfold Findings.route?
  rw [alike.routed]
  generalize p.findings.selected = found, p'.findings.selected = found' at selected
  split
  · cases selected with
    | none => exact .none
    | some chosen => exact chosen
  · exact .none

namespace Router

variable {t t' : RouteTable}

/-- The same comes of the work, and what becomes of the exchanges looks the same. -/
def SameShown {α : Type} (o o' : α × Exchange) : Prop := o'.1 = o.1 ∧ o'.2.shown = o.2.shown

theorem success_eq_of_twins {r r' : Route} (twins : r.Twins r') (x : Exchange) :
    success r' x = success r x := by
  rw [success, success, shown, shown, twins.server.redacted_eq, twins.tunnel_eq]

theorem tunnelSuccess_eq_of_twins {r r' : Route} (twins : r.Twins r') (x : Exchange) :
    tunnelSuccess r' x = tunnelSuccess r x := by
  rw [tunnelSuccess, tunnelSuccess, shown, shown, twins.server.redacted_eq]

theorem request_lockstep (h : t.Peers t') (x : Exchange) :
    Run.Lockstep SameShown (request t x) (request t' x) := by
  have start : Passage.Peers ⟨x, {}⟩ ⟨x, {}⟩ := ⟨rfl, .none, .none, rfl⟩
  refine (Stage.runAll_lockstep h Stage.routing start).bind ?_
  rintro ⟨decision, p⟩ ⟨decision', p'⟩ ⟨same, alike⟩
  obtain rfl : decision' = decision := same
  cases decision' with
  | error fault =>
    exact Run.lockstep_bind_same _ fun _ => Run.lockstep_pure ⟨rfl, alike.shown⟩
  | ok =>
    have route := alike.route
    simp only
    generalize p.findings.route? = chosen, p'.findings.route? = chosen' at route
    cases route with
    | none =>
      refine Run.lockstep_pure ⟨rfl, ?_⟩
      rw [Stage.shown_reroute, Stage.shown_reroute, alike.shown]
    | some peers =>
      simp only [success_eq_of_twins peers.twins]
      exact Run.lockstep_bind_same _ fun _ => Run.lockstep_pure ⟨rfl, alike.shown⟩

theorem requestTunnel_lockstep (h : t.Peers t') (x : Exchange) :
    Run.Lockstep SameShown (requestTunnel t x) (requestTunnel t' x) := by
  have start : Passage.Peers ⟨x, {}⟩ ⟨x, {}⟩ := ⟨rfl, .none, .none, rfl⟩
  refine (Stage.runAll_lockstep h Stage.tunnelling start).bind ?_
  rintro ⟨decision, p⟩ ⟨decision', p'⟩ ⟨same, alike⟩
  obtain rfl : decision' = decision := same
  cases decision' with
  | error fault =>
    exact Run.lockstep_bind_same _ fun _ => Run.lockstep_pure ⟨rfl, alike.shown⟩
  | ok =>
    have authorized := alike.authorized
    simp only
    generalize p.findings.authorized = given, p'.findings.authorized = given' at authorized
    cases authorized with
    | none => exact Run.lockstep_pure ⟨rfl, alike.shown⟩
    | some peers =>
      simp only [tunnelSuccess_eq_of_twins peers.twins]
      exact Run.lockstep_bind_same _ fun _ => Run.lockstep_pure ⟨rfl, alike.shown⟩

end Router

/-! ### Tables that differ in passwords -/

/-- Searches of both break off, or leave a request without a next hop, or give routes that
correspond and whose servers have the same address. -/
theorem RouteTable.Twins.search_cases {t t' : RouteTable} (h : t.Twins t') (x : Exchange) :
    t.search x = .error .tooLongToWrite ∧ t'.search x = .error .tooLongToWrite ∨
      (∃ e e', t.search x = .ok e ∧ t'.search x = .ok e' ∧
        e.bind Route.nextHop = none ∧ e'.bind Route.nextHop = none) ∨
      ∃ r r' address, t.search x = .ok (some r) ∧ t'.search x = .ok (some r') ∧ r.Twins r' ∧
        r.server.endpoint = some address ∧ r'.server.endpoint = some address := by
  have agree : Attempt.Agree (Option.Rel Route.Twins) (t.search x) (t'.search x) := by
    unfold search
    split
    · exact selection_agree (fun _ _ twins => twins.serves_iff x.url)
        (fun _ _ twins => twins.breaks_iff x.url) h
    · exact .ok .none
  rcases t.search_cases x with broken | ⟨e, chosen, direct⟩ | ⟨r, address, chosen, located⟩
  · rw [broken] at agree
    generalize other : t'.search x = found at agree
    cases agree
    exact .inl ⟨broken, rfl⟩
  · rw [chosen] at agree
    generalize other : t'.search x = found at agree
    obtain ⟨related⟩ := agree
    refine .inr (.inl ⟨e, _, chosen, rfl, direct, ?_⟩)
    cases related with
    | none => rfl
    | some twins =>
      rw [Option.bind_some, Route.nextHop_eq_none_iff] at direct ⊢
      rw [twins.server.isEmpty_eq, direct]
  · rw [chosen] at agree
    generalize other : t'.search x = found at agree
    obtain ⟨related⟩ := agree
    cases related with
    | some twins =>
      exact .inr (.inr ⟨r, _, address, chosen, rfl, twins, located,
        twins.server.endpoint_eq.trans located⟩)

/-- No number fails to be read or written in the words in which a text fails to be encoded. -/
theorem Utf8.Fault.message_ne (fault : Utf8.Fault) (other : Decimal.Fault) :
    fault.message ≠ other.message := by
  have first : fault.message.head? = some (char '\'') := rfl
  have first' : other.message.head? ≠ some (char '\'') := by
    cases other <;> simp [Decimal.Fault.message, String.toText]
  intro same
  exact first' (same ▸ first)

/-- Routes that differ in passwords are recorded alike, or fail to be in the same words, exactly if
this is so of encoding their credentials. -/
theorem Route.Twins.sending_alike_iff {r r' : Route} (twins : r.Twins r') :
    r'.sending.mapError Stage.Fault.message = r.sending.mapError Stage.Fault.message ↔
      r'.server.encodingFault?.map Utf8.Fault.message =
        r.server.encodingFault?.map Utf8.Fault.message := by
  unfold sending Url.encodingFault?
  rw [twins.server.redacted_eq]
  cases r.server.authorization with
  | error fault =>
    cases r'.server.authorization with
    | error fault' => simp [Except.mapError, Stage.Fault.message]
    | ok given' =>
      cases r.server.redacted with
      | error other =>
        simpa [Except.mapError, Stage.Fault.message] using (fault.message_ne other).symm
      | ok server => simp [Except.mapError]
  | ok given =>
    cases r'.server.authorization with
    | error fault' =>
      cases r.server.redacted with
      | error other =>
        simpa [Except.mapError, Stage.Fault.message] using fault'.message_ne other
      | ok server => simp [Except.mapError]
    | ok given' => simp

namespace Router

variable {t t' : RouteTable} {x : Exchange} {r : Route} {address : Endpoint}

/-- A request with a text for its URL that is sent is recorded, or the fault that prevents this is
reported in place of the server. -/
theorem request_gives_of_text {url : Text} (text : x.url = .str url)
    (chosen : t.search x = .ok (some r)) (located : r.server.endpoint = some address) :
    (request t x).Gives
      (.ok (), { Stage.sendBy r address x with
        record := match r.sending with
          | .ok server => some ⟨r.pattern, server, r.tunnel⟩
          | .error _ => (Stage.sendBy r address x).record })
      [match r.sending with
        | .ok server => .routed r.tunnel (url.take excerptLength) server
        | .error fault => .routingFailed url fault.message] := by
  have shown : told x.url = .ok url := by
    rw [text]
    rfl
  cases sent : r.sending with
  | error fault =>
    have gives := request_gives_failed chosen located sent
    rw [shown] at gives
    exact gives
  | ok server =>
    have gives := request_gives_sent chosen located sent
    rw [text] at gives
    exact gives

section
variable {s : Session} (reached : s.cache.Reachable) (h : t.Twins t')
include reached h

/-- Whatever the passwords are, a request takes the same way. -/
theorem request_connection_eq (x : Exchange) :
    ((request t' x).result s).2.connection = ((request t x).result s).2.connection := by
  rcases h.search_cases x with ⟨broken, broken'⟩ | ⟨e, e', chosen, chosen', direct, direct'⟩ |
    ⟨r, r', address, chosen, chosen', twins, located, located'⟩
  · rw [request_broken reached broken, request_broken reached broken']
  · rw [request_direct reached chosen direct, request_direct reached chosen' direct']
  · obtain ⟨_, become⟩ := request_sent reached chosen located
    obtain ⟨_, become'⟩ := request_sent reached chosen' located'
    have hop : Stage.hopOf r'.server address = Stage.hopOf r.server address := by
      rw [Stage.hopOf, Stage.hopOf, twins.server.protocol_eq]
    rw [become, become']
    change (Stage.sendBy r' address x).connection = (Stage.sendBy r address x).connection
    rw [Stage.sendBy_connection, Stage.sendBy_connection, hop]

/-- It is recorded and reported in the same way exactly if what keeps the credentials for the
server of its route from being encoded is worded in the same way, if there is something. -/
theorem request_reported_alike_iff {url : Text} (text : x.url = .str url) :
    ((request t' x).result s).1 = ((request t x).result s).1 ∧
      (((request t' x).result s).2.record = ((request t x).result s).2.record ∧
          ((request t' x).after s).reports = ((request t x).after s).reports ↔
        ∀ r r', t.routeFor x = some r → t'.routeFor x = some r' → r.server.isEmpty = false →
          r'.server.encodingFault?.map Utf8.Fault.message =
            r.server.encodingFault?.map Utf8.Fault.message) := by
  rcases h.search_cases x with ⟨broken, _⟩ | ⟨e, e', chosen, chosen', direct, direct'⟩ |
    ⟨r, r', address, chosen, chosen', twins, located, located'⟩
  · have unshown := (RouteTable.unshown_of_search broken).2
    rw [text] at unshown
    cases unshown
  · obtain ⟨same, reports, _⟩ := request_gives_direct chosen direct s reached
    obtain ⟨same', reports', _⟩ := request_gives_direct chosen' direct' s reached
    rw [same, same', reports, reports']
    refine ⟨rfl, iff_of_true ⟨rfl, rfl⟩ fun r r' selected _ nonempty => ?_⟩
    rw [RouteTable.routeFor_eq_some_iff, chosen] at selected
    cases selected
    have empty := Route.nextHop_eq_none_iff.mp direct
    rw [nonempty] at empty
    cases empty
  · obtain ⟨same, reports, _⟩ := request_gives_of_text text chosen located s reached
    obtain ⟨same', reports', _⟩ := request_gives_of_text text chosen' located' s reached
    have nonempty := Url.isEmpty_eq_false_iff.mpr ⟨address, located⟩
    have pair : (∀ q q', t.routeFor x = some q → t'.routeFor x = some q' →
        q.server.isEmpty = false → q'.server.encodingFault?.map Utf8.Fault.message =
          q.server.encodingFault?.map Utf8.Fault.message) ↔
        r'.server.encodingFault?.map Utf8.Fault.message =
          r.server.encodingFault?.map Utf8.Fault.message := by
      simp [RouteTable.routeFor_eq_some_iff, chosen, chosen', nonempty]
    rw [pair, ← twins.sending_alike_iff, same, same', reports, reports', twins.pattern_eq,
      twins.tunnel_eq]
    refine ⟨rfl, ?_⟩
    cases r.sending <;> cases r'.sending <;>
      simp [Except.mapError, Stage.sendBy_record]

end

end Router

end ProxySelection
