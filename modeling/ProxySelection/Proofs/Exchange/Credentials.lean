import ProxySelection.Proofs.Exchange.Routing

/-!
Where credentials come from.

A route that is enabled lends the credentials for its server to the address of that
(`Route.Lends`), unless they cannot be encoded (`Route.Withholds`). A plain request is given those
of the route by which it is sent, and a request for a tunnel those of the first route that lends
some to its address, if none in front of it withholds its own (`findAuthorization_eq_some_iff`). So
all that is ever added to the headers is credentials for the proxy server that the request goes to,
and those for other servers and those of disabled routes have no part in it: `credentials_borrowed`.
-/

namespace ProxySelection

/-- The route is enabled, its server is at the address and has a user name, and the value is the
credentials for it. -/
structure Route.Lends (r : Route) (address : Endpoint) (value : Text) : Prop where
  enabled : r.disabled = false
  nonempty : r.server.isEmpty = false
  located : r.server.endpoint = some address
  named : Url.isGiven r.server.username = true
  authorized : r.server.authorization = .ok (some value)

theorem Route.Lends.of {r : Route} {address : Endpoint} {value : Text}
    (enabled : r.disabled = false) (located : r.server.endpoint = some address)
    (authorized : r.server.authorization = .ok (some value)) : r.Lends address value :=
  ⟨enabled, Url.isEmpty_eq_false_iff.mpr ⟨address, located⟩, located,
    (Url.isSome_of_authorization authorized).symm, authorized⟩

/-- The route is enabled and its server is at the address, and the credentials for it cannot be
encoded. -/
structure Route.Withholds (r : Route) (address : Endpoint) (fault : Utf8.Fault) : Prop where
  enabled : r.disabled = false
  located : r.server.endpoint = some address
  failed : r.server.authorization = .error fault

/-- The route neither lends credentials to the address nor withholds any. -/
def Route.Passes (r : Route) (address : Endpoint) : Prop :=
  (∀ value, ¬ r.Lends address value) ∧ ∀ fault, ¬ r.Withholds address fault

/-- The route with another user name and another password for its server. -/
def Route.withCredentials (r : Route) (username password : Option Text) : Route :=
  { r with server := { r.server with username, password } }

/-- The routes are the same one, or differ in credentials that are not for the address. -/
def Route.SameFor (address : Option Endpoint) (r r' : Route) : Prop :=
  r' = r ∨ (r.disabled = true ∨ ∀ a, address = some a → r.server.endpoint ≠ some a) ∧
    ∃ username password, r' = r.withCredentials username password

/-- `f` is what becomes of `x` over each table. Over `t` only credentials change in its headers,
to some that a route lends to the address, and this is so whatever the other credentials are. -/
structure Exchange.Borrows (x : Exchange) (f : RouteTable → Exchange) (t : RouteTable)
    (address : Option Endpoint) : Prop where
  others_kept : Headers.without Stage.authorizationHeader (f t).headers =
    Headers.without Stage.authorizationHeader x.headers
  lent : (f t).headers ≠ x.headers → ∃ a r value, address = some a ∧ r ∈ t.routes ∧
    r.Lends a value ∧ Headers.values Stage.authorizationHeader (f t).headers = [value]
  unlent_irrelevant : ∀ t' : RouteTable, List.Forall₂ (Route.SameFor address) t.routes t'.routes →
    (f t').headers = (f t).headers

namespace Stage

variable {address : Endpoint} {r q : Route} {value : Text}

/-! ### The first route that lends -/

theorem serves_iff : serves address r = true ↔
    r.disabled = false ∧ r.server.endpoint = some address := by
  simp [serves]

/-- What a route lends to an address, along with the route. -/
def loan (address : Endpoint) (r : Route) : Except Utf8.Fault (Option (Route × Text)) :=
  if serves address r then r.server.authorization.map (Option.map fun value => (r, value))
  else .ok none

/-- A route that lends or withholds ends the search. -/
theorem findAuthorization_cons (address : Endpoint) (q : Route) (rs : List Route) :
    findAuthorization address (q :: rs) =
      if loan address q = .ok none then findAuthorization address rs else loan address q := by
  rw [findAuthorization, loan]
  split
  · cases q.server.authorization with
    | error fault => rfl
    | ok given => cases given <;> rfl
  · rfl

theorem loan_eq_some_iff :
    loan address q = .ok (some (r, value)) ↔ q = r ∧ r.Lends address value := by
  unfold loan
  constructor
  · intro lent
    split at lent
    · rename_i served
      obtain ⟨enabled, located⟩ := serves_iff.mp served
      cases authorized : q.server.authorization with
      | error fault => simp [authorized, Except.map] at lent
      | ok given =>
        obtain ⟨_, rfl, same⟩ : ∃ w, given = some w ∧ (q, w) = (r, value) := by
          simpa [authorized, Except.map] using lent
        cases same
        exact ⟨rfl, .of enabled located authorized⟩
    · cases lent
  · rintro ⟨rfl, lends⟩
    rw [if_pos (serves_iff.mpr ⟨lends.enabled, lends.located⟩), lends.authorized]
    rfl

theorem loan_eq_error_iff {fault : Utf8.Fault} :
    loan address q = .error fault ↔ q.Withholds address fault := by
  unfold loan
  constructor
  · intro withheld
    split at withheld
    · rename_i served
      obtain ⟨enabled, located⟩ := serves_iff.mp served
      cases authorized : q.server.authorization with
      | error f => exact ⟨enabled, located, by simpa [authorized, Except.map] using withheld⟩
      | ok given => simp [authorized, Except.map] at withheld
    · cases withheld
  · intro withholds
    rw [if_pos (serves_iff.mpr ⟨withholds.enabled, withholds.located⟩), withholds.failed]
    rfl

theorem loan_eq_none_iff : loan address q = .ok none ↔ q.Passes address := by
  constructor
  · intro nothing
    refine ⟨fun value lends => ?_, fun fault withholds => ?_⟩
    · rw [loan_eq_some_iff.mpr ⟨rfl, lends⟩] at nothing
      cases nothing
    · rw [loan_eq_error_iff.mpr withholds] at nothing
      cases nothing
  · rintro ⟨lendsNot, withholdsNot⟩
    cases found : loan address q with
    | error fault => exact absurd (loan_eq_error_iff.mp found) (withholdsNot fault)
    | ok lent =>
      cases lent with
      | none => rfl
      | some pair =>
        obtain ⟨rfl, lends⟩ := loan_eq_some_iff.mp found
        exact absurd lends (lendsNot pair.2)

/-- What is found in front ends the search. -/
theorem findAuthorization_append (address : Endpoint) (front rs : List Route) :
    findAuthorization address (front ++ rs) =
      if findAuthorization address front = .ok none then findAuthorization address rs
      else findAuthorization address front := by
  induction front with
  | nil => rfl
  | cons q front ih =>
    rw [List.cons_append, findAuthorization_cons, findAuthorization_cons, ih]
    by_cases here : loan address q = .ok none
    · simp only [if_pos here]
    · simp only [if_neg here]

theorem findAuthorization_eq_none_iff {rs : List Route} :
    findAuthorization address rs = .ok none ↔ ∀ q ∈ rs, q.Passes address := by
  induction rs with
  | nil => simp [findAuthorization]
  | cons q rs ih =>
    rw [findAuthorization_cons, List.forall_mem_cons, ← ih, ← loan_eq_none_iff]
    by_cases here : loan address q = .ok none
    · simp [here]
    · simp [here]

/-- The search ends at the first route that does not pass. -/
theorem findAuthorization_eq_iff {rs : List Route} {x : Except Utf8.Fault (Option (Route × Text))}
    (ended : x ≠ .ok none) :
    findAuthorization address rs = x ↔ ∃ front q back, rs = front ++ q :: back ∧
      loan address q = x ∧ ∀ p ∈ front, p.Passes address := by
  constructor
  · intro found
    induction rs with
    | nil => exact absurd found.symm ended
    | cons q rs ih =>
      rw [findAuthorization_cons] at found
      split at found
      · rename_i here
        obtain ⟨front, p, back, rfl, lent, passed⟩ := ih found
        have first := loan_eq_none_iff.mp here
        exact ⟨q :: front, p, back, rfl, lent, List.forall_mem_cons.mpr ⟨first, passed⟩⟩
      · exact ⟨[], q, rs, rfl, found, nofun⟩
  · rintro ⟨front, q, back, rfl, lent, passed⟩
    rw [findAuthorization_append, if_pos (findAuthorization_eq_none_iff.mpr passed),
      findAuthorization_cons, if_neg (lent ▸ ended), lent]

theorem findAuthorization_eq_some_iff {rs : List Route} :
    findAuthorization address rs = .ok (some (r, value)) ↔ ∃ front back, rs = front ++ r :: back ∧
      r.Lends address value ∧ ∀ q ∈ front, q.Passes address := by
  rw [findAuthorization_eq_iff (by simp)]
  simp only [loan_eq_some_iff]
  constructor
  · rintro ⟨front, _, back, split, ⟨rfl, lends⟩, before⟩
    exact ⟨front, back, split, lends, before⟩
  · rintro ⟨front, back, split, lends, before⟩
    exact ⟨front, r, back, split, ⟨rfl, lends⟩, before⟩

theorem findAuthorization_eq_error_iff {rs : List Route} {fault : Utf8.Fault} :
    findAuthorization address rs = .error fault ↔ ∃ front q back, rs = front ++ q :: back ∧
      q.Withholds address fault ∧ ∀ p ∈ front, p.Passes address := by
  rw [findAuthorization_eq_iff (by simp)]
  simp only [loan_eq_error_iff]

/-- The route by which a plain request is sent lends it the credentials. -/
theorem lends_of_sendBy {x : Exchange} (enabled : r.disabled = false)
    (located : r.server.endpoint = some address)
    (changed : (sendBy r address x).headers ≠ x.headers) :
    x.scheme = .str "http".toText ∧ ∃ value, r.Lends address value ∧
      (sendBy r address x).headers = x.headers.set authorizationHeader value := by
  rcases sendBy_cases r address x with ⟨value, plain, known, sent⟩ | ⟨_, sent⟩
  · have authorized := Url.credentials?_eq_some_iff.mp known
    exact ⟨plain, value, .of enabled located authorized, by simp [sent, withAuthorization]⟩
  · exact absurd (by simp [sent]) changed

end Stage

/-! ### Credentials for other servers -/

namespace Route.SameFor

variable {address : Option Endpoint} {a : Endpoint} {r r' : Route}

theorem serves_iff (h : r.SameFor address r') (url : Json) : r'.Serves url ↔ r.Serves url := by
  rcases h with rfl | ⟨_, _, _, rfl⟩ <;> rfl

theorem breaks_iff (h : r.SameFor address r') (url : Json) : r'.Breaks url ↔ r.Breaks url := by
  rcases h with rfl | ⟨_, _, _, rfl⟩ <;> rfl

theorem nextHop_eq (h : r.SameFor address r') : r'.nextHop = r.nextHop := by
  rcases h with rfl | ⟨_, _, _, rfl⟩ <;> rfl

/-- A route that may lend to the address is the same one. -/
theorem eq_of_lender (h : r.SameFor (some a) r') (enabled : r.disabled = false)
    (located : r.server.endpoint = some a) : r' = r := by
  rcases h with same | ⟨disabled | elsewhere, _⟩
  · exact same
  · rw [enabled] at disabled
    cases disabled
  · exact absurd located (elsewhere a rfl)

theorem loan_eq (h : r.SameFor (some a) r') : Stage.loan a r' = Stage.loan a r := by
  by_cases served : Stage.serves a r = true
  · obtain ⟨enabled, located⟩ := Stage.serves_iff.mp served
    rw [h.eq_of_lender enabled located]
  · have passed : Stage.serves a r' ≠ true := by
      rcases h with rfl | ⟨_, _, _, rfl⟩ <;> exact served
    rw [Stage.loan, Stage.loan, if_neg served, if_neg passed]

end Route.SameFor

namespace RouteTable

variable {t t' : RouteTable} {address : Option Endpoint} {a : Endpoint} {x : Exchange} {r : Route}

/-- Searches of tables that differ in credentials at most come to the same. -/
theorem search_agree (h : List.Forall₂ (Route.SameFor address) t.routes t'.routes) (x : Exchange) :
    Attempt.Agree (Option.Rel (Route.SameFor address)) (t.search x) (t'.search x) := by
  unfold search
  split
  · exact selection_agree (fun _ _ same => same.serves_iff x.url)
      (fun _ _ same => same.breaks_iff x.url) h
  · exact .ok .none

theorem search_error_congr (h : List.Forall₂ (Route.SameFor address) t.routes t'.routes)
    {fault : Decimal.Fault} (broken : t.search x = .error fault) : t'.search x = .error fault := by
  have related := search_agree h x
  rw [broken] at related
  generalize t'.search x = found at related ⊢
  cases related
  rfl

/-- Other credentials do not give a request a next hop. -/
theorem search_direct_congr (h : List.Forall₂ (Route.SameFor address) t.routes t'.routes)
    {e : Option Route} (chosen : t.search x = .ok e) (direct : e.bind Route.nextHop = none) :
    ∃ e', t'.search x = .ok e' ∧ e'.bind Route.nextHop = none := by
  have related := search_agree h x
  rw [chosen] at related
  generalize t'.search x = found at related ⊢
  obtain ⟨same⟩ := related
  cases same with
  | none => exact ⟨none, rfl, rfl⟩
  | some same => exact ⟨_, rfl, same.nextHop_eq.trans direct⟩

/-- A request that goes to the address has the same route. -/
theorem search_congr (h : List.Forall₂ (Route.SameFor (some a)) t.routes t'.routes)
    (chosen : t.search x = .ok (some r)) (located : r.server.endpoint = some a) :
    t'.search x = .ok (some r) := by
  obtain ⟨_, enabled, _⟩ := serves_of_routeFor (routeFor_eq_some_iff.mpr chosen)
  have related := search_agree h x
  rw [chosen] at related
  generalize t'.search x = found at related ⊢
  obtain ⟨same⟩ := related
  cases same with
  | some same => rw [same.eq_of_lender enabled located]

end RouteTable

theorem Stage.findAuthorization_congr {a : Endpoint} {rs rs' : List Route}
    (h : List.Forall₂ (Route.SameFor (some a)) rs rs') :
    findAuthorization a rs' = findAuthorization a rs := by
  induction h with
  | nil => rfl
  | cons same _ ih => rw [findAuthorization_cons, findAuthorization_cons, same.loan_eq, ih]

/-- The same route lends to an exchange over tables that differ in other credentials at most. -/
theorem Stage.lender_congr {t t' : RouteTable} {x : Exchange}
    (h : List.Forall₂ (Route.SameFor x.connection.address) t.routes t'.routes) :
    lender t' x = lender t x := by
  unfold lender
  cases known : x.connection.address with
  | none => rfl
  | some a => exact findAuthorization_congr (known ▸ h)

theorem Stage.lends_of_lender {t : RouteTable} {x : Exchange} {r : Route} {value : Text}
    (lent : lender t x = .ok (some (r, value))) :
    ∃ a, x.connection.address = some a ∧ r ∈ t.routes ∧ r.Lends a value := by
  unfold lender at lent
  split at lent
  · rename_i a known
    obtain ⟨front, back, split, lends, _⟩ := findAuthorization_eq_some_iff.mp lent
    exact ⟨a, known, by simp [split], lends⟩
  · cases lent

namespace Router

variable {t : RouteTable} {x : Exchange} {r : Route} {address : Endpoint} {value : Text}

/-! ### A request for a tunnel -/

theorem requestTunnel_gives_nothing (nothing : Stage.lender t x = .ok none) :
    (requestTunnel t x).Gives (.ok (), x) [] := by
  have passed : (Stage.authorize.apply t ⟨x, {}⟩).Gives (.ok false, ⟨x, {}⟩) [] := by
    simp only [Stage.apply, Stage.authorizeFor, nothing]
    exact Run.gives_pure _
  exact Run.Gives.bind (Stage.runAll_of_false passed) (Run.gives_pure _)

/-- That credentials are withheld is reported if the host can be shown. -/
theorem requestTunnel_gives_withheld {fault : Utf8.Fault}
    (withheld : Stage.lender t x = .error fault) :
    (requestTunnel t x).Gives ((told x.host).map fun _ => (), x)
      ((told x.host).toOption.toList.map (.tunnelFailed · fault.message)) := by
  have failed : (Stage.authorize.apply t ⟨x, {}⟩).Gives
      (.error (.credentials fault), ⟨x, {}⟩) [] := by
    simp only [Stage.apply, Stage.authorizeFor, withheld]
    exact Run.gives_pure _
  have worded : tunnelFailure x (.credentials fault) =
      (told x.host).map (.tunnelFailed · fault.message) := by
    unfold tunnelFailure
    cases told x.host <;> rfl
  refine Run.Gives.bind (Stage.runAll_of_error failed) ?_
  simp only [worded]
  exact (report_gives_text (told x.host) (by simp [Notice.source])).map fun result => (result, x)

/-- What is lent is given, and reported if the host and the server can be shown. -/
theorem requestTunnel_gives_lent (lent : Stage.lender t x = .ok (some (r, value))) :
    (requestTunnel t x).Gives
      ((tunnelSuccess r x).map fun _ => (), Stage.withAuthorization x value)
      (tunnelSuccess r x).toOption.toList := by
  have given : (Stage.authorize.apply t ⟨x, {}⟩).Gives
      (.ok true, ⟨Stage.withAuthorization x value, { authorized := some r }⟩) [] := by
    simp only [Stage.apply, Stage.authorizeFor, lent]
    exact Run.gives_pure _
  have all : (Stage.runAll t Stage.tunnelling ⟨x, {}⟩).Gives
      (.ok (), ⟨Stage.withAuthorization x value, { authorized := some r }⟩) [] :=
    Stage.runAll_of_true given (Run.gives_pure _)
  have other : ∀ m, tunnelSuccess r x = .ok m → m.source ≠ .patterns := by
    unfold tunnelSuccess
    cases told x.host <;> cases shown r.server <;> simp [Notice.source, bind, Except.bind, pure,
      Except.pure]
  exact Run.Gives.bind all ((report_gives _ other).map fun result =>
    (result, Stage.withAuthorization x value))

theorem requestTunnel_exchange {s : Session} (reached : s.cache.Reachable) (t : RouteTable)
    (x : Exchange) :
    ((requestTunnel t x).result s).2 =
      match Stage.lender t x with
      | .error _ => x
      | .ok none => x
      | .ok (some (_, value)) => Stage.withAuthorization x value := by
  cases lent : Stage.lender t x with
  | error fault => rw [(requestTunnel_gives_withheld lent).result_eq reached]
  | ok found =>
    cases found with
    | none => rw [(requestTunnel_gives_nothing lent).result_eq reached]
    | some pair => rw [(requestTunnel_gives_lent lent).result_eq reached]

/-! ### Both requests -/

/-- A request borrows at most from routes with the address that it is sent to. -/
theorem request_borrows {s : Session} (reached : s.cache.Reachable) (t : RouteTable)
    (x : Exchange) :
    x.Borrows (fun t => ((request t x).result s).2) t
      (((request t x).result s).2.connection.via.map (·.address)) := by
  rcases t.search_cases x with broken | ⟨e, chosen, direct⟩ | ⟨r, address, chosen, located⟩
  · have same : ((request t x).result s).2.headers = x.headers := by
      rw [request_broken reached broken]
    refine ⟨by rw [same], fun changed => absurd same changed, ?_⟩
    intro t' alike
    simp only [same, request_broken reached (RouteTable.search_error_congr alike broken)]
  · have same : ((request t x).result s).2.headers = x.headers := by
      simp [request_direct reached chosen direct]
    refine ⟨by rw [same], fun changed => absurd same changed, ?_⟩
    intro t' alike
    obtain ⟨e', chosen', direct'⟩ := RouteTable.search_direct_congr alike chosen direct
    simp [same, request_direct reached chosen' direct']
  · obtain ⟨record, become⟩ := request_sent reached chosen located
    obtain ⟨mem, enabled, _⟩ :=
      RouteTable.serves_of_routeFor (RouteTable.routeFor_eq_some_iff.mpr chosen)
    rw [request_address reached chosen located]
    refine ⟨?_, ?_, ?_⟩
    · rw [become]
      exact Stage.sendBy_without r address x
    · intro changed
      simp only [become] at changed ⊢
      obtain ⟨_, value, lends, headers⟩ := Stage.lends_of_sendBy enabled located changed
      refine ⟨address, r, value, rfl, mem, lends, ?_⟩
      rw [headers]
      exact Headers.values_set _ _ _
    · intro t' alike
      have chosen' := RouteTable.search_congr alike chosen located
      obtain ⟨record', become'⟩ := request_sent reached chosen' located
      simp only [become, become']

/-- A request for a tunnel borrows at most from routes with the address of its connection. -/
theorem requestTunnel_borrows {s : Session} (reached : s.cache.Reachable) (t : RouteTable)
    (x : Exchange) :
    x.Borrows (fun t => ((requestTunnel t x).result s).2) t x.connection.address := by
  have exchange := fun t => requestTunnel_exchange reached t x
  refine ⟨?_, ?_, ?_⟩
  · simp only [exchange]
    split
    · rfl
    · rfl
    · exact Headers.without_set _ _ _
  · simp only [exchange]
    split
    · exact fun changed => absurd rfl changed
    · exact fun changed => absurd rfl changed
    · rename_i r value lent
      obtain ⟨a, known, mem, lends⟩ := Stage.lends_of_lender lent
      intro _
      exact ⟨a, r, value, known, mem, lends, Headers.values_set _ _ _⟩
  · intro t' alike
    simp only [exchange, Stage.lender_congr alike]

/-- Only a plain request is given credentials when it is sent. -/
theorem request_headers_of_not_plain {s : Session} (reached : s.cache.Reachable) (t : RouteTable)
    (x : Exchange) (other : x.scheme ≠ .str "http".toText) :
    ((request t x).result s).2.headers = x.headers := by
  rcases t.search_cases x with broken | ⟨e, chosen, direct⟩ | ⟨r, address, chosen, located⟩
  · rw [request_broken reached broken]
  · simp [request_direct reached chosen direct]
  · obtain ⟨_, become⟩ := request_sent reached chosen located
    obtain ⟨_, enabled, _⟩ :=
      RouteTable.serves_of_routeFor (RouteTable.routeFor_eq_some_iff.mpr chosen)
    rw [become]
    by_contra changed
    exact other (Stage.lends_of_sendBy enabled located changed).1

/-- **Credentials go to the server that they are for.** A request gets none but those that an
enabled route lends to the address of the next hop that it is given, and only if it is plain and
has a next hop. A request for a tunnel gets none but those that one lends to the address of its
connection, which stays. It does not matter whether the work ends with a fault. -/
theorem credentials_borrowed {s : Session} (reached : s.cache.Reachable) (t : RouteTable)
    (x : Exchange) :
    x.Borrows (fun t => ((request t x).result s).2) t
        (((request t x).result s).2.connection.via.map (·.address)) ∧
      (x.scheme ≠ .str "http".toText → ((request t x).result s).2.headers = x.headers) ∧
      (((request t x).result s).2.connection.via = none →
        ((request t x).result s).2.headers = x.headers) ∧
      ((requestTunnel t x).result s).2.connection = x.connection ∧
      x.Borrows (fun t => ((requestTunnel t x).result s).2) t x.connection.address := by
  have sent := request_borrows reached t x
  refine ⟨sent, request_headers_of_not_plain reached t x, ?_, ?_, requestTunnel_borrows reached t x⟩
  · intro direct
    rw [direct] at sent
    by_contra changed
    obtain ⟨a, _, _, none, _⟩ := sent.lent changed
    cases none
  · rw [requestTunnel_exchange reached t x]
    split <;> rfl

/-- The credentials are not those of a disabled route for the same server, nor those for another
port of its host. -/
theorem credentials_borrowed_of_third :
    let server (name : Text) (port : Int) : Url := {
      username := some name, password := some "p".toText, host := some "px".toText,
      port := some port }
    let r : Route := { server := server "u".toText 8 }
    let t : RouteTable := ⟨[{ server := server "v".toText 8, disabled := true },
      { pattern := "*://*.z/*".toText, server := server "w".toText 9 }, r]⟩
    let proxy : Endpoint := { host := "px".toText, port := 8 }
    let x : Exchange := { Exchange.fresh (some proxy) with
      url := .str "http://a.b/".toText
      scheme := .str "http".toText }
    let headers : Headers := [(Stage.authorizationHeader, "Basic dTpw".toText)]
    Session.start.cache.Reachable ∧
      ((request t x).result Session.start).2.headers = headers ∧
      ((requestTunnel t x).result Session.start).2.headers = headers ∧
      x.Borrows (fun t => ((request t x).result Session.start).2) t (some proxy) ∧
      x.Borrows (fun t => ((requestTunnel t x).result Session.start).2) t (some proxy) := by
  intro server r t proxy x headers
  have reached : Session.start.cache.Reachable := .ofCapacity _
  have chosen : t.search x = .ok (some r) := by decide
  have located : r.server.endpoint = some proxy := rfl
  have given : (Stage.sendBy r proxy x).headers = headers := by decide
  have lent : Stage.lender t x = .ok (some (r, "Basic dTpw".toText)) := by decide
  obtain ⟨record, become⟩ := request_sent reached chosen located
  obtain ⟨sent, _, _, _, tunnelled⟩ := credentials_borrowed reached t x
  rw [request_address reached chosen located] at sent
  refine ⟨reached, ?_, ?_, sent, tunnelled⟩
  · rw [become]
    exact given
  · rw [requestTunnel_exchange reached t x, lent]
    rfl

end Router

end ProxySelection
