import ProxySelection.Proofs.Table.Settled
import ProxySelection.Proofs.Route.Server
import ProxySelection.Proofs.Url.RoundTrip

/-!
Listings: writing a route or a table, and reading what was written.

In a listing a server is a text. A route comes back from it as it was if and only if its server
is empty, or is what some text is parsed to and nothing of it is lost in its own text
(`Url.Restorable`). A server that was only ever given as a text meets the first half of this; one
that was changed by an object need not, and its listing may be read to another server or to none.
A table comes back if and only if each of its routes does.
-/

namespace ProxySelection

/-- The empty URL, and those that a text is parsed to and of which nothing is lost. -/
def Url.Restorable (u : Url) : Prop :=
  u = .empty ∨ (∃ t, Url.parse t = .ok u) ∧ u.ShownWhole

/-! ### Going through a list -/

/-- A list is gone through without a failure if each of its items is, and the results are those
of the items. -/
theorem mapM_eq_ok_iff {ε α β : Type} {f : α → Except ε β} {as : List α} {bs : List β} :
    as.mapM f = .ok bs ↔ List.Forall₂ (fun a b => f a = .ok b) as bs := by
  induction as generalizing bs with
  | nil => simp [pure, Except.pure, eq_comm]
  | cons a as ih =>
    rw [List.mapM_cons, List.forall₂_cons_left_iff]
    simp only [← ih]
    cases f a with
    | error e => simp [bind, Except.bind]
    | ok b =>
      cases as.mapM f with
      | error e => simp [bind, Except.bind]
      | ok bs => simp [bind, Except.bind, pure, Except.pure, eq_comm]

theorem mapM_isOk_iff {ε α β : Type} {f : α → Except ε β} {as : List α} :
    (∃ bs, as.mapM f = .ok bs) ↔ ∀ a ∈ as, ∃ b, f a = .ok b := by
  induction as with
  | nil => simp [pure, Except.pure]
  | cons a as ih =>
    rw [List.mapM_cons, List.forall_mem_cons, ← ih]
    cases f a with
    | error e => simp [bind, Except.bind]
    | ok b => cases as.mapM f <;> simp [bind, Except.bind, pure, Except.pure]

/-- A list is not gone through if some item of it fails behind items that do not, and the failure
is that of this item. -/
theorem mapM_eq_error_iff {ε α β : Type} {f : α → Except ε β} {as : List α} {e : ε} :
    as.mapM f = .error e ↔
      ∃ front a back, as = front ++ a :: back ∧ (∀ b ∈ front, ∃ c, f b = .ok c) ∧
        f a = .error e := by
  induction as with
  | nil => simp [pure, Except.pure]
  | cons a as ih =>
    rw [List.mapM_cons]
    cases found : f a with
    | error e' =>
      constructor
      · rintro ⟨⟩
        exact ⟨[], a, as, rfl, by simp, found⟩
      · rintro ⟨front, b, back, split, valid, failed⟩
        rcases List.cons_eq_append_iff.mp split with ⟨rfl, here⟩ | ⟨front', rfl, _⟩
        · obtain ⟨rfl, rfl⟩ := List.cons.inj here
          obtain rfl : e' = e := Except.error.inj (found.symm.trans failed)
          rfl
        · obtain ⟨c, passed⟩ := valid a List.mem_cons_self
          rw [found] at passed
          cases passed
    | ok c =>
      have skipped : (do let b ← (Except.ok c : Except ε β); let bs ← as.mapM f; pure (b :: bs)) =
          .error e ↔ as.mapM f = .error e := by
        cases as.mapM f <;> simp [bind, Except.bind, pure, Except.pure]
      rw [skipped, ih]
      constructor
      · rintro ⟨front, b, back, rfl, valid, failed⟩
        refine ⟨a :: front, b, back, rfl, ?_, failed⟩
        exact List.forall_mem_cons.mpr ⟨⟨c, found⟩, valid⟩
      · rintro ⟨front, b, back, split, valid, failed⟩
        rcases List.cons_eq_append_iff.mp split with ⟨rfl, here⟩ | ⟨front', rfl, rest⟩
        · obtain ⟨rfl, rfl⟩ := List.cons.inj here
          rw [found] at failed
          cases failed
        · exact ⟨front', b, back, rest, fun x mem => valid x (List.mem_cons_of_mem _ mem), failed⟩

/-! ### Servers -/

namespace Route

variable {r w : Route} {v : Json}

theorem check_membersWith (r : Route) {u : Url} (given : checkServer v = .ok u) :
    check (.obj (r.membersWith v)) = .ok { r with server := u } := by
  have server : Checked.member (r.membersWith v) serverName .empty checkServer = .ok u :=
    Checked.member_eq_ok_iff.mpr (.inr ⟨v, rfl, given⟩)
  change ofMembers (r.membersWith v) = _
  rw [ofMembers, server]
  rfl

/-- A route is described if its server can be shown, and then with what is shown. -/
theorem describe_eq_ok_iff {redact : Bool} :
    r.describe redact = .ok v ↔
      ∃ text, r.serverShown redact = .ok text ∧ v = .obj (r.membersWith (.str text)) := by
  unfold describe
  cases r.serverShown redact with
  | error fault => simp [bind, Except.bind]
  | ok text => simp [bind, Except.bind, pure, Except.pure, eq_comm]

/-- What is described of a route is read as the same one if its server is read from its text. -/
theorem check_describe_iff (described : r.describe false = .ok v) :
    check v = .ok r ↔
      ∃ text, r.server.render = .ok text ∧ checkServer (.str text) = .ok r.server := by
  obtain ⟨text, shown, rfl⟩ := describe_eq_ok_iff.mp described
  constructor
  · intro read
    rcases server_of_ofMembers read with ⟨absent, _⟩ | ⟨v, there, server⟩
    · cases absent
    · cases there
      exact ⟨text, shown, server⟩
  · rintro ⟨text', shown', server⟩
    obtain rfl : text = text' := Except.ok.inj (shown.symm.trans shown')
    exact check_membersWith r server

/-- A server is read from its own text if and only if it is restorable. -/
theorem checkServer_render_iff {u : Url} :
    (∃ text, u.render = .ok text ∧ checkServer (.str text) = .ok u) ↔ u.Restorable := by
  constructor
  · rintro ⟨text, shown, read⟩
    rcases checkServer_text_iff.mp read with ⟨_, empty⟩ | parsed
    · exact .inl empty
    · exact .inr ⟨⟨text, parsed⟩, Url.shownWhole_of_parse_render parsed shown parsed⟩
  · rintro (rfl | ⟨⟨t, parsed⟩, whole⟩)
    · exact ⟨[], rfl, rfl⟩
    · have shown := Url.render_of_parse parsed
      refine ⟨_, shown, checkServer_text_iff.mpr (.inr ?_)⟩
      exact Url.parse_render_of_shownWhole parsed shown whole

theorem check_describe_iff_restorable (described : r.describe false = .ok v) :
    check v = .ok r ↔ r.server.Restorable :=
  (check_describe_iff described).trans checkServer_render_iff

theorem describe_of_restorable (h : r.server.Restorable) : ∃ v, r.describe false = .ok v := by
  obtain ⟨text, shown, _⟩ := checkServer_render_iff.mpr h
  exact ⟨_, describe_eq_ok_iff.mpr ⟨text, shown, rfl⟩⟩

/-- A server that was given as a text can be written. -/
theorem ServerIsText.describe (h : r.ServerIsText) : ∃ v, r.describe false = .ok v := by
  obtain ⟨_, shown⟩ := h.remote
  obtain ⟨text, rendered⟩ := Url.renderWith_of_remote shown r.server.password
  exact ⟨_, describe_eq_ok_iff.mpr ⟨text, rendered, rfl⟩⟩

theorem ServerIsText.restorable_iff (h : r.ServerIsText) :
    r.server.Restorable ↔ r.server.ShownWhole := by
  constructor
  · rintro (empty | ⟨_, whole⟩)
    · rw [empty]
      refine ⟨by decide, by decide, ?_⟩
      rintro c ⟨⟩
      decide
    · exact whole
  · intro whole
    rcases h.cases with empty | parsed
    · exact .inl empty
    · exact .inr ⟨parsed, whole⟩

end Route

/-! ### Tables -/

namespace RouteTable

variable {t : RouteTable}

/-- What the items of a value give as a table does not depend on the session. -/
theorem ofJson_result {s : Session} (reached : s.cache.Reachable) {v : Json} {items : List Json}
    (found : items? v = some items) :
    (ofJson v).outcome.result s =
      ((items.mapM Route.check).map RouteTable.mk).mapError .notRoute := by
  obtain ⟨reports, gives⟩ := addAll_gives empty items
  unfold ofJson
  rw [found]
  exact congrArg (Except.mapError Fault.notRoute) (gives.result_eq reached)

/-- The values of a list are read as a table if each of them is read as its route. -/
theorem ofJson_arr_iff {s : Session} (reached : s.cache.Reachable) {items : List Json} :
    (ofJson (.arr items)).outcome.result s = .ok t ↔
      List.Forall₂ (fun v r => Route.check v = .ok r) items t.routes := by
  rw [ofJson_result reached rfl, ← mapM_eq_ok_iff]
  obtain ⟨routes⟩ := t
  cases items.mapM Route.check <;> simp [Except.map, Except.mapError]

theorem check_items_iff {rs : List Route} {vs : List Json}
    (described : List.Forall₂ (fun r v => Route.describe r false = .ok v) rs vs) :
    List.Forall₂ (fun v r => Route.check v = .ok r) vs rs ↔ ∀ r ∈ rs, r.server.Restorable := by
  induction described with
  | nil => simp
  | cons described _ ih =>
    rw [List.forall₂_cons, List.forall_mem_cons, Route.check_describe_iff_restorable described, ih]

/-- A listing is read as what was listed if and only if every server in it is restorable. For a
server that was given as a text, and changed by texts only, this means that nothing of it is lost
in its own text. -/
theorem listing_restored_iff {s : Session} (reached : s.cache.Reachable) :
    (∀ (r : Route) (v : Json), r.describe false = .ok v →
      (Route.check v = .ok r ↔ r.server.Restorable)) ∧
    (∀ (t : RouteTable) (items : List Json), t.describe false = .ok items →
      ((ofJson (.arr items)).outcome.result s = .ok t ↔ ∀ r ∈ t.routes, r.server.Restorable)) ∧
    (∀ r : Route, r.server.Restorable → ∃ v, r.describe false = .ok v) ∧
    (∀ r : Route, r.Made Json.IsTextOrNull Json.IsTextOrNull →
      (∃ v, r.describe false = .ok v) ∧ (r.server.Restorable ↔ r.server.ShownWhole)) := by
  refine ⟨fun r v described => ?_, fun t items described => ?_, fun r restorable => ?_,
    fun r made => ⟨?_, ?_⟩⟩
  · exact Route.check_describe_iff_restorable described
  · rw [ofJson_arr_iff reached]
    exact check_items_iff (mapM_eq_ok_iff.mp described)
  · exact Route.describe_of_restorable restorable
  · exact made.serverIsText.describe
  · exact made.serverIsText.restorable_iff

/-- The listing of a server with credentials, a host in brackets and zeros in front of its port is
read as what was listed. -/
theorem listing_restored_bracketed :
    let u : Url := {
      protocol := some "http".toText, username := some "u".toText, password := some "p".toText,
      host := some "[::1]".toText, port := some 80, path := "/a".toText,
      portText := some "0080".toText }
    let t : RouteTable := ⟨[{ server := u, tunnel := true }, { disabled := true }]⟩
    ∃ items, t.describe false = .ok items ∧
      (ofJson (.arr items)).outcome.result Session.start = .ok t := by
  intro u t
  have reached : Session.start.cache.Reachable := .ofCapacity _
  obtain ⟨_, listing, described, _⟩ := listing_restored_iff reached
  have parsed : Url.parse "HTTP://u:p@[::1]:0080/a?q".toText = .ok u := rfl
  have whole : u.ShownWhole := by
    refine ⟨by decide, by decide, ?_⟩
    rintro c ⟨⟩
    decide
  have restorable : ∀ r ∈ t.routes, r.server.Restorable := by
    intro r mem
    rcases List.mem_pair.mp mem with rfl | rfl
    · exact .inr ⟨⟨_, parsed⟩, whole⟩
    · exact .inl rfl
  obtain ⟨items, shown⟩ := mapM_isOk_iff.mpr fun r mem => described r (restorable r mem)
  exact ⟨items, shown, (listing t items shown).mpr restorable⟩

/-- An empty password is lost, and so is the text of a port that an update has left behind. -/
theorem listing_not_restored :
    (∃ r v, Route.check (.obj [(Route.serverName, .str "http://u:@h:8080".toText)]) = .ok r ∧
      r.describe false = .ok v ∧ Route.check v ≠ .ok r) ∧
    ∃ r r' v, Route.check (.obj [(Route.serverName, .str "http://h:8080".toText)]) = .ok r ∧
      r.update (.obj [(Route.serverName, .obj [(Url.portName, .int 9090)])]) = .ok r' ∧
      r'.describe false = .ok v ∧ Route.check v ≠ .ok r' := by
  constructor
  · let u : Url := {
      protocol := some "http".toText, username := some "u".toText, password := some [],
      host := some "h".toText, port := some 8080, portText := some "8080".toText }
    have shown : u.render = .ok "http://u@h:8080".toText := by decide +kernel
    have described : Route.describe { server := u } false = .ok _ :=
      Route.describe_eq_ok_iff.mpr ⟨_, shown, rfl⟩
    refine ⟨{ server := u }, _, rfl, described, fun read => ?_⟩
    rcases (Route.check_describe_iff_restorable described).mp read with empty | ⟨_, whole⟩
    · exact absurd empty (by decide)
    · exact whole.password rfl
  · let u : Url := {
      protocol := some "http".toText, host := some "h".toText, port := some 9090,
      portText := some "8080".toText }
    have shown : u.render = .ok "http://h:9090".toText := by decide +kernel
    have described : Route.describe { server := u } false = .ok _ :=
      Route.describe_eq_ok_iff.mpr ⟨_, shown, rfl⟩
    refine ⟨{ server := { u with port := some 8080 } }, { server := u }, _, rfl, rfl, described,
      fun read => ?_⟩
    rcases (Route.check_describe_iff_restorable described).mp read with empty | ⟨⟨t, parsed⟩, _⟩
    · exact absurd empty (by decide)
    · rcases Url.port_of_parse parsed with ⟨none, _⟩ | ⟨written, text, port, _⟩
      · cases none
      · obtain rfl := Option.some.inj text
        exact absurd port (by decide)

end RouteTable

end ProxySelection
