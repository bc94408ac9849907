import ProxySelection.Url.Proxy
import ProxySelection.Proofs.Session.Lockstep
import ProxySelection.Proofs.Table.Selection

/-!
Tables that differ in passwords only.

Two tables are twins if their routes correspond and those differ at most in the passwords of
their servers, of which both are there or neither is (`RouteTable.Twins`). The servers have the
same address then, and look the same once the passwords are masked. Twins select corresponding
routes, in lockstep: `select_lockstep`. They are peers if moreover the credentials for the servers
of corresponding routes fail to be encoded for the same reason or not at all (`RouteTable.Peers`),
as all of them are if user names and passwords can be encoded (`Twins.peers_of_encodable`).
-/

namespace ProxySelection

/-- The URLs differ at most in their passwords, of which both are given or neither is. -/
def Url.Twins (u u' : Url) : Prop :=
  ∃ password, u' = { u with password } ∧ isGiven password = isGiven u.password

/-- The routes differ at most in the passwords of their servers. -/
def Route.Twins (r r' : Route) : Prop := ∃ server, r' = { r with server } ∧ r.server.Twins server

/-- The tables differ at most in the passwords of the servers. -/
def RouteTable.Twins (t t' : RouteTable) : Prop := List.Forall₂ Route.Twins t.routes t'.routes

/-- Why the credentials for a server cannot be encoded, if so. -/
def Url.encodingFault? (u : Url) : Option Utf8.Fault :=
  match u.authorization with
  | .ok _ => none
  | .error fault => some fault

/-- The routes differ at most in the passwords of their servers, and the credentials for both fail
to be encoded for the same reason or not at all. -/
structure Route.Peers (r r' : Route) : Prop where
  twins : r.Twins r'
  fail_alike : r'.server.encodingFault? = r.server.encodingFault?

/-- The routes of the tables are peers. -/
def RouteTable.Peers (t t' : RouteTable) : Prop := List.Forall₂ Route.Peers t.routes t'.routes

theorem Url.encodingFault?_eq_none {u : Url} (encodable : u.HasEncodableUser) :
    u.encodingFault? = none := by
  obtain ⟨given, authorized⟩ := authorization_isOk_iff.mpr encodable
  rw [encodingFault?, authorized]

namespace Url.Twins

variable {u u' : Url}

theorem isEmpty_eq (h : u.Twins u') : u'.isEmpty = u.isEmpty := by
  obtain ⟨password, rfl, _⟩ := h
  rfl

theorem protocol_eq (h : u.Twins u') : u'.protocol = u.protocol := by
  obtain ⟨password, rfl, _⟩ := h
  rfl

theorem remote_eq (h : u.Twins u') : u'.remote = u.remote := by
  obtain ⟨password, rfl, _⟩ := h
  rfl

theorem endpoint_eq (h : u.Twins u') : u'.endpoint = u.endpoint := by
  obtain ⟨password, rfl, _⟩ := h
  rfl

theorem username_eq (h : u.Twins u') : u'.username = u.username := by
  obtain ⟨password, rfl, _⟩ := h
  rfl

/-- If the credentials for both fail alike, there are some for both or for neither. -/
theorem authorization_agree (h : u.Twins u') (alike : u'.encodingFault? = u.encodingFault?) :
    Attempt.Agree (Option.Rel fun _ _ => True) u.authorization u'.authorization := by
  unfold encodingFault? at alike
  cases own : u.authorization with
  | error fault =>
    cases other : u'.authorization with
    | error fault' =>
      rw [own, other] at alike
      cases alike
      exact .error fault
    | ok given' => simp [own, other] at alike
  | ok given =>
    cases other : u'.authorization with
    | error fault' => simp [own, other] at alike
    | ok given' =>
      have there : given'.isSome = given.isSome := by
        rw [isSome_of_authorization own, isSome_of_authorization other, h.username_eq]
      cases given with
      | none =>
        obtain rfl : given' = none := by simpa using there
        exact .ok .none
      | some value =>
        obtain ⟨value', rfl⟩ := Option.isSome_iff_exists.mp there
        exact .ok (.some trivial)

/-- With the password masked it only shows whether there is one. -/
theorem redacted_eq (h : u.Twins u') : u'.redacted = u.redacted := by
  obtain ⟨password, rfl, given⟩ := h
  have user : userShown { u with password } (some mask) = u.userShown (some mask) := by
    simp only [userShown, given]
  simp only [redacted, renderWith, user]
  rfl

end Url.Twins

namespace Route.Twins

variable {r r' : Route}

theorem disabled_eq (h : r.Twins r') : r'.disabled = r.disabled := by
  obtain ⟨server, rfl, _⟩ := h
  rfl

theorem pattern_eq (h : r.Twins r') : r'.pattern = r.pattern := by
  obtain ⟨server, rfl, _⟩ := h
  rfl

theorem tunnel_eq (h : r.Twins r') : r'.tunnel = r.tunnel := by
  obtain ⟨server, rfl, _⟩ := h
  rfl

theorem server (h : r.Twins r') : r.server.Twins r'.server := by
  obtain ⟨server, rfl, alike⟩ := h
  exact alike

theorem test_eq (h : r.Twins r') (url : Json) : r'.test url = r.test url := by
  rw [Route.test, Route.test, h.pattern_eq]

theorem serves_iff (h : r.Twins r') (url : Json) : r'.Serves url ↔ r.Serves url := by
  rw [Serves, Serves, h.disabled_eq, h.pattern_eq]

theorem breaks_iff (h : r.Twins r') (url : Json) : r'.Breaks url ↔ r.Breaks url := by
  rw [Breaks, Breaks, h.disabled_eq, h.pattern_eq]

theorem describe_eq (h : r.Twins r') : r'.describe true = r.describe true := by
  have shown : r'.serverShown true = r.serverShown true := h.server.redacted_eq
  obtain ⟨server, rfl, _⟩ := h
  rw [describe, describe, shown]
  rfl

end Route.Twins

namespace RouteTable

variable {t t' : RouteTable}

/-- Twins are peers if the user names and passwords in both can be encoded. -/
theorem Twins.peers_of_encodable (h : t.Twins t')
    (encodable : ∀ r ∈ t.routes, r.server.HasEncodableUser)
    (encodable' : ∀ r ∈ t'.routes, r.server.HasEncodableUser) : t.Peers t' := by
  obtain ⟨routes⟩ := t
  obtain ⟨routes'⟩ := t'
  change List.Forall₂ Route.Twins routes routes' at h
  change List.Forall₂ Route.Peers routes routes'
  induction h with
  | nil => exact .nil
  | @cons r r' rs rs' alike _ ih =>
    obtain ⟨here, there⟩ := List.forall_mem_cons.mp encodable
    obtain ⟨here', there'⟩ := List.forall_mem_cons.mp encodable'
    have fail : r'.server.encodingFault? = r.server.encodingFault? := by
      rw [Url.encodingFault?_eq_none here, Url.encodingFault?_eq_none here']
    exact .cons ⟨alike, fail⟩ (ih there there')

theorem Twins.size_eq (h : t.Twins t') : t'.size = t.size := (List.Forall₂.length_eq h).symm

/-- The lists of the routes with masked passwords are the same, or fail alike. -/
theorem Twins.describe_eq (h : t.Twins t') : t'.describe true = t.describe true := by
  obtain ⟨routes⟩ := t
  obtain ⟨routes'⟩ := t'
  change List.Forall₂ Route.Twins routes routes' at h
  unfold describe
  induction h with
  | nil => rfl
  | cons alike _ ih =>
    simp only [List.mapM_cons, alike.describe_eq] at ih ⊢
    rw [ih]

/-! ### Selecting -/

/-- Tables with routes in a relation by which they are twins select routes in that relation. -/
theorem selectAmong_lockstep {R : Route → Route → Prop} (twins : ∀ r r', R r r' → r.Twins r')
    (url : Json) {rs rs' : List Route} (h : List.Forall₂ R rs rs') :
    Attempt.Lockstep (Option.Rel R) (selectAmong url rs) (selectAmong url rs') := by
  induction h with
  | nil => exact Attempt.lockstep_pure .none
  | @cons r r' rs rs' alike _ ih =>
    unfold selectAmong
    rw [(twins r r' alike).disabled_eq, (twins r r' alike).test_eq]
    split
    · exact ih
    · refine Attempt.lockstep_bind_same _ ?_
      intro suited
      split
      · exact Attempt.lockstep_pure (.some alike)
      · exact ih

/-- Twins select corresponding routes, or fail alike. -/
theorem Twins.select_lockstep (h : t.Twins t') (url : Json) :
    Attempt.Lockstep (Option.Rel Route.Twins) (t.select url) (t'.select url) :=
  selectAmong_lockstep (fun _ _ => id) url h

theorem Peers.select_lockstep (h : t.Peers t') (url : Json) :
    Attempt.Lockstep (Option.Rel Route.Peers) (t.select url) (t'.select url) :=
  selectAmong_lockstep (fun _ _ peers => peers.twins) url h

/-! ### Taking routes in -/

theorem appendAll_lockstep {rs rs' : List Route} (h : List.Forall₂ Route.Twins rs rs') :
    ∀ {t t' : RouteTable}, t.Twins t' → Run.Lockstep Twins (t.appendAll rs) (t'.appendAll rs') := by
  induction h with
  | nil =>
    intro t t' start
    exact Run.lockstep_pure start
  | @cons r r' rs rs' alike _ ih =>
    intro t t' start
    have announced : announce r' = announce r := by rw [announce, announce, alike.pattern_eq]
    have step : Run.Lockstep Twins (t.append r) (t'.append r') := by
      unfold append
      rw [announced]
      refine Run.lockstep_bind_same _ fun _ => Run.lockstep_pure ?_
      exact List.rel_append start (.cons alike .nil)
    exact step.bind fun _ _ => ih

/-- Tables of twins are twins. -/
theorem ofRoutes_lockstep (h : t.Twins t') :
    Run.Lockstep Twins (ofRoutes t.routes) (ofRoutes t'.routes) :=
  appendAll_lockstep h .nil

end RouteTable

end ProxySelection
