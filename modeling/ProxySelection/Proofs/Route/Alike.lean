import ProxySelection.Proofs.Route.Server
import ProxySelection.Proofs.Url.Overlay

/-!
Servers that are read and servers that are laid over nothing.

A server comes to a route in two ways: the route is read with it, by checks that know of null and
the empty text, or a plain route is updated with it, by an overlay over the empty URL. The second
reads an object together with the members of the empty URL. Each of these is read as what it is
without being named (`Checked.member_overlay`), so they do not show (`Url.ofMembers_overlay_empty`),
and both ways come to one server or to the same issues (`checkServer_eq`).

What is around the server is the same in both routes (`check_server`, `update_server`), and so both
ways give one route or none: `check_iff_update`.
-/

namespace ProxySelection

namespace Checked

/-- An object below does not show in a member that it holds as it is when it is left out. -/
theorem member_overlay {α : Type} {base top : Members} {name : Text} {absent : α}
    {check : Json → Checked α} {v : Json} (once : top.Distinct) (there : base.get? name = some v)
    (plain : check v = .ok absent) :
    member (base.overlay top) name absent check = member top name absent check := by
  unfold member
  rw [Members.get?_overlay base top once name, there]
  cases top.get? name with
  | none => simp only [Option.none_or, plain, under]
  | some w => rfl

end Checked

namespace Url

/-- The issues that a value has by itself if it cannot be laid over a URL for this fault. There are
none to be told of what cannot be shown. -/
def OverlayFault.issues : OverlayFault → List Issue
  | .text fault => [⟨[], .notUrl fault⟩]
  | .members _ issues => issues
  | .unshowable _ => []
  | .kind _ => [⟨[], .notShape "Url".toText⟩]

/-- What an object is read as over the members of the empty URL, it is read as by itself. -/
theorem ofMembers_overlay_empty {ms : Members} (once : ms.Distinct) :
    ofMembers (empty.members.overlay ms) = ofMembers ms := by
  have text (name : Text) (there : empty.members.get? name = some .null) :
      Checked.member (empty.members.overlay ms) name none .optionalText =
        Checked.member ms name none .optionalText :=
    Checked.member_overlay once there rfl
  have integer : Checked.member (empty.members.overlay ms) portName none .optionalInteger =
      Checked.member ms portName none .optionalInteger :=
    Checked.member_overlay once (get?_members empty .port) rfl
  have path : Checked.member (empty.members.overlay ms) pathName [char '/'] .text =
      Checked.member ms pathName [char '/'] .text :=
    Checked.member_overlay once (get?_members empty .path) rfl
  rw [ofMembers, text protocolName rfl, text usernameName rfl, text passwordName rfl,
    text hostName rfl, integer, path, text portTextName rfl]
  rfl

end Url

namespace Route

variable {v : Json}

/-- A server is read as what it is over the empty URL, and refused with the same issues. -/
theorem checkServer_eq (once : ∀ ms, v = .obj ms → Members.Distinct ms)
    (short : ∀ n ∈ v.integers, n.natAbs < 10 ^ Decimal.digitLimit) :
    checkServer v = (Url.empty.overlay v).mapError Url.OverlayFault.issues := by
  cases v with
  | str t =>
    cases t with
    | nil => rfl
    | cons c t =>
      change Url.check (.str (c :: t)) = _
      cases parsed : Url.parse (c :: t) <;>
        simp only [Url.check, Url.overlay, parsed] <;> rfl
  | obj ms =>
    change Url.ofMembers ms = _
    simp only [Url.overlay, Url.ofMembers_overlay_empty (once ms rfl)]
    cases Url.ofMembers ms with
    | ok u => rfl
    | error issues =>
      simp only [Url.ofIssues_eq_members short]
      rfl
  | _ => rfl

/-! ### Routes with nothing but a server -/

/-- A route is read from a server alone as the plain one with that server. -/
theorem check_server (v : Json) : check (.obj [(serverName, v)]) =
    ((checkServer v).under serverName).map fun u => { server := u } := by
  have named : Checked.member [(serverName, v)] serverName .empty checkServer =
      (checkServer v).under serverName := rfl
  change ofMembers _ = _
  unfold ofMembers
  rw [named]
  cases (checkServer v).under serverName <;> rfl

/-- An update by a server alone lays it over the one before, and it is no tunnel. -/
theorem update_server (r : Route) (v : Json) : r.update (.obj [(serverName, v)]) =
    (r.server.overlay v).map fun u => { r with server := u, tunnel := false } := by
  have named : changes [(serverName, v)] = true := rfl
  have there : Members.get? serverName [(serverName, v)] = some v := rfl
  simp only [Route.update, revise, named, if_true, change, there]
  cases r.server.overlay v <;> rfl

/-- A plain route is updated to what is read from the same server, or refuses it for the issues
that are found in it there. -/
theorem check_server_eq (once : ∀ ms, v = .obj ms → Members.Distinct ms)
    (short : ∀ n ∈ v.integers, n.natAbs < 10 ^ Decimal.digitLimit) :
    check (.obj [(serverName, v)]) = (({} : Route).update (.obj [(serverName, v)])).mapError
      fun fault => fault.issues.map (·.under serverName) := by
  rw [check_server, update_server, checkServer_eq once short]
  change _ = Except.mapError _ (Except.map _ (Url.empty.overlay v))
  cases Url.empty.overlay v <;> rfl

/-- **A route is read with a server exactly if the plain route can be updated with it**, and then
both are the same route. A server that is refused when it is read has the issues for which the
update fails, under its name, and the fault of the update can be worded. -/
theorem check_iff_update (v : Json) (once : ∀ ms, v = .obj ms → Members.Distinct ms)
    (short : ∀ n ∈ v.integers, n.natAbs < 10 ^ Decimal.digitLimit) :
    check (.obj []) = .ok {} ∧
    (∀ r, check (.obj [(serverName, v)]) = .ok r ↔
      ({} : Route).update (.obj [(serverName, v)]) = .ok r) ∧
    ∀ issues, check (.obj [(serverName, v)]) = .error issues ↔
      ∃ fault, ({} : Route).update (.obj [(serverName, v)]) = .error fault ∧
        (∀ f, fault ≠ .unshowable f) ∧ issues = fault.issues.map (·.under serverName) := by
  have same := check_server_eq once short
  refine ⟨rfl, fun r => ?_, fun issues => ?_⟩
  · rw [same]
    cases ({} : Route).update (.obj [(serverName, v)]) <;> simp [Except.mapError]
  · rw [same]
    cases updated : ({} : Route).update (.obj [(serverName, v)]) with
    | ok r => simp [Except.mapError]
    | error fault =>
      obtain ⟨_, _, ⟨⟩, ⟨⟩, failed⟩ := overlay_of_update_error updated
      have worded := Url.overlay_ne_unshowable short failed
      simp [Except.mapError, worded, eq_comm]

/-- A port may be a text with a sign, an underscore and a fraction, and a name that no member has
does not count. A list is no port, and its place is told. -/
theorem check_iff_update_of_port :
    let good : Members := [
      (Url.hostName, .str [char 'h']), (Url.portName, .str "+8_1.0".toText),
      (Url.portTextName, .str "0081".toText), ([char 'x'], .int 7)]
    let bad : Members := [(Url.portName, .arr [.int 7])]
    let r : Route := { server := {
      host := some [char 'h'], port := some 81, portText := some "0081".toText } }
    ({} : Route).update (.obj [(serverName, .obj good)]) = .ok r ∧
      ∃ fault, ({} : Route).update (.obj [(serverName, .obj bad)]) = .error fault ∧
        (∀ f, fault ≠ .unshowable f) ∧
        [⟨[.member serverName, .member Url.portName], .notInteger⟩] =
          fault.issues.map (·.under serverName) := by
  intro good bad r
  have short : ∀ n ∈ [(7 : Int)], n.natAbs < 10 ^ Decimal.digitLimit := by
    intro n mem
    obtain rfl := List.mem_singleton.mp mem
    exact Decimal.lt_bound_of_le (by decide)
  have once : ∀ ms, Json.obj good = .obj ms → Members.Distinct ms := by
    rintro _ ⟨⟩
    unfold Members.Distinct
    decide
  have once' : ∀ ms, Json.obj bad = .obj ms → Members.Distinct ms := by
    rintro _ ⟨⟩
    unfold Members.Distinct
    decide
  obtain ⟨_, read, _⟩ := check_iff_update (.obj good) once short
  obtain ⟨_, _, refused⟩ := check_iff_update (.obj bad) once' short
  exact ⟨(read r).mp rfl, (refused _).mp rfl⟩

end Route

end ProxySelection
