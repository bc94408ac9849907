import ProxySelection.Proofs.Route.Server
import ProxySelection.Proofs.Url.Legible
import ProxySelection.Proofs.Url.Overlay
import ProxySelection.Proofs.Url.WellFormed

/-!
Servers by what was received for them.

A route receives values for its server: the one it is read with, and one by each update that names
a server (`Route.Received`). A text or null among them settles the whole server. An object settles
the members that it names and leaves the others as they stood (`standing?`), so each part of the
server is what stands for it, or comes from a text (`Received.follows`).

A text is only parsed to a URL with a host that holds no blank and a port in range. Nothing looks at
either in an object, which gives any URL there is (`overlay_members`). So a server is proper exactly
as far as the objects were: `server_proper_iff`.
-/

namespace ProxySelection

namespace Url

/-! ### Proper hosts and ports -/

/-- A host that is not empty and holds no blank. -/
def IsProperHost (host : Text) : Prop := host ≠ [] ∧ ∀ c ∈ host, isBlank c = false

/-- A number that ports have. -/
def IsPortNumber (port : Int) : Prop := 0 ≤ port ∧ port ≤ 65535

/-- The URL is empty or has a proper host. -/
def HasProperHost (u : Url) : Prop := ∀ host, u.host = some host → IsProperHost host

/-- The URL has no port or one in range. -/
def HasPortInRange (u : Url) : Prop := ∀ port, u.port = some port → IsPortNumber port

variable {u : Url} {t : Text}

theorem hasProperHost_of_parse (parsed : parse t = .ok u) : u.HasProperHost := by
  intro host found
  obtain ⟨host', found', proper⟩ := isHost_of_parse parsed
  obtain rfl : host = host' := Option.some.inj (found.symm.trans found')
  exact ⟨proper.nonempty, fun c mem => (proper.plain c mem).1⟩

theorem hasPortInRange_of_parse (parsed : parse t = .ok u) : u.HasPortInRange := by
  intro port found
  obtain ⟨_, _, isPort⟩ := isPort_of_parse parsed found
  exact isPort.inRange

/-! ### URLs as objects -/

/-- An object with all members gives the URL that has them, whatever was there before. -/
theorem overlay_members (u w : Url) : u.overlay (.obj w.members) = .ok w := by
  have same : u.members.overlay w.members = w.members := rfl
  simp only [overlay, same, ofMembers_members]

end Url

namespace Route

/-! ### What stands of values received -/

/-- The value that stands for a member after these values, the latest of which comes first. -/
def standing? (name : Text) : List Json → Option Json
  | .obj ms :: vs => (Members.get? name ms).or (standing? name vs)
  | _ => none

/-- The route has received these values for its server, the latest of which comes first. -/
inductive Received : List Json → Route → Prop where
  | read {ms : Members} {r : Route} : check (.obj ms) = .ok r →
      Received (ms.get? serverName).toList r
  | kept {vs : List Json} {r r' : Route} {options : Json} : Received vs r →
      r.update options = .ok r' →
      (∀ ms, options = .obj ms → Members.get? serverName ms = none) → Received vs r'
  | laid {vs : List Json} {r r' : Route} {ms : Members} {v : Json} : Received vs r →
      r.update (.obj ms) = .ok r' → ms.get? serverName = some v → Received (v :: vs) r'

/-- Of an object, this part of a URL is read from the member of this name. -/
def Reads {α : Type} (name : Text) (check : Json → Checked (Option α)) (part : Url → Option α) :
    Prop :=
  ∀ ms u, Url.ofMembers ms = .ok u → Checked.member ms name none check = .ok (part u)

/-- A part of a URL is as checked of the value that stands for it, and without one it is missing or
that of a parsed URL. -/
structure Follows {α : Type} (name : Text) (check : Json → Checked (Option α))
    (part : Url → Option α) (vs : List Json) (u : Url) : Prop where
  named : ∀ v, standing? name vs = some v → check v = .ok (part u)
  unnamed : standing? name vs = none →
    part u = none ∨ ∃ t w, Url.parse t = .ok w ∧ part w = part u

/-- Values the latest of which is no object leave nothing standing. -/
theorem standing?_eq_none {name : Text} {vs : List Json}
    (top : ∀ ms, vs.head? ≠ some (.obj ms)) : standing? name vs = none := by
  cases vs with
  | nil => rfl
  | cons v vs =>
    cases v with
    | obj ms => exact absurd rfl (top ms)
    | _ => rfl

section Parts

variable {α : Type} {name : Text} {check : Json → Checked (Option α)} {part : Url → Option α}
  {vs : List Json} {v : Json} {u w : Url} {r : Route} {ms : Members}

theorem Follows.of_named (stands : standing? name vs = some v) (checked : check v = .ok (part u)) :
    Follows name check part vs u where
  named := by
    intro v' found
    obtain rfl : v = v' := Option.some.inj (stands.symm.trans found)
    exact checked
  unnamed := by
    intro nothing
    rw [stands] at nothing
    cases nothing

theorem Follows.of_unnamed (nothing : standing? name vs = none)
    (source : part u = none ∨ ∃ t w, Url.parse t = .ok w ∧ part w = part u) :
    Follows name check part vs u where
  named := by
    intro v stands
    rw [nothing] at stands
    cases stands
  unnamed := fun _ => source

theorem Reads.empty (reads : Reads name check part) : part .empty = none := by
  have read : Checked.member [] name none check = .ok (part .empty) := reads _ _ rfl
  exact (Except.ok.inj read).symm

/-- What a text or null gives follows, whatever came before. -/
theorem Follows.of_text (reads : Reads name check part) (text : v.IsTextOrNull)
    (found : u = .empty ∨ ∃ t, Url.parse t = .ok u) : Follows name check part (v :: vs) u := by
  have nothing : standing? name (v :: vs) = none := by
    refine standing?_eq_none ?_
    rcases text with rfl | ⟨t, rfl⟩ <;> nofun
  rcases found with rfl | ⟨t, parsed⟩
  · exact .of_unnamed nothing (.inl reads.empty)
  · exact .of_unnamed nothing (.inr ⟨t, u, parsed, rfl⟩)

theorem Follows.of_object (reads : Reads name check part) (read : Url.ofMembers ms = .ok u) :
    Follows name check part [.obj ms] u := by
  have stands : standing? name [.obj ms] = ms.get? name := Option.or_none
  rcases Checked.member_eq_ok_iff.mp (reads ms u read) with ⟨absent, missing⟩ | ⟨v, there, checked⟩
  · exact .of_unnamed (stands.trans absent) (.inl missing)
  · exact .of_named (stands.trans there) checked

/-- An object that is laid over a URL settles the part if it names it, and leaves it if not. -/
theorem Follows.laid (follows : Follows name check part vs u) (once : Members.Distinct ms)
    (reads : Reads name check part) (read : Url.ofMembers (u.members.overlay ms) = .ok w) :
    Follows name check part (.obj ms :: vs) w := by
  have member := reads _ w read
  have stands : standing? name (.obj ms :: vs) = (ms.get? name).or (standing? name vs) := rfl
  have above := Members.get?_overlay u.members ms once name
  cases there : ms.get? name with
  | some v =>
    rw [there, Option.some_or] at stands above
    rcases Checked.member_eq_ok_iff.mp member with ⟨absent, _⟩ | ⟨v', found, checked⟩
    · rw [above] at absent
      cases absent
    · obtain rfl : v = v' := Option.some.inj (above.symm.trans found)
      exact .of_named stands checked
  | none =>
    rw [there, Option.none_or] at stands above
    -- The overlay has the member of the URL below, so both read the same part from it.
    have same : part w = part u := by
      have below := reads _ u (Url.ofMembers_members u)
      unfold Checked.member at member below
      rw [above] at member
      exact Except.ok.inj (member.symm.trans below)
    exact ⟨by rw [stands, same]; exact follows.named, by rw [stands, same]; exact follows.unnamed⟩

/-- Each part of the server of a route follows the values that the route has received. -/
theorem Received.follows (received : Received vs r)
    (once : ∀ ms, .obj ms ∈ vs → Members.Distinct ms) (reads : Reads name check part) :
    Follows name check part vs r.server := by
  induction received with
  | read checked =>
    rcases server_of_ofMembers checked with ⟨absent, empty⟩ | ⟨v, there, server⟩
    · rw [absent, empty]
      exact .of_unnamed rfl (.inl reads.empty)
    · rw [there]
      rcases checkServer_cases server with ⟨text, found⟩ | ⟨ms, rfl, object⟩
      · exact .of_text reads text found
      · exact .of_object reads object
  | kept _ updated unnamed ih =>
    rcases server_of_update updated with ⟨_, same⟩ | ⟨ms, v, given, named, _⟩
    · exact same ▸ ih once
    · rw [unnamed ms given] at named
      cases named
  | laid _ updated named ih =>
    rcases server_of_update updated with ⟨unnamed, _⟩ | ⟨ms, v, given, named', overlaid⟩
    · rw [unnamed _ rfl] at named
      cases named
    · cases given
      obtain rfl := Option.some.inj (named.symm.trans named')
      rcases overlay_cases overlaid with ⟨text, found⟩ | ⟨ms, rfl, object⟩
      · exact .of_text reads text found
      · have below := ih fun ms mem => once ms (List.mem_cons_of_mem _ mem)
        exact below.laid (once ms List.mem_cons_self) reads object

/-- What parsing sees to holds of a part that follows if and only if it holds of what stands. -/
theorem Follows.forall_iff {P : α → Prop} (follows : Follows name check part vs u)
    (parsed : ∀ t w, Url.parse t = .ok w → ∀ a, part w = some a → P a) :
    (∀ a, part u = some a → P a) ↔
      ∀ v a, standing? name vs = some v → check v = .ok (some a) → P a := by
  constructor
  · intro holds v a stands checked
    have same := Except.ok.inj ((follows.named v stands).symm.trans checked)
    exact holds a same
  · intro holds a found
    cases stands : standing? name vs with
    | some v => exact holds v a stands (found ▸ follows.named v stands)
    | none =>
      rcases follows.unnamed stands with missing | ⟨t, w, read, same⟩
      · rw [missing] at found
        cases found
      · exact parsed t w read a (same.trans found)

end Parts

/-! ### Proper servers -/

variable {vs : List Json} {r : Route}

theorem Received.hasProperHost_iff (received : Received vs r)
    (once : ∀ ms, .obj ms ∈ vs → Members.Distinct ms) :
    r.server.HasProperHost ↔
      ∀ host, standing? Url.hostName vs = some (.str host) → Url.IsProperHost host := by
  have follows := received.follows once fun ms u read => (Url.address_of_ofMembers read).1
  refine (follows.forall_iff fun t w parsed => Url.hasProperHost_of_parse parsed).trans ?_
  constructor
  · intro proper host stands
    exact proper _ host stands (Checked.optionalText_eq_some_iff.mpr rfl)
  · intro proper v host stands checked
    rw [Checked.optionalText_eq_some_iff.mp checked] at stands
    exact proper host stands

theorem Received.hasPortInRange_iff (received : Received vs r)
    (once : ∀ ms, .obj ms ∈ vs → Members.Distinct ms) :
    r.server.HasPortInRange ↔
      ∀ v port, standing? Url.portName vs = some v → Checked.integer v = .ok port →
        Url.IsPortNumber port := by
  have follows := received.follows once fun ms u read => (Url.address_of_ofMembers read).2.1
  refine (follows.forall_iff fun t w parsed => Url.hasPortInRange_of_parse parsed).trans ?_
  simp only [Checked.optionalInteger_eq_some_iff]

/-- Any URL can be given by an object, to a route that is read and to one that is updated. -/
theorem server_of_members (r : Route) (u : Url) :
    (∃ r', check (.obj [(serverName, .obj u.members)]) = .ok r' ∧ r'.server = u) ∧
      ∃ r', r.update (.obj [(serverName, .obj u.members)]) = .ok r' ∧ r'.server = u := by
  constructor
  · have read : checkServer (.obj u.members) = .ok u := Url.ofMembers_members u
    have server : Checked.member [(serverName, .obj u.members)] serverName .empty checkServer =
        .ok u := Checked.member_eq_ok_iff.mpr (.inr ⟨_, rfl, read⟩)
    refine ⟨{ server := u }, ?_, rfl⟩
    change ofMembers _ = _
    rw [ofMembers, server]
    rfl
  · have laid := Url.overlay_members r.server u
    refine ⟨{ r with server := u, tunnel := false }, ?_, rfl⟩
    have changed : r.change [(serverName, .obj u.members)] =
        .ok { r with server := u, tunnel := false } := by
      simp only [change, Members.get?, if_pos, laid]
      rfl
    have named : changes [(serverName, .obj u.members)] = true := rfl
    simp only [update, revise, named, if_true, changed]
    rfl

/-- **Servers are as proper as the objects they come from.** The host of a server holds no blank and
is not empty, and its port is in range, if and only if that is so of what the objects received for
it left standing; it is so of every server whose latest value was a text or null. Objects may name
anything: there is no URL that a server cannot be given by one. -/
theorem server_proper_iff (received : Received vs r)
    (once : ∀ ms, .obj ms ∈ vs → Members.Distinct ms) :
    (r.server.HasProperHost ↔
      ∀ host, standing? Url.hostName vs = some (.str host) → Url.IsProperHost host) ∧
    (r.server.HasPortInRange ↔
      ∀ v port, standing? Url.portName vs = some v → Checked.integer v = .ok port →
        Url.IsPortNumber port) ∧
    ((∀ ms, vs.head? ≠ some (.obj ms)) → r.server.HasProperHost ∧ r.server.HasPortInRange) ∧
    ∀ u : Url,
      (∃ r', check (.obj [(serverName, .obj u.members)]) = .ok r' ∧ r'.server = u) ∧
        ∃ r', r.update (.obj [(serverName, .obj u.members)]) = .ok r' ∧ r'.server = u := by
  have host := received.hasProperHost_iff once
  have port := received.hasPortInRange_iff once
  refine ⟨host, port, fun top => ⟨host.mpr ?_, port.mpr ?_⟩, server_of_members r⟩
  · intro _ stands
    rw [standing?_eq_none top] at stands
    cases stands
  · intro _ _ stands
    rw [standing?_eq_none top] at stands
    cases stands

/-- A server that was given as a text, and then a blank in its host and a port out of range. -/
theorem server_proper_iff_overlaid :
    let vs : List Json := [
      .obj [(Url.hostName, .str "a b".toText), (Url.portName, .int 70000)],
      .str "http://h:80".toText]
    ∃ r, Received vs r ∧ (∀ ms, .obj ms ∈ vs → Members.Distinct ms) ∧
      ¬ r.server.HasProperHost ∧ ¬ r.server.HasPortInRange := by
  intro vs
  let before : Route := { server := {
    protocol := some "http".toText, host := some [char 'h'], port := some 80,
    portText := some "80".toText } }
  let after : Route := { server := {
    protocol := some "http".toText, host := some "a b".toText, port := some 70000,
    portText := some "80".toText } }
  have start : check (.obj [(serverName, .str "http://h:80".toText)]) = .ok before := rfl
  have updated : before.update (.obj [(serverName, .obj [
      (Url.hostName, .str "a b".toText), (Url.portName, .int 70000)])]) = .ok after := rfl
  have received : Received vs after := .laid (.read start) updated rfl
  have once : ∀ ms, .obj ms ∈ vs → Members.Distinct ms := by
    intro ms mem
    simp only [vs, List.mem_cons, Json.obj.injEq, reduceCtorEq, List.not_mem_nil, or_false] at mem
    simp [mem, Members.Distinct, Url.hostName, Url.portName, String.toText]
  obtain ⟨host, port, _⟩ := server_proper_iff received once
  refine ⟨after, received, once, fun proper => ?_, fun inRange => ?_⟩
  · have blankless := (host.mp proper _ rfl).2 ' ' (by decide)
    exact absurd blankless (by decide)
  · have below := (port.mp inRange _ 70000 rfl rfl).2
    exact absurd below (by decide)

end Route

end ProxySelection
