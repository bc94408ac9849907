import ProxySelection.Route.Basic
import ProxySelection.Proofs.Url.Parsed

/-!
Servers that were given as texts.

The server of a route may be given as a text, as an object, or not at all. One that was given
as a text, as null or not at all (`Route.ServerIsText`) is empty or a parsed URL, so it can
always be shown: `ServerIsText.redacted`. A route has such a server if it is read from an
object whose server is one (`serverIsText_of_check`), and keeps having one when it is updated
by options whose server is one (`ServerIsText.update`).

Where a server comes from is told apart by `checkServer_cases` for a route that is read, and by
`server_of_update` and `overlay_cases` for one that is updated.
-/

namespace ProxySelection

/-- Null or a text. -/
def Json.IsTextOrNull (v : Json) : Prop := v = .null ∨ ∃ t, v = .str t

namespace Route

/-- The server of a route is what a text or null gives. -/
def ServerIsText (r : Route) : Prop := ∃ v, v.IsTextOrNull ∧ checkServer v = .ok r.server

theorem serverIsText_empty {r : Route} (h : r.server = .empty) : r.ServerIsText :=
  ⟨.null, .inl rfl, by rw [h, checkServer]⟩

theorem checkServer_of_parse {c : CodePoint} {t : Text} {u : Url}
    (parsed : Url.parse (c :: t) = .ok u) : checkServer (.str (c :: t)) = .ok u := by
  change Url.check (.str (c :: t)) = .ok u
  simp only [Url.check, parsed]

/-- A text that is not empty is parsed. -/
theorem parse_of_checkServer {c : CodePoint} {t : Text} {u : Url}
    (read : checkServer (.str (c :: t)) = .ok u) : Url.parse (c :: t) = .ok u := by
  cases parsed : Url.parse (c :: t) with
  | ok w =>
    rw [checkServer_of_parse parsed] at read
    cases read
    rfl
  | error fault =>
    change Url.check (.str (c :: t)) = .ok u at read
    simp only [Url.check, parsed] at read
    cases read

/-- The server that a text gives. -/
theorem checkServer_text_iff {t : Text} {u : Url} :
    checkServer (.str t) = .ok u ↔ t = [] ∧ u = .empty ∨ Url.parse t = .ok u := by
  cases t with
  | nil =>
    have blank : Url.parse [] ≠ .ok u := by
      intro parsed
      cases parsed
    simp only [checkServer, Except.ok.injEq, true_and, blank, or_false]
    exact eq_comm
  | cons c t =>
    constructor
    · intro read
      exact .inr (parse_of_checkServer read)
    · rintro (⟨empty, _⟩ | parsed)
      · cases empty
      · exact checkServer_of_parse parsed

/-- A server comes from an object, or from a text or null and then is empty or parsed. -/
theorem checkServer_cases {u : Url} {v : Json} (read : checkServer v = .ok u) :
    v.IsTextOrNull ∧ (u = .empty ∨ ∃ t, Url.parse t = .ok u) ∨
      ∃ ms, v = .obj ms ∧ Url.ofMembers ms = .ok u := by
  cases v with
  | null => exact .inl ⟨.inl rfl, .inl (Except.ok.inj read).symm⟩
  | str t =>
    rcases checkServer_text_iff.mp read with ⟨_, empty⟩ | parsed
    · exact .inl ⟨.inr ⟨t, rfl⟩, .inl empty⟩
    · exact .inl ⟨.inr ⟨t, rfl⟩, .inr ⟨t, parsed⟩⟩
  | obj ms => exact .inr ⟨ms, rfl, read⟩
  | _ => cases read

theorem ServerIsText.cases {r : Route} (h : r.ServerIsText) :
    r.server = .empty ∨ ∃ t, Url.parse t = .ok r.server := by
  obtain ⟨v, text, read⟩ := h
  rcases checkServer_cases read with ⟨_, cases⟩ | ⟨ms, rfl, _⟩
  · exact cases
  · rcases text with null | ⟨_, text⟩
    · cases null
    · cases text

theorem ServerIsText.remote {r : Route} (h : r.ServerIsText) :
    ∃ remote, r.server.remote = .ok remote := by
  rcases h.cases with empty | ⟨t, parsed⟩
  · exact ⟨[], by rw [empty]; rfl⟩
  · obtain ⟨_, _, shown⟩ := Url.remote_of_parse parsed
    exact ⟨_, shown⟩

/-- A server that was given as a text can be shown with its password masked. -/
theorem ServerIsText.redacted {r : Route} (h : r.ServerIsText) :
    ∃ server, r.server.redacted = .ok server := by
  obtain ⟨_, shown⟩ := h.remote
  exact Url.renderWith_of_remote shown (some Url.mask)

/-! ### Where such servers come from -/

/-- The server of a route that is read is what its member gives, or empty without one. -/
theorem server_of_ofMembers {ms : Members} {r : Route} (read : ofMembers ms = .ok r) :
    ms.get? serverName = none ∧ r.server = .empty ∨
      ∃ v, ms.get? serverName = some v ∧ checkServer v = .ok r.server := by
  obtain ⟨_, _, toTunnel, _, rfl⟩ := Checked.also_eq_ok_iff.mp read
  obtain ⟨_, _, toServer, _, rfl⟩ := Checked.also_eq_ok_iff.mp toTunnel
  obtain ⟨_, _, toPattern, server, rfl⟩ := Checked.also_eq_ok_iff.mp toServer
  obtain ⟨_, _, start, _, rfl⟩ := Checked.also_eq_ok_iff.mp toPattern
  cases start
  exact Checked.member_eq_ok_iff.mp server

theorem serverIsText_of_check {ms : Members} {r : Route} (read : check (.obj ms) = .ok r)
    (given : ∀ v, ms.get? serverName = some v → v.IsTextOrNull) : r.ServerIsText := by
  rcases server_of_ofMembers read with ⟨_, empty⟩ | ⟨v, there, server⟩
  · exact serverIsText_empty empty
  · exact ⟨v, given v there, server⟩

/-- An overlay by a text or null gives what it gives as a server of its own. -/
theorem checkServer_of_overlay {u w : Url} {v : Json} (given : v.IsTextOrNull)
    (laid : u.overlay v = .ok w) : checkServer v = .ok w := by
  rcases given with rfl | ⟨t, rfl⟩
  · cases laid
    rfl
  · cases t with
    | nil =>
      cases laid
      rfl
    | cons c t =>
      cases parsed : Url.parse (c :: t) with
      | ok w' =>
        simp only [Url.overlay, parsed] at laid
        cases laid
        exact checkServer_of_parse parsed
      | error fault =>
        simp only [Url.overlay, parsed] at laid
        cases laid

/-- What lies over a server comes from an object, or from a text or null as it would alone. -/
theorem overlay_cases {u w : Url} {v : Json} (laid : u.overlay v = .ok w) :
    v.IsTextOrNull ∧ (w = .empty ∨ ∃ t, Url.parse t = .ok w) ∨
      ∃ ms, v = .obj ms ∧ Url.ofMembers (u.members.overlay ms) = .ok w := by
  cases v with
  | null => exact .inl ⟨.inl rfl, .inl (Except.ok.inj laid).symm⟩
  | str t =>
    have text : (Json.str t).IsTextOrNull := .inr ⟨t, rfl⟩
    rcases checkServer_cases (checkServer_of_overlay text laid) with found | ⟨_, same, _⟩
    · exact .inl found
    · cases same
  | obj ms =>
    cases read : Url.ofMembers (u.members.overlay ms) with
    | ok w' =>
      simp only [Url.overlay, read] at laid
      cases laid
      exact .inr ⟨ms, rfl, read⟩
    | error issues =>
      simp only [Url.overlay, read] at laid
      cases laid
  | _ => cases laid

/-- A change keeps the server or lays what the options give over it. -/
theorem server_of_change {r r' : Route} {options : Members} (changed : r.change options = .ok r') :
    options.get? serverName = none ∧ r'.server = r.server ∨
      ∃ v, options.get? serverName = some v ∧ r.server.overlay v = .ok r'.server := by
  unfold change at changed
  cases named : options.get? serverName with
  | none =>
    rw [named] at changed
    cases changed
    exact .inl ⟨rfl, rfl⟩
  | some v =>
    cases laid : r.server.overlay v with
    | error fault =>
      simp only [named, laid] at changed
      cases changed
    | ok w =>
      simp only [named, laid] at changed
      cases changed
      exact .inr ⟨v, rfl, laid⟩

/-- An update is a change by the options of an object, or none where they name nothing. -/
theorem update_cases {r r' : Route} {options : Json} (updated : r.update options = .ok r') :
    r' = r ∧ (∀ ms, options = .obj ms → changes ms = false) ∨
      ∃ ms, options = .obj ms ∧ r.change ms = .ok r' := by
  cases options with
  | obj ms =>
    unfold Route.update revise at updated
    cases named : changes ms with
    | false =>
      simp only [named] at updated
      cases updated
      refine .inl ⟨rfl, ?_⟩
      rintro _ ⟨⟩
      exact named
    | true =>
      cases changed : r.change ms with
      | error fault =>
        simp only [named, changed] at updated
        cases updated
      | ok new =>
        simp only [named, changed] at updated
        cases updated
        exact .inr ⟨ms, rfl, changed⟩
  | _ =>
    cases updated
    exact .inl ⟨rfl, nofun⟩

/-- An update keeps the server, without one in the options, or lays that one over it. -/
theorem server_of_update {r r' : Route} {options : Json} (updated : r.update options = .ok r') :
    (∀ ms, options = .obj ms → Members.get? serverName ms = none) ∧ r'.server = r.server ∨
      ∃ ms v, options = .obj ms ∧ Members.get? serverName ms = some v ∧
        r.server.overlay v = .ok r'.server := by
  rcases update_cases updated with ⟨rfl, unnamed⟩ | ⟨ms, rfl, changed⟩
  · refine .inl ⟨fun ms given => ?_, rfl⟩
    have nothing := unnamed ms given
    simp only [changes, Bool.or_eq_false_iff, Option.isSome_eq_false_iff,
      Option.isNone_iff_eq_none] at nothing
    exact nothing.1.1
  · rcases server_of_change changed with ⟨absent, same⟩ | ⟨v, named, laid⟩
    · refine .inl ⟨?_, same⟩
      rintro _ ⟨⟩
      exact absent
    · exact .inr ⟨ms, v, rfl, named, laid⟩

/-- An update fails only where the server that the options name cannot be laid over the one
before. -/
theorem overlay_of_update_error {r : Route} {options : Json} {fault : Url.OverlayFault}
    (failed : r.update options = .error fault) :
    ∃ ms v, options = .obj ms ∧ Members.get? serverName ms = some v ∧
      r.server.overlay v = .error fault := by
  cases options with
  | obj ms =>
    unfold Route.update revise at failed
    cases named : changes ms with
    | false =>
      simp only [named] at failed
      cases failed
    | true =>
      cases server : Members.get? serverName ms with
      | none =>
        simp only [named, change, server] at failed
        cases failed
      | some v =>
        cases laid : r.server.overlay v with
        | ok w =>
          simp only [named, change, server, laid] at failed
          cases failed
        | error fault' =>
          simp only [named, change, server, laid] at failed
          cases failed
          exact ⟨ms, v, rfl, server, laid⟩
  | _ => cases failed

theorem ServerIsText.update {r r' : Route} {options : Json} (h : r.ServerIsText)
    (updated : r.update options = .ok r')
    (given : ∀ ms v, options = .obj ms → Members.get? serverName ms = some v → v.IsTextOrNull) :
    r'.ServerIsText := by
  rcases server_of_update updated with ⟨_, same⟩ | ⟨ms, v, rfl, named, laid⟩
  · obtain ⟨v, text, read⟩ := h
    exact ⟨v, text, same ▸ read⟩
  · have text := given ms v rfl named
    exact ⟨v, text, checkServer_of_overlay text laid⟩

/-- The routes that are read from objects whose servers are `given`, and those that come of them
by updates whose servers are `laid` over the ones before. -/
inductive Made (given laid : Json → Prop) : Route → Prop where
  | read {ms : Members} {r : Route} : check (.obj ms) = .ok r →
      (∀ v, ms.get? serverName = some v → given v) → Made given laid r
  | updated {r r' : Route} {options : Json} : Made given laid r → r.update options = .ok r' →
      (∀ ms v, options = .obj ms → Members.get? serverName ms = some v → laid v) →
      Made given laid r'

theorem Made.serverIsText {r : Route} (h : r.Made Json.IsTextOrNull Json.IsTextOrNull) :
    r.ServerIsText := by
  induction h with
  | read read given => exact serverIsText_of_check read given
  | updated _ updated laid ih => exact ih.update updated laid

end Route

end ProxySelection
