import ProxySelection.Proofs.Route.Server
import ProxySelection.Proofs.Url.Overlay

/-!
Updates of a route, one after the other.

`Becomes` says what options make of a route, part by part, and each part goes by a rule of its own.
The pattern is replaced by a text and the mark of disabled routes by a truth value; the server is
laid over the one before; and the tunnel follows the server, so that it is asked for only where a
server is named. An update that succeeds is exactly this (`update_eq_ok_iff`).

None of the rules looks at a part that the options do not name, and none makes anything else of what
it has made before. So an update that is made again changes nothing, updates that name different
members can be made in either order, and a tunnel that is asked for apart from its server is asked
for in vain (`update_laws`). Names that repeat in an object do no harm: it is laid over a URL as the
object in which each name has its last value (`Url.overlay_collected`).
-/

namespace ProxySelection

namespace Members

variable {a b : Members}

/-- No name is in both objects. -/
def Apart (a b : Members) : Prop := ∀ name, a.get? name = none ∨ b.get? name = none

theorem Apart.symm (h : a.Apart b) : b.Apart a := fun name => (h name).symm

/-- Where a name repeats in the upper object, its last value counts. -/
theorem get?_overlay_reverse (base top : Members) (name : Text) :
    (base.overlay top).get? name = (Members.get? name top.reverse).or (base.get? name) := by
  induction top using List.reverseRecOn with
  | nil => rfl
  | append_singleton top m ih =>
    have step : base.overlay (top ++ [m]) = (base.overlay top).put m.1 m.2 :=
      List.foldl_concat ..
    have last : (top ++ [m]).reverse = m :: top.reverse := by simp
    rw [step, get?_put, last, ih, get?]
    split <;> rfl

/-- The members of an object, each name once and with its last value. -/
def collected (a : Members) : Members := Members.overlay [] a

theorem distinct_collected (a : Members) : a.collected.Distinct := by
  have nothing : Distinct [] := List.nodup_nil
  exact nothing.overlay a

/-- Written over others, an object is what is collected of it. -/
theorem get?_overlay_collected (base a : Members) (name : Text) :
    (base.overlay a.collected).get? name = (base.overlay a).get? name := by
  rw [get?_overlay base _ a.distinct_collected, collected, get?_overlay_reverse,
    get?_overlay_reverse]
  simp

end Members

/-- The value is an object with a member of the name. -/
def Json.Names (v : Json) (name : Text) : Prop :=
  ∃ ms w, v = .obj ms ∧ Members.get? name ms = some w

namespace Url

variable {u w : Url} {v : Json} {a : Members}

/-- An object is laid over a URL as the one that is collected of it. -/
theorem overlay_collected : u.overlay (.obj a.collected) = .ok w ↔ u.overlay (.obj a) = .ok w := by
  rw [overlay_obj_eq_ok_iff, overlay_obj_eq_ok_iff, ofMembers_iff_settles, ofMembers_iff_settles]
  unfold Part.Settles
  simp only [Members.get?_overlay_collected]

/-- What was laid over a URL changes nothing more, also if names repeat in it. -/
theorem overlay_stays (laid : u.overlay v = .ok w) : w.overlay v = .ok w := by
  cases v with
  | obj a =>
    rw [← overlay_collected] at laid ⊢
    refine overlay_again ?_ laid
    rintro _ ⟨⟩
    exact Members.distinct_collected a
  | _ => exact overlay_again nofun laid

end Url

namespace Route

variable {r r' r₁ r₂ : Route} {a b ms : Members} {options : Json}

/-! ### What options make of a route -/

/-- `r.Becomes ms r'`: what the members `ms` make of the route `r` is `r'`. -/
structure Becomes (r : Route) (ms : Members) (r' : Route) : Prop where
  pattern : r'.pattern = (textMember? ms patternName).getD r.pattern
  disabled : r'.disabled = (boolMember? ms disabledName).getD r.disabled
  /-- The tunnel follows the server. -/
  server : ms.get? serverName = none ∧ r'.server = r.server ∧ r'.tunnel = r.tunnel ∨
    ∃ v, ms.get? serverName = some v ∧ r.server.overlay v = .ok r'.server ∧
      r'.tunnel = (boolMember? ms tunnelName).getD false

theorem change_eq_ok_iff : r.change ms = .ok r' ↔ r.Becomes ms r' := by
  constructor
  · intro changed
    unfold change at changed
    cases named : ms.get? serverName with
    | none =>
      rw [named] at changed
      cases changed
      exact ⟨rfl, rfl, .inl ⟨named, rfl, rfl⟩⟩
    | some v =>
      cases laid : r.server.overlay v with
      | error fault =>
        simp only [named, laid] at changed
        cases changed
      | ok w =>
        simp only [named, laid] at changed
        cases changed
        exact ⟨rfl, rfl, .inr ⟨v, named, laid, rfl⟩⟩
  · intro becomes
    obtain ⟨pattern', server', tunnel', disabled'⟩ := r'
    obtain ⟨rfl, rfl, ⟨unnamed, rfl, rfl⟩ | ⟨v, named, laid, rfl⟩⟩ := becomes
    · simp only [change, unnamed]
      rfl
    · simp only [change, named, laid]
      rfl

/-- Options that name nothing make of a route what it is. -/
theorem becomes_of_unnamed (unnamed : changes ms = false) : r.Becomes ms r := by
  simp only [changes, Bool.or_eq_false_iff, Option.isSome_eq_false_iff,
    Option.isNone_iff_eq_none] at unnamed
  obtain ⟨⟨server, pattern⟩, disabled⟩ := unnamed
  exact ⟨by rw [pattern]; rfl, by rw [disabled]; rfl, .inl ⟨server, rfl, rfl⟩⟩

theorem update_obj (r : Route) (ms : Members) : r.update (.obj ms) = r.change ms := by
  cases named : changes ms with
  | false =>
    rw [change_eq_ok_iff.mpr (becomes_of_unnamed named)]
    simp only [Route.update, revise, named]
    rfl
  | true =>
    simp only [Route.update, revise, named, if_true]
    cases r.change ms <;> rfl

/-- An update makes of a route what the members of the options do, and what is no object names
nothing. -/
theorem update_eq_ok_iff : r.update options = .ok r' ↔
    (∃ ms, options = .obj ms ∧ r.Becomes ms r') ∨ (∀ ms, options ≠ .obj ms) ∧ r' = r := by
  cases options with
  | obj ms => simp [update_obj, change_eq_ok_iff]
  | _ => simp [Route.update, revise, Except.map, eq_comm]

/-! ### The same members again -/

theorem getD_getD {α : Type} (x : Option α) (d : α) : x.getD (x.getD d) = x.getD d := by
  cases x <;> rfl

theorem Becomes.again (h : r.Becomes ms r') : r'.Becomes ms r' := by
  obtain ⟨pattern, disabled, server⟩ := h
  refine ⟨?_, ?_, ?_⟩
  · rw [pattern, getD_getD]
  · rw [disabled, getD_getD]
  · rcases server with ⟨unnamed, _, _⟩ | ⟨v, named, laid, tunnel⟩
    · exact .inl ⟨unnamed, rfl, rfl⟩
    · exact .inr ⟨v, named, Url.overlay_stays laid, tunnel⟩

/-! ### Members apart -/

theorem textMember?_eq_none {name : Text} (unnamed : ms.get? name = none) :
    textMember? ms name = none := by
  rw [textMember?, unnamed]

theorem boolMember?_eq_none {name : Text} (unnamed : ms.get? name = none) :
    boolMember? ms name = none := by
  rw [boolMember?, unnamed]

theorem getD_comm {α : Type} {x y : Option α} (apart : x = none ∨ y = none) (d : α) :
    y.getD (x.getD d) = x.getD (y.getD d) := by
  rcases apart with rfl | rfl <;> rfl

/-- Where the first members name no server, the server and its tunnel are those that the second
ones make, before the first and after them. -/
theorem Becomes.meet_of_serverless (first : r.Becomes a r₁) (second : r.Becomes b r₂)
    (apart : a.Apart b) (serverless : a.get? serverName = none) :
    ∃ r', r₁.Becomes b r' ∧ r₂.Becomes a r' := by
  refine ⟨{
    pattern := (textMember? b patternName).getD r₁.pattern
    server := r₂.server
    tunnel := r₂.tunnel
    disabled := (boolMember? b disabledName).getD r₁.disabled }, ⟨rfl, rfl, ?_⟩, ?_, ?_, ?_⟩
  · rcases first.server with ⟨_, server, tunnel⟩ | ⟨_, named, _⟩
    · rw [server, tunnel]
      exact second.server
    · rw [serverless] at named
      cases named
  · rw [first.pattern, second.pattern]
    exact getD_comm ((apart patternName).imp textMember?_eq_none textMember?_eq_none) _
  · rw [first.disabled, second.disabled]
    exact getD_comm ((apart disabledName).imp boolMember?_eq_none boolMember?_eq_none) _
  · exact .inl ⟨serverless, rfl, rfl⟩

theorem Becomes.meet (first : r.Becomes a r₁) (second : r.Becomes b r₂) (apart : a.Apart b) :
    ∃ r', r₁.Becomes b r' ∧ r₂.Becomes a r' := by
  rcases apart serverName with serverless | serverless
  · exact first.meet_of_serverless second apart serverless
  · obtain ⟨r', after, before⟩ := second.meet_of_serverless first apart.symm serverless
    exact ⟨r', before, after⟩

/-- A tunnel is asked for in vain where the server is not named. -/
theorem Becomes.tunnel_of_apart {v w : Json} (h : r.Becomes b r')
    (named : b.get? serverName = some v) (apart : a.Apart b) (asked : a.get? tunnelName = some w) :
    r'.tunnel = false := by
  have unasked : b.get? tunnelName = none := by
    rcases apart tunnelName with unasked | unasked
    · rw [asked] at unasked
      cases unasked
    · exact unasked
  rcases h.server with ⟨unnamed, _⟩ | ⟨_, _, _, tunnel⟩
  · rw [named] at unnamed
    cases unnamed
  · rw [tunnel, boolMember?_eq_none unasked]
    rfl

/-! ### What is not named -/

/-- What options do not name stays. -/
theorem Becomes.stays (h : r.Becomes ms r') :
    (ms.get? serverName = none → r'.server = r.server ∧ r'.tunnel = r.tunnel) ∧
    (ms.get? patternName = none → r'.pattern = r.pattern) ∧
    (ms.get? disabledName = none → r'.disabled = r.disabled) := by
  refine ⟨fun unnamed => ?_, fun unnamed => ?_, fun unnamed => ?_⟩
  · rcases h.server with ⟨_, same⟩ | ⟨v, named, _⟩
    · exact same
    · rw [unnamed] at named
      cases named
  · rw [h.pattern, textMember?_eq_none unnamed]
    rfl
  · rw [h.disabled, boolMember?_eq_none unnamed]
    rfl

theorem stays_of_update (updated : r.update options = .ok r') :
    (¬ options.Names serverName → r'.server = r.server ∧ r'.tunnel = r.tunnel) ∧
    (¬ options.Names patternName → r'.pattern = r.pattern) ∧
    (¬ options.Names disabledName → r'.disabled = r.disabled) := by
  rcases update_eq_ok_iff.mp updated with ⟨ms, rfl, becomes⟩ | ⟨_, rfl⟩
  · have unnamed {name : Text} (without : ¬ (Json.obj ms).Names name) :
        Members.get? name ms = none :=
      Option.eq_none_iff_forall_ne_some.mpr fun v named => without ⟨ms, v, rfl, named⟩
    obtain ⟨server, pattern, disabled⟩ := becomes.stays
    exact ⟨server ∘ unnamed, pattern ∘ unnamed, disabled ∘ unnamed⟩
  · exact ⟨fun _ => ⟨rfl, rfl⟩, fun _ => rfl, fun _ => rfl⟩

/-! ### Laws -/

/-- **The laws of updates.** An update that succeeded succeeds again and changes nothing then. It
changes only parts that the options name, where the tunnel goes with the server. Two objects without
a common name that both update a route do so one after the other too, with the same route in either
order; if one of them names a server and the other one asks for a tunnel, it has none. -/
theorem update_laws (r : Route) :
    (∀ options r', r.update options = .ok r' →
      r'.update options = .ok r' ∧
      (r'.tunnel ≠ r.tunnel → options.Names serverName) ∧
      (r'.server ≠ r.server → options.Names serverName) ∧
      (r'.pattern ≠ r.pattern → options.Names patternName) ∧
      (r'.disabled ≠ r.disabled → options.Names disabledName)) ∧
    ∀ (a b : Members) (r₁ r₂ : Route), a.Apart b → r.update (.obj a) = .ok r₁ →
      r.update (.obj b) = .ok r₂ →
      ∃ r', r₁.update (.obj b) = .ok r' ∧ r₂.update (.obj a) = .ok r' ∧
        ∀ v w, b.get? serverName = some v → a.get? tunnelName = some w → r'.tunnel = false := by
  constructor
  · intro options r' updated
    obtain ⟨server, pattern, disabled⟩ := stays_of_update updated
    refine ⟨?_, fun other => ?_, fun other => ?_, not_imp_comm.mp pattern,
      not_imp_comm.mp disabled⟩
    · rcases update_eq_ok_iff.mp updated with ⟨ms, rfl, becomes⟩ | ⟨noObject, _⟩
      · exact update_eq_ok_iff.mpr (.inl ⟨ms, rfl, becomes.again⟩)
      · exact update_eq_ok_iff.mpr (.inr ⟨noObject, rfl⟩)
    · by_contra unnamed
      exact other (server unnamed).2
    · by_contra unnamed
      exact other (server unnamed).1
  · intro a b r₁ r₂ apart first second
    rw [update_obj, change_eq_ok_iff] at first second
    obtain ⟨r', after, before⟩ := first.meet second apart
    refine ⟨r', ?_, ?_, fun v w named asked => after.tunnel_of_apart named apart asked⟩
    · rw [update_obj, change_eq_ok_iff]
      exact after
    · rw [update_obj, change_eq_ok_iff]
      exact before

/-- A tunnel is asked for apart from the server. The server is an object in which the port repeats,
first as no port at all. -/
theorem update_laws_of_port :
    let r : Route := { server := { host := some [char 'h'], portText := some "80".toText } }
    let a : Members := [(tunnelName, .bool true), (disabledName, .bool true), (patternName, .int 7)]
    let b : Members := [(serverName, .obj [
      (Url.portName, .arr []), (Url.usernameName, .str [char 'u']),
      (Url.portName, .str "+8_1.0".toText)])]
    let r₁ : Route := { r with disabled := true }
    let r₂ : Route := { r with
      server := { r.server with username := some [char 'u'], port := some 81 } }
    r.update (.obj b) = .ok r₂ ∧ r₂.update (.obj b) = .ok r₂ ∧
      r₁.update (.obj b) = .ok { r₂ with disabled := true } ∧
      r₂.update (.obj a) = .ok { r₂ with disabled := true } ∧ r₂.tunnel = false := by
  intro r a b r₁ r₂
  obtain ⟨laws, swaps⟩ := update_laws r
  have first : r.update (.obj a) = .ok r₁ := rfl
  have second : r.update (.obj b) = .ok r₂ := rfl
  have apart : a.Apart b := by
    intro name
    by_cases named : serverName = name
    · subst named
      exact .inl rfl
    · exact .inr (if_neg named)
  obtain ⟨r', after, before, vain⟩ := swaps a b r₁ r₂ apart first second
  have known : r₂.update (.obj a) = .ok { r₂ with disabled := true } := rfl
  obtain rfl := Except.ok.inj (known.symm.trans before)
  exact ⟨second, (laws _ _ second).1, after, before, vain _ _ rfl rfl⟩

end Route

end ProxySelection
