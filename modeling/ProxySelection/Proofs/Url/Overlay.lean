import ProxySelection.Url.Member
import ProxySelection.Proofs.Number.Decimal

/-!
Overlays, part by part.

A URL is its seven parts, each of which is a member of it as an object (`Url.Part`). An object is
read part by part, and so it is laid over a URL: what it names is as checked, whatever the URL was,
and what it does not name stays (`Part.Settles`, `overlay_obj_iff`). Other members do not count. A
value that was checked once passes as it is (`Part.check_part`), so what is settled by one overlay
is not touched by the next one unless that names it again.

From this the laws follow for each part by itself: nothing is changed by the empty object, two
overlays in a row are one by both objects together, and an overlay that was laid once changes
nothing when it is laid again (`overlay_laws`). What cannot be laid over a URL is refused, provided
that the refusal can be worded (`overlay_ne_unshowable`).
-/

namespace ProxySelection

namespace Members

variable {base ms : Members} {name : Text} {v : Json}

theorem names_put : (ms.put name v).map (·.1) =
    if name ∈ ms.map (·.1) then ms.map (·.1) else ms.map (·.1) ++ [name] := by
  induction ms with
  | nil => rfl
  | cons m ms ih =>
    obtain ⟨n, w⟩ := m
    by_cases same : n = name
    · simp [put, same]
    · simp only [put, if_neg same, List.map_cons, ih, List.mem_cons, Ne.symm same, false_or]
      split <;> simp

theorem Distinct.put (distinct : ms.Distinct) (name : Text) (v : Json) :
    (ms.put name v).Distinct := by
  unfold Distinct
  rw [names_put]
  split
  · exact distinct
  · rename_i missing
    refine List.nodup_append.mpr ⟨distinct, by simp, ?_⟩
    rintro n there _ mem rfl
    exact missing (List.mem_singleton.mp mem ▸ there)

/-- An object has each name once whatever is written over it. -/
theorem Distinct.overlay (distinct : base.Distinct) (top : Members) :
    (base.overlay top).Distinct := by
  induction top generalizing base with
  | nil => exact distinct
  | cons m top ih => exact ih (distinct.put m.1 m.2)

end Members

namespace Json

theorem ofText?_injective : Function.Injective ofText? := by
  rintro (_ | s) (_ | t) same <;> simp_all [ofText?]

theorem ofInt?_injective : Function.Injective ofInt? := by
  rintro (_ | m) (_ | n) same <;> simp_all [ofInt?]

end Json

namespace Checked

variable {α β : Type}

theorem map_eq_ok_iff {f : α → β} (inj : Function.Injective f) {x : Checked α} {a : α} :
    x.map f = .ok (f a) ↔ x = .ok a := by
  cases x <;> simp [Except.map, inj.eq_iff]

/-- What is checked can be renamed before a member is looked up or behind that. -/
theorem member_map {ms : Members} {name : Text} {absent : α}
    {check : Json → Checked α} (f : α → β) :
    member ms name (f absent) (fun v => (check v).map f) = (member ms name absent check).map f := by
  unfold member
  cases ms.get? name with
  | none => rfl
  | some v => cases checked : check v <;> simp [under, Except.map, checked]

end Checked

namespace Url

/-! ### Parts -/

/-- The parts of a URL. -/
inductive Part where
  | protocol
  | username
  | password
  | host
  | port
  | path
  | portText
  deriving DecidableEq

/-- The name of the member that a part is. -/
def Part.name : Part → Text
  | .protocol => protocolName
  | .username => usernameName
  | .password => passwordName
  | .host => hostName
  | .port => portName
  | .path => pathName
  | .portText => portTextName

/-- What a value that is given for a part is checked to. -/
def Part.check : Part → Json → Checked Json
  | .port, v => (Checked.optionalInteger v).map Json.ofInt?
  | .path, v => (Checked.text v).map Json.str
  | _, v => (Checked.optionalText v).map Json.ofText?

/-- A part of a URL, as the value of its member. -/
def part (u : Url) : Part → Json
  | .protocol => .ofText? u.protocol
  | .username => .ofText? u.username
  | .password => .ofText? u.password
  | .host => .ofText? u.host
  | .port => .ofInt? u.port
  | .path => .str u.path
  | .portText => .ofText? u.portText

variable {u w x : Url} {a b ms : Members} {v : Json}

theorem get?_members (u : Url) (p : Part) : u.members.get? p.name = some (u.part p) := by
  cases p <;> rfl

/-- A value that was checked passes as it is. -/
theorem Part.check_part (p : Part) (u : Url) : p.check (u.part p) = .ok (u.part p) := by
  have text (t : Option Text) :
      (Checked.optionalText (Json.ofText? t)).map Json.ofText? = .ok (Json.ofText? t) := by
    cases t <;> rfl
  have integer (n : Option Int) :
      (Checked.optionalInteger (Json.ofInt? n)).map Json.ofInt? = .ok (Json.ofInt? n) := by
    cases n <;> rfl
  cases p with
  | port => exact integer u.port
  | path => rfl
  | _ => exact text _

/-! ### Reading members -/

theorem ofMembers_eq_ok_iff_members : ofMembers ms = .ok u ↔
    Checked.member ms protocolName none .optionalText = .ok u.protocol ∧
    Checked.member ms usernameName none .optionalText = .ok u.username ∧
    Checked.member ms passwordName none .optionalText = .ok u.password ∧
    Checked.member ms hostName none .optionalText = .ok u.host ∧
    Checked.member ms portName none .optionalInteger = .ok u.port ∧
    Checked.member ms pathName [char '/'] .text = .ok u.path ∧
    Checked.member ms portTextName none .optionalText = .ok u.portText := by
  constructor
  · intro read
    obtain ⟨_, _, toPath, portText, rfl⟩ := Checked.also_eq_ok_iff.mp read
    obtain ⟨_, _, toPort, path, rfl⟩ := Checked.also_eq_ok_iff.mp toPath
    obtain ⟨_, _, toHost, port, rfl⟩ := Checked.also_eq_ok_iff.mp toPort
    obtain ⟨_, _, toPassword, host, rfl⟩ := Checked.also_eq_ok_iff.mp toHost
    obtain ⟨_, _, toUsername, password, rfl⟩ := Checked.also_eq_ok_iff.mp toPassword
    obtain ⟨_, _, toProtocol, username, rfl⟩ := Checked.also_eq_ok_iff.mp toUsername
    obtain ⟨_, _, start, protocol, rfl⟩ := Checked.also_eq_ok_iff.mp toProtocol
    cases start
    exact ⟨protocol, username, password, host, port, path, portText⟩
  · rintro ⟨protocol, username, password, host, port, path, portText⟩
    rw [ofMembers, protocol, username, password, host, port, path, portText]
    rfl

/-- An object is read part by part; what it does not name is as in the empty URL. -/
theorem ofMembers_eq_ok_iff :
    ofMembers ms = .ok u ↔
      ∀ p : Part, Checked.member ms p.name (empty.part p) p.check = .ok (u.part p) := by
  have text {name : Text} {t : Option Text} :
      Checked.member ms name (Json.ofText? none)
          (fun v => (Checked.optionalText v).map Json.ofText?) = .ok (Json.ofText? t) ↔
        Checked.member ms name none .optionalText = .ok t := by
    rw [Checked.member_map]
    exact Checked.map_eq_ok_iff Json.ofText?_injective
  have integer :
      Checked.member ms portName (Json.ofInt? none)
          (fun v => (Checked.optionalInteger v).map Json.ofInt?) = .ok (Json.ofInt? u.port) ↔
        Checked.member ms portName none .optionalInteger = .ok u.port := by
    rw [Checked.member_map]
    exact Checked.map_eq_ok_iff Json.ofInt?_injective
  have path :
      Checked.member ms pathName (Json.str [char '/']) (fun v => (Checked.text v).map Json.str) =
          .ok (Json.str u.path) ↔
        Checked.member ms pathName [char '/'] .text = .ok u.path := by
    rw [Checked.member_map]
    exact Checked.map_eq_ok_iff fun _ _ => Json.str.inj
  rw [ofMembers_eq_ok_iff_members]
  constructor
  · rintro ⟨protocol, username, password, host, port, rest, portText⟩ p
    cases p with
    | protocol => exact text.mpr protocol
    | username => exact text.mpr username
    | password => exact text.mpr password
    | host => exact text.mpr host
    | port => exact integer.mpr port
    | path => exact path.mpr rest
    | portText => exact text.mpr portText
  · intro all
    exact ⟨text.mp (all .protocol), text.mp (all .username), text.mp (all .password),
      text.mp (all .host), integer.mp (all .port), path.mp (all .path), text.mp (all .portText)⟩

/-! ### Overlays -/

/-- `p.Settles ms before after`: where a part was `before`, it is `after` with `ms` laid over it. -/
def Part.Settles (p : Part) (ms : Members) (before after : Json) : Prop :=
  ms.get? p.name = none ∧ after = before ∨
    ∃ v, ms.get? p.name = some v ∧ p.check v = .ok after

theorem ofMembers_iff_settles :
    ofMembers ms = .ok u ↔ ∀ p : Part, p.Settles ms (empty.part p) (u.part p) := by
  rw [ofMembers_eq_ok_iff]
  exact forall_congr' fun p => Checked.member_eq_ok_iff

/-- A URL is read from its members as it was. -/
theorem ofMembers_members (u : Url) : ofMembers u.members = .ok u :=
  ofMembers_iff_settles.mpr fun p => .inr ⟨_, get?_members u p, p.check_part u⟩

theorem overlay_obj_eq_ok_iff :
    u.overlay (.obj a) = .ok w ↔ ofMembers (u.members.overlay a) = .ok w := by
  cases read : ofMembers (u.members.overlay a) <;> simp [overlay, read]

/-- An object settles each part of what it is laid over. -/
theorem overlay_iff_settles (once : a.Distinct) :
    u.overlay (.obj a) = .ok w ↔ ∀ p : Part, p.Settles a (u.part p) (w.part p) := by
  rw [overlay_obj_eq_ok_iff, ofMembers_iff_settles]
  refine forall_congr' fun p => ?_
  have above := Members.get?_overlay u.members a once p.name
  rw [get?_members] at above
  unfold Part.Settles
  rw [above]
  cases a.get? p.name with
  | none => simp [p.check_part, eq_comm]
  | some v => simp

/-- The URL with the parts that `ms` names from `x` and the others from `u`. -/
def withNamed (u : Url) (ms : Members) (x : Url) : Url where
  protocol := if (ms.get? protocolName).isSome then x.protocol else u.protocol
  username := if (ms.get? usernameName).isSome then x.username else u.username
  password := if (ms.get? passwordName).isSome then x.password else u.password
  host := if (ms.get? hostName).isSome then x.host else u.host
  port := if (ms.get? portName).isSome then x.port else u.port
  path := if (ms.get? pathName).isSome then x.path else u.path
  portText := if (ms.get? portTextName).isSome then x.portText else u.portText

theorem part_withNamed (u x : Url) (ms : Members) (p : Part) :
    (u.withNamed ms x).part p = if (ms.get? p.name).isSome then x.part p else u.part p := by
  cases p with
  | port => exact apply_ite Json.ofInt? _ _ _
  | path => exact apply_ite Json.str _ _ _
  | _ => exact apply_ite Json.ofText? _ _ _

/-- An object can be laid over a URL exactly if it can be read by itself. Then it gives each part
that it names, and the others are those of the URL. -/
theorem overlay_obj_iff (once : a.Distinct) :
    u.overlay (.obj a) = .ok w ↔
      ∃ x, check (.obj a) = .ok x ∧
        ∀ p : Part, w.part p = if (a.get? p.name).isSome then x.part p else u.part p := by
  have read {x : Url} : check (.obj a) = .ok x ↔
      ∀ p : Part, p.Settles a (empty.part p) (x.part p) :=
    ofMembers_iff_settles
  rw [overlay_iff_settles once]
  constructor
  · intro settled
    refine ⟨empty.withNamed a w, read.mpr fun p => ?_, fun p => ?_⟩
    · rw [part_withNamed]
      rcases settled p with ⟨unnamed, _⟩ | ⟨v, named, checked⟩
      · exact .inl ⟨unnamed, by simp [unnamed]⟩
      · exact .inr ⟨v, named, by simp [named, checked]⟩
    · rw [part_withNamed]
      rcases settled p with ⟨unnamed, kept⟩ | ⟨v, named, _⟩
      · simp [unnamed, kept]
      · simp [named]
  · rintro ⟨x, alone, parts⟩ p
    rw [parts p]
    rcases read.mp alone p with ⟨unnamed, _⟩ | ⟨v, named, checked⟩
    · exact .inl ⟨unnamed, by simp [unnamed]⟩
    · exact .inr ⟨v, named, by simp [named, checked]⟩

/-! ### Several overlays -/

variable {p : Part} {before between after : Json}

theorem Part.Settles.trans (first : p.Settles a before between) (second : p.Settles b between after)
    (once : b.Distinct) : p.Settles (a.overlay b) before after := by
  unfold Settles
  rw [Members.get?_overlay a b once]
  rcases second with ⟨unnamed, rfl⟩ | ⟨v, named, checked⟩
  · rw [unnamed, Option.none_or]
    exact first
  · rw [named, Option.some_or]
    exact .inr ⟨v, rfl, checked⟩

theorem Part.Settles.again (settled : p.Settles a before after) : p.Settles a after after := by
  rcases settled with ⟨unnamed, _⟩ | there
  · exact .inl ⟨unnamed, rfl⟩
  · exact .inr there

/-- Overlays in a row are one overlay, in which what was named later counts. -/
theorem overlay_overlay (once : a.Distinct) (once' : b.Distinct)
    (first : u.overlay (.obj a) = .ok w) (second : w.overlay (.obj b) = .ok x) :
    u.overlay (.obj (a.overlay b)) = .ok x := by
  rw [overlay_iff_settles once] at first
  rw [overlay_iff_settles once'] at second
  rw [overlay_iff_settles (once.overlay b)]
  exact fun p => (first p).trans (second p) once'

/-- What was laid over a URL once changes nothing more. -/
theorem overlay_again (once : ∀ ms, v = .obj ms → Members.Distinct ms)
    (laid : u.overlay v = .ok w) : w.overlay v = .ok w := by
  cases v with
  | null => exact laid
  | str t => cases t <;> exact laid
  | obj ms =>
    have settled := (overlay_iff_settles (once ms rfl)).mp laid
    exact (overlay_iff_settles (once ms rfl)).mpr fun p => (settled p).again
  | _ => cases laid

/-! ### Refusals -/

/-- An object with short integers can be shown, so it is refused as the object that it is. -/
theorem ofIssues_eq_members {issues : List Issue}
    (short : ∀ n ∈ (Json.obj a).integers, n.natAbs < 10 ^ Decimal.digitLimit) :
    OverlayFault.ofIssues a issues = .members a issues := by
  have showable : (Json.obj a).isShowable = true := by
    refine List.all_eq_true.mpr fun n mem => decide_eq_true ?_
    exact Decimal.length_ofNat_le (by decide) (short n mem)
  rw [OverlayFault.ofIssues, if_pos showable]

/-- A value with short integers that cannot be laid over a URL is refused. -/
theorem overlay_ne_unshowable {fault : OverlayFault}
    (short : ∀ n ∈ v.integers, n.natAbs < 10 ^ Decimal.digitLimit)
    (failed : u.overlay v = .error fault) (f : Decimal.Fault) : fault ≠ .unshowable f := by
  cases v with
  | null => cases failed
  | str t =>
    cases t with
    | nil => cases failed
    | cons c t =>
      cases parsed : parse (c :: t) with
      | ok w =>
        simp only [overlay, parsed] at failed
        cases failed
      | error why =>
        simp only [overlay, parsed] at failed
        cases failed
        nofun
  | obj ms =>
    cases read : ofMembers (u.members.overlay ms) with
    | ok w =>
      simp only [overlay, read] at failed
      cases failed
    | error issues =>
      simp only [overlay, read, ofIssues_eq_members short] at failed
      cases failed
      nofun
  | _ =>
    cases failed
    nofun

/-! ### Laws -/

/-- **The laws of overlays.** Laying an object over a URL gives the parts that it names what reading
the object by itself gives them, and leaves the others, the text of the port among them. So the
empty object changes nothing, and two objects in a row do what both together do. Any value that is
short enough to be shown is laid over a URL or refused, and whatever was laid once changes nothing
when it is laid again. -/
theorem overlay_laws (u : Url) :
    u.overlay (.obj []) = .ok u ∧
    (∀ (a : Members) (w : Url), a.Distinct → (u.overlay (.obj a) = .ok w ↔
      ∃ x, check (.obj a) = .ok x ∧
        ∀ p : Part, w.part p = if (a.get? p.name).isSome then x.part p else u.part p)) ∧
    (∀ (a b : Members) (w x : Url), a.Distinct → b.Distinct → u.overlay (.obj a) = .ok w →
      w.overlay (.obj b) = .ok x → u.overlay (.obj (a.overlay b)) = .ok x) ∧
    (∀ v, (∀ n ∈ v.integers, n.natAbs < 10 ^ Decimal.digitLimit) →
      (∃ w, u.overlay v = .ok w) ∨
        ∃ fault, u.overlay v = .error fault ∧ ∀ f, fault ≠ .unshowable f) ∧
    ∀ v w, (∀ ms, v = .obj ms → Members.Distinct ms) → u.overlay v = .ok w →
      w.overlay v = .ok w := by
  refine ⟨?_, fun a w once => overlay_obj_iff once,
    fun a b w x once once' first second => overlay_overlay once once' first second,
    fun v short => ?_, fun v w once laid => overlay_again once laid⟩
  · exact overlay_obj_eq_ok_iff.mpr (ofMembers_members u)
  · cases found : u.overlay v with
    | ok w => exact .inl ⟨w, rfl⟩
    | error fault => exact .inr ⟨fault, rfl, fun f => overlay_ne_unshowable short found f⟩

/-- A port that was written with zeros is changed by a text with a sign, an underscore and a
fraction, and again by a truth value; a name that no part has does not count, and a number is
refused. -/
theorem overlay_laws_of_port :
    let u : Url := {
      username := some [char 'u'], host := some [char 'h'], port := some 80,
      portText := some "0080".toText }
    let a : Members :=
      [(portName, .str "+8_1.0".toText), (usernameName, .null), ([char 'x'], .arr [])]
    let b : Members := [(hostName, .str [char 'k']), (portName, .bool true)]
    let x : Url := { host := some [char 'k'], port := some 1, portText := some "0080".toText }
    u.overlay (.obj (a.overlay b)) = .ok x ∧ x.overlay (.obj b) = .ok x ∧
      ∃ fault, u.overlay (.int 7) = .error fault ∧ ∀ f, fault ≠ .unshowable f := by
  intro u a b x
  let w : Url := { host := some [char 'h'], port := some 81, portText := some "0080".toText }
  obtain ⟨_, _, joined, answered, _⟩ := overlay_laws u
  obtain ⟨_, _, _, _, again⟩ := overlay_laws w
  have once : a.Distinct := by unfold Members.Distinct; decide
  have once' : b.Distinct := by unfold Members.Distinct; decide
  have first : u.overlay (.obj a) = .ok w := rfl
  have second : w.overlay (.obj b) = .ok x := rfl
  refine ⟨joined a b w x once once' first second, again (.obj b) x ?_ second, ?_⟩
  · rintro ms ⟨⟩
    exact once'
  · have short : ∀ n ∈ (Json.int 7).integers, n.natAbs < 10 ^ Decimal.digitLimit := by
      intro n mem
      obtain rfl := List.mem_singleton.mp mem
      exact Decimal.lt_bound_of_le (by decide)
    rcases answered (.int 7) short with ⟨_, laid⟩ | refused
    · cases laid
    · exact refused

end Url

end ProxySelection
