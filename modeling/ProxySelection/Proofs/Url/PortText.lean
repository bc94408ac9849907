import ProxySelection.Proofs.Url.Authority
import ProxySelection.Proofs.Url.Legible

/-!
The port as it was last written.

A URL that is parsed keeps its port as it was written in the text (`portText_eq_some_iff`). Overlays
by objects that do not name this text of the port leave it alone, while the port itself may become
another. So what is kept may be stale, and it is shown only where it denotes the port.

`Traced last u` says that the URL `u` came about by changes, and which text was parsed into it last,
directly or behind a URL that was put in its place; where the empty URL was put in its place there
is none. Each step keeps the text of the port that was last written (`PortKept`), and so does every
run. Hence host and port can always be shown, and the port is shown as it was last written if that
denotes it, and in decimal if not (`ShowsPort`, `remote_of_traced`).
-/

namespace ProxySelection

namespace Url

variable {t written : Text} {u v w : Url} {ms : Members} {last : Option Text} {port : Int}

/-! ### Ports in texts -/

/-- The authority of the text ends with a colon and these digits. -/
def WritesPort (t written : Text) : Prop :=
  written.isAsciiDigits = true ∧
    ∃ front, authorityText (bodyOf t.trim) = front ++ char ':' :: written

theorem not_mem_digits (ascii : written.isAsciiDigits = true) {c : CodePoint}
    (mark : c.isDigit = false) : c ∉ written := by
  intro mem
  rw [(Text.isAsciiDigits_iff.mp ascii).2 c mem] at mark
  cases mark

/-- A text that ends with a colon and digits ends with a digit. -/
theorem isDigit_of_getLast? (ascii : written.isAsciiDigits = true) {front : Text} {c : CodePoint}
    (final : (front ++ char ':' :: written).getLast? = some c) : c.isDigit = true := by
  obtain ⟨nonempty, digits⟩ := Text.isAsciiDigits_iff.mp ascii
  rw [List.getLast?_append_of_ne_nil _ (by simp), List.getLast?_cons_of_ne_nil nonempty] at final
  exact digits c (List.mem_of_getLast? final)

/-- A text ends with a colon and digits in one way. -/
theorem digits_unique {front front' written' : Text} (ascii : written.isAsciiDigits = true)
    (ascii' : written'.isAsciiDigits = true)
    (same : front ++ char ':' :: written = front' ++ char ':' :: written') :
    written = written' := by
  have cut : Text.cutLast ':' (front ++ char ':' :: written) = (some front, written) :=
    Text.cutLast_eq_some_iff.mpr ⟨rfl, not_mem_digits ascii rfl⟩
  have cut' : Text.cutLast ':' (front ++ char ':' :: written) = (some front', written') :=
    Text.cutLast_eq_some_iff.mpr ⟨same, not_mem_digits ascii' rfl⟩
  rw [cut] at cut'
  exact (Prod.mk.inj cut').2

/-- A host does not end with a colon and digits. -/
theorem hostText_ne {host front : Text} (isHost : Authority.IsHostText host)
    (ascii : written.isAsciiDigits = true) : host ≠ front ++ char ':' :: written := by
  rintro rfl
  generalize whole : front ++ char ':' :: written = host at isHost
  cases isHost with
  | @bracketed name _ =>
    have final : (front ++ char ':' :: written).getLast? = some (char ']') := by
      rw [whole, ← List.cons_append, List.getLast?_concat]
    exact absurd (isDigit_of_getLast? ascii final) (by decide)
  | plain _ colonless => exact colonless (by simp [← whole])

/-- An authority that is read and ends with a colon and digits has these as its port. -/
theorem port_of_read {s front : Text} {a : Authority} (read : Authority.read s = .ok a)
    (hosted : a.host ≠ []) (ascii : written.isAsciiDigits = true)
    (ends : s = front ++ char ':' :: written) : a.port.map (·.2) = some written := by
  obtain ⟨isHost, behind⟩ := Authority.hostPart_of_read read hosted
  -- What follows the user part ends in the same way as the whole.
  obtain ⟨divided, free⟩ := Authority.eq_userFront_append front
  have part : Authority.hostPart s = Authority.hostPart front ++ char ':' :: written := by
    have whole : s = Authority.userFront (Text.cutLast '@' front).1 ++
        (Authority.hostPart front ++ char ':' :: written) := by
      rw [ends, ← List.append_assoc, ← divided]
    rw [whole]
    refine Authority.hostPart_userFront _ ?_
    simp [free, not_mem_digits ascii (c := '@') rfl]
  rw [part] at behind
  rcases behind with same | ⟨_, same⟩
  · cases found : a.port with
    | none =>
      rw [found, Authority.portPart, List.append_nil] at same
      exact absurd same.symm (hostText_ne isHost ascii)
    | some p =>
      obtain ⟨n, digits⟩ := p
      have ascii' := Text.isAsciiDigits_iff.mpr (Authority.digits_of_read read found)
      rw [found, Authority.portPart] at same
      rw [digits_unique ascii ascii' same]
      rfl
  · have final : (Authority.hostPart front ++ char ':' :: written).getLast? = some (char ':') := by
      rw [same, List.getLast?_concat]
    exact absurd (isDigit_of_getLast? ascii final) (by decide)

/-- The text of the port of a parsed URL is the one that was written. -/
theorem portText_eq_some_iff (parsed : parse t = .ok u) :
    u.portText = some written ↔ WritesPort t written := by
  obtain ⟨_, a, read, hosted, _, rfl⟩ := parse_eq_ok_iff.mp parsed
  have hosted := List.isEmpty_eq_false_iff.mp hosted
  change a.port.map (·.2) = some written ↔ _
  constructor
  · intro text
    obtain ⟨⟨n, digits⟩, found, rfl⟩ := Option.map_eq_some_iff.mp text
    refine ⟨Text.isAsciiDigits_iff.mpr (Authority.digits_of_read read found), ?_⟩
    rcases Authority.eq_written_of_read read hosted with same | ⟨portless, _⟩
    · refine ⟨Authority.userText a.username a.password ++ a.host, ?_⟩
      rw [same, Authority.written, found, Authority.portPart, List.append_assoc]
    · rw [portless] at found
      cases found
  · rintro ⟨ascii, front, ends⟩
    exact port_of_read read hosted ascii ends

/-! ### Showing a port -/

/-- A text of digits that can be read is shown if it denotes the port. -/
theorem portShown_of_digits (ascii : written.isAsciiDigits = true)
    (readable : written.length ≤ Decimal.digitLimit)
    (short : port.natAbs < 10 ^ Decimal.digitLimit) :
    portShown (some written) port =
      .ok (if port = Decimal.value written then written else Decimal.ofInt port) := by
  unfold portShown
  rw [Decimal.write_eq_ok short]
  simp only [bind, Except.bind, Text.isDigits_of_ascii ascii, Decimal.read_eq_ok ascii readable,
    if_true, eq_comm (a := port)]
  split <;> rfl

theorem portShown_none (short : port.natAbs < 10 ^ Decimal.digitLimit) :
    portShown none port = .ok (Decimal.ofInt port) := by
  unfold portShown
  rw [Decimal.write_eq_ok short]
  rfl

/-! ### Runs of changes -/

/-- `Traced last u`: the URL `u` comes from the empty one or from a text by changes, and `last` is
the text that was parsed into it last. An object may not name the text of the port, nor give the
port a number that is too long to be written. -/
inductive Traced : Option Text → Url → Prop where
  | empty : Traced none .empty
  | parsed {t : Text} {u : Url} : parse t = .ok u → Traced (some t) u
  | cleared {last : Option Text} {u w : Url} {v : Json} : Traced last u →
      v = .null ∨ v = .str [] → u.apply (.value v) = .ok w → Traced none w
  | replaced {last : Option Text} {u w : Url} {t : Text} : Traced last u → t ≠ [] →
      u.apply (.value (.str t)) = .ok w → Traced (some t) w
  | taken {last last' : Option Text} {u v w : Url} : Traced last u → Traced last' v →
      u.apply (.whole v) = .ok w → Traced last' w
  | overlaid {last : Option Text} {u w : Url} {ms : Members} : Traced last u → ms.Distinct →
      ms.get? portTextName = none →
      (∀ n, ms.get? portName = some (.int n) → n.natAbs < 10 ^ Decimal.digitLimit) →
      u.apply (.value (.obj ms)) = .ok w → Traced last w

/-- The text of the port is the one that was written in `last`, it can be read, and the port can be
written. -/
structure PortKept (last : Option Text) (u : Url) : Prop where
  written_iff : ∀ written, u.portText = some written ↔ ∃ t, last = some t ∧ WritesPort t written
  readable : ∀ written, u.portText = some written → written.length ≤ Decimal.digitLimit
  short : u.HasShortPort

theorem portKept_empty : PortKept none empty where
  written_iff := by simp [empty]
  readable := nofun
  short := nofun

theorem portKept_of_parse (parsed : parse t = .ok u) : PortKept (some t) u where
  written_iff := by
    intro written
    rw [portText_eq_some_iff parsed]
    simp
  readable := by
    intro written text
    rcases port_of_parse parsed with ⟨_, none⟩ | ⟨written', same, _, _, readable, _⟩
    · rw [none] at text
      cases text
    · obtain rfl := Option.some.inj (text.symm.trans same)
      exact readable
  short := hasShortPort_of_parse parsed

theorem PortKept.overlaid (kept : PortKept last u) (once : ms.Distinct)
    (unnamed : ms.get? portTextName = none)
    (given : ∀ n, ms.get? portName = some (.int n) → n.natAbs < 10 ^ Decimal.digitLimit)
    (laid : u.overlay (.obj ms) = .ok w) : PortKept last w := by
  have same : w.portText = u.portText := by
    rcases (overlay_iff_settles once).mp laid .portText with ⟨_, stays⟩ | ⟨_, named, _⟩
    · exact Json.ofText?_injective stays
    · rw [Part.name, unnamed] at named
      cases named
  refine ⟨same ▸ kept.written_iff, same ▸ kept.readable, ?_⟩
  refine hasShortPort_of_ofMembers (overlay_obj_eq_ok_iff.mp laid) fun n found => ?_
  rw [Members.get?_overlay _ _ once] at found
  rcases Option.or_eq_some_iff.mp found with above | ⟨_, below⟩
  · exact given n above
  · exact kept.short n (Json.ofInt?_eq_int_iff.mp (Option.some.inj below))

theorem Traced.portKept (traced : Traced last u) : PortKept last u := by
  induction traced with
  | empty => exact portKept_empty
  | parsed parsed => exact portKept_of_parse parsed
  | cleared _ nothing laid =>
    rcases nothing with rfl | rfl <;>
      · cases laid
        exact portKept_empty
  | @replaced _ u w t _ nonempty laid =>
    obtain ⟨c, t, rfl⟩ := List.exists_cons_of_ne_nil nonempty
    cases found : parse (c :: t) with
    | ok w' =>
      simp only [apply, overlay, found] at laid
      cases laid
      exact portKept_of_parse found
    | error fault =>
      simp only [apply, overlay, found] at laid
      cases laid
  | taken _ _ laid _ kept =>
    cases laid
    exact kept
  | overlaid _ once unnamed given laid kept => exact kept.overlaid once unnamed given laid

/-! ### Host and port -/

/-- `ShowsPort last port shown`: what is shown denotes the port and no other number. It is the port
as it was written in `last` if that denotes the port, and the port in decimal if nothing that was
written there does. -/
structure ShowsPort (last : Option Text) (port : Int) (shown : Text) : Prop where
  denotes_iff : ∀ n, Decimal.Denotes shown n ↔ n = port
  written : ∀ t written, last = some t → WritesPort t written → Decimal.Denotes written port →
    shown = written
  decimal : (∀ t written, last = some t → WritesPort t written → ¬ Decimal.Denotes written port) →
    shown = Decimal.ofInt port

theorem PortKept.shows (kept : PortKept last u) (found : u.port = some port) :
    ∃ shown, portShown u.portText port = .ok shown ∧ ShowsPort last port shown := by
  have short := kept.short port found
  cases text : u.portText with
  | none =>
    refine ⟨_, portShown_none short, fun n => Decimal.denotes_ofInt_iff, ?_, fun _ => rfl⟩
    intro t written parsed writes
    rw [(kept.written_iff written).mpr ⟨t, parsed, writes⟩] at text
    cases text
  | some digits =>
    obtain ⟨t, parsed, writes⟩ := (kept.written_iff digits).mp text
    have ascii := writes.1
    have unique : ∀ t' written, last = some t' → WritesPort t' written → digits = written := by
      intro t' written parsed' writes'
      have again := (kept.written_iff written).mpr ⟨t', parsed', writes'⟩
      exact Option.some.inj (text.symm.trans again)
    have shown := portShown_of_digits ascii (kept.readable digits text) short
    by_cases denoted : port = Decimal.value digits
    · rw [if_pos denoted] at shown
      refine ⟨digits, shown, fun n => ?_, fun t' written parsed' writes' _ => ?_, fun stale => ?_⟩
      · rw [Decimal.denotes_iff_of_ascii ascii, denoted]
      · exact unique t' written parsed' writes'
      · exact absurd ((Decimal.denotes_iff_of_ascii ascii).mpr denoted)
          (stale t digits parsed writes)
    · rw [if_neg denoted] at shown
      refine ⟨_, shown, fun n => Decimal.denotes_ofInt_iff, ?_, fun _ => rfl⟩
      intro t' written parsed' writes' denotes
      obtain rfl := unique t' written parsed' writes'
      exact absurd ((Decimal.denotes_iff_of_ascii ascii).mp denotes) denoted

/-- **The port is shown as it was last written.** However a URL came about, its host and port can be
shown: without a host as nothing, without a port as the host, and else as the host, a colon and the
port. The port is shown as the last text wrote it, as long as that denotes it, and in decimal
otherwise; an overlay that changes the port hides what was written and one that sets it back shows
it again. -/
theorem remote_of_traced (traced : Traced last u) :
    ∃ remote, u.remote = .ok remote ∧ (u.host = none → remote = []) ∧
      (∀ host, u.host = some host → u.port = none → remote = host) ∧
      ∀ host port, u.host = some host → u.port = some port →
        ∃ shown, remote = host ++ char ':' :: shown ∧ ShowsPort last port shown := by
  cases hosted : u.host with
  | none => exact ⟨[], by simp [remote, hosted], by simp⟩
  | some host =>
    cases found : u.port with
    | none => exact ⟨host, by simp [remote, hosted, found], by simp⟩
    | some port =>
      obtain ⟨shown, isShown, shows⟩ := traced.portKept.shows found
      refine ⟨host ++ char ':' :: shown, by simp [remote, hosted, found, isShown, bind, Except.bind,
        pure, Except.pure], by simp, by simp, ?_⟩
      rintro _ _ ⟨⟩ ⟨⟩
      exact ⟨shown, rfl, shows⟩

/-- Zeros in front of a port are gone while the port is another one, and are back when a text sets
it to the first one again. -/
theorem remote_of_traced_restored :
    let t : Text := "http://h:0080".toText
    let u : Url := {
      protocol := some "http".toText, host := some [char 'h'], port := some 80,
      portText := some "0080".toText }
    let changed : Url := { u with port := some 8080 }
    Traced (some t) changed ∧ changed.remote = .ok "h:8080".toText ∧
      changed.overlay (.obj [(portName, .str "+80.0".toText)]) = .ok u ∧ Traced (some t) u ∧
      u.remote = .ok "h:0080".toText := by
  intro t u changed
  have parsed : parse t = .ok u := rfl
  have writes : WritesPort t "0080".toText := (portText_eq_some_iff parsed).mp rfl
  have denotes {n : Int} : Decimal.Denotes "0080".toText n ↔ n = 80 :=
    Decimal.denotes_iff_of_ascii rfl
  have there : Traced (some t) changed := by
    have laid : u.apply (.value (.obj [(portName, .int 8080)])) = .ok changed := rfl
    refine .overlaid (.parsed parsed) ?_ ?_ ?_ laid
    · simp [Members.Distinct]
    · rfl
    · rintro n ⟨⟩
      exact Decimal.lt_bound_of_le (by decide)
  have back : Traced (some t) u := by
    have laid : changed.apply (.value (.obj [(portName, .str "+80.0".toText)])) = .ok u := rfl
    refine .overlaid there ?_ ?_ ?_ laid
    · simp [Members.Distinct]
    · rfl
    · rintro n ⟨⟩
  refine ⟨there, ?_, rfl, back, ?_⟩
  · obtain ⟨_, isShown, _, _, withPort⟩ := remote_of_traced there
    obtain ⟨shown, rfl, shows⟩ := withPort _ _ rfl rfl
    have stale : ∀ t' written, some t = some t' → WritesPort t' written →
        ¬ Decimal.Denotes written 8080 := by
      rintro _ written ⟨⟩ writes' denoted
      have same := (portText_eq_some_iff parsed).mpr writes'
      obtain rfl := Option.some.inj same
      exact absurd (denotes.mp denoted) (by decide)
    rw [isShown, shows.decimal stale]
    decide +kernel
  · obtain ⟨_, isShown, _, _, withPort⟩ := remote_of_traced back
    obtain ⟨shown, rfl, shows⟩ := withPort _ _ rfl rfl
    rw [isShown, shows.written t _ rfl writes (denotes.mpr rfl)]
    rfl

end Url

end ProxySelection
