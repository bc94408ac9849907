import ProxySelection.Proofs.Url.RoundTrip

/-!
What parsing keeps of a text.

A text is taken apart at five places: behind the protocol, at the end of the authority, at the last
mark of a user part, at the colon in front of the port, and at the end of the path. Each cut gives
the text back when its pieces are put together, so the parts of a parsed URL are pieces of the text
in the order in which they stand there. What a URL does not keep is little: breaks, capitals of the
protocol, a colon without a port, the root where it was left out, query and fragment
(`parse_recomposes`).
-/

namespace ProxySelection

namespace Url

/-- A text is `front` and `rest`: the name of a protocol with its mark and what follows, or nothing
and the whole text if no such thing stands in front of it. -/
def IsDivided (t front rest : Text) : Prop :=
  t = front ++ rest ∧
    ((∃ name, IsProtocolName name ∧ front = name ++ protocolMark) ∨
      front = [] ∧ ∀ name behind, IsProtocolName name → t ≠ name ++ protocolMark ++ behind)

/-- What follows the path: the query and the fragment. -/
def tailText (rest : Text) : Text :=
  (rest.dropWhile fun c => !endsAuthority c).dropWhile fun c => !endsPath c

variable {t rest : Text} {u : Url} {a : Authority}

/-! ### Behind the protocol -/

theorem protocolText_eq_nil_iff {protocol : Option Text} :
    protocolText protocol = [] ↔ protocol = none := by
  cases protocol <;> simp [protocolText, protocolMark, String.toText]

/-- There is one way to divide a text, and it is the one that is taken. -/
theorem isDivided_iff (t : Text) :
    ∃ front, (∀ f r, IsDivided t f r ↔ f = front ∧ r = (cutProtocol t).2) ∧
      front.map CodePoint.toLower = protocolText (cutProtocol t).1 := by
  cases found : cutProtocol t with
  | mk protocol rest =>
    cases protocol with
    | none =>
      obtain ⟨rfl, unnamed⟩ := cutProtocol_eq_none_iff.mp found
      refine ⟨[], fun f r => ⟨?_, ?_⟩, rfl⟩
      · rintro ⟨whole, ⟨name, isName, rfl⟩ | ⟨rfl, _⟩⟩
        · exact absurd whole (unnamed name r isName)
        · exact ⟨rfl, whole.symm⟩
      · rintro ⟨rfl, rfl⟩
        exact ⟨rfl, .inr ⟨rfl, unnamed⟩⟩
    | some q =>
      obtain ⟨name, isName, rfl, whole⟩ := cutProtocol_eq_some_iff.mp found
      refine ⟨name ++ protocolMark, fun f r => ⟨?_, ?_⟩, ?_⟩
      · rintro ⟨same, ⟨name', isName', rfl⟩ | ⟨rfl, unnamed⟩⟩
        -- Both divisions are what is found, so they have the same rest.
        · have again := cutProtocol_eq_some_iff.mpr ⟨name', isName', rfl, same⟩
          obtain ⟨_, rfl⟩ := Prod.mk.inj (found.symm.trans again)
          rw [whole] at same
          exact ⟨(List.append_cancel_right same).symm, rfl⟩
        · exact absurd whole (unnamed name rest isName)
      · rintro ⟨rfl, rfl⟩
        exact ⟨whole, .inl ⟨name, isName, rfl⟩⟩
      · rw [List.map_append]
        rfl

/-! ### Authority, path and what follows -/

theorem eq_pieces (rest : Text) :
    rest = authorityText rest ++ (pathText rest ++ tailText rest) := by
  unfold authorityText pathText tailText
  rw [List.takeWhile_append_dropWhile, List.takeWhile_append_dropWhile]

/-- What follows the path is empty or starts with a mark of its own. -/
theorem head?_tailText {c : CodePoint} (first : (tailText rest).head? = some c) :
    c = '?' ∨ c = '#' := by
  have stopped := List.head?_dropWhile_not (fun c => !endsPath c)
    (rest.dropWhile fun c => !endsAuthority c)
  rw [tailText] at first
  rw [first] at stopped
  have ends : endsPath c = true := by simpa using stopped
  simpa [endsPath] using ends

/-- The text of an authority that was read is its user part, host and port, and perhaps a colon
without a port. -/
theorem eq_userText_append (read : Authority.read t = .ok a) (hosted : a.host ≠ []) :
    ∃ colon, t = Authority.userText a.username a.password ++
        (a.host ++ Authority.portPart a.port ++ colon) ∧
      (colon = [] ∨ colon = [char ':'] ∧ a.port = none) := by
  rcases Authority.eq_written_of_read read hosted with same | ⟨portless, same⟩
  · exact ⟨[], by simpa [Authority.written] using same, .inl rfl⟩
  · exact ⟨[char ':'], by simpa [Authority.written] using same, .inr ⟨rfl, portless⟩⟩

/-! ### All pieces -/

/-- **Parsing keeps the pieces of a text.** Behind the protocol, and without its breaks, a text that
is parsed is the user part, host and port, the path and a query or fragment, one behind the other.
The path may have been left out if it is the root, and a colon may stand where a port is missing.
In front stands the protocol with its mark, up to capitals, exactly if the URL has one. -/
theorem parse_recomposes (parsed : parse t = .ok u) :
    ∃ front rest remote colon path tail,
      (∀ f r, IsDivided t.trim f r ↔ f = front ∧ r = rest) ∧
      u.remote = .ok remote ∧
      rest.filter (fun c => !isBreak c) =
        Authority.userText u.username u.password ++ remote ++ colon ++ path ++ tail ∧
      (colon = [] ∨ colon = [char ':'] ∧ u.port = none) ∧
      (path = u.path ∨ path = [] ∧ u.path = [char '/']) ∧
      (∀ c, tail.head? = some c → c = '?' ∨ c = '#') ∧
      (front = [] ↔ u.protocol = none) ∧
      ∀ q, u.protocol = some q → front.map CodePoint.toLower = q ++ protocolMark := by
  obtain ⟨_, a, read, hosted, _, whole⟩ := parse_eq_ok_iff.mp parsed
  obtain ⟨front, divided, lowered⟩ := isDivided_iff t.trim
  obtain ⟨colon, authority, marked⟩ := eq_userText_append read (by simpa using hosted)
  subst whole
  refine ⟨front, (cutProtocol t.trim).2, _, colon, pathText (bodyOf t.trim),
    tailText (bodyOf t.trim), divided, remote_ofParts parsed, ?_, ?_, ?_, ?_, ?_, ?_⟩
  · have pieces := eq_pieces (bodyOf t.trim)
    rw [authority] at pieces
    refine pieces.trans ?_
    simp [ofParts]
  · rcases marked with none | ⟨one, portless⟩
    · exact .inl none
    · exact .inr ⟨one, by simp [ofParts, portless]⟩
  · cases pathText (bodyOf t.trim) with
    | nil => exact .inr ⟨rfl, rfl⟩
    | cons c path => exact .inl rfl
  · intro c first
    exact head?_tailText first
  · rw [← List.map_eq_nil_iff (f := CodePoint.toLower), lowered]
    exact protocolText_eq_nil_iff
  · rintro q found
    have found : (cutProtocol t.trim).1 = some q := found
    rw [lowered, found]
    rfl

/-- Capitals in the protocol, a second `@`, a colon without a port and with a break behind it, and a
query where the path is left out. -/
theorem parse_recomposes_portless :
    let u : Url := {
      protocol := some "http".toText, username := some "a".toText, password := some "b@c".toText,
      host := some "h".toText }
    parse " HTtp://a:b@c@h:\t?q#f ".toText = .ok u ∧ u.remote = .ok "h".toText ∧
      IsDivided "HTtp://a:b@c@h:\t?q#f".toText "HTtp://".toText "a:b@c@h:\t?q#f".toText ∧
      ∃ colon path tail,
        "a:b@c@h:?q#f".toText = "a:b@c@".toText ++ "h".toText ++ colon ++ path ++ tail ∧
        (colon = [] ∨ colon = [char ':']) ∧ (path = [char '/'] ∨ path = []) ∧
        ∀ c, tail.head? = some c → c = '?' ∨ c = '#' := by
  intro u
  have parsed : parse " HTtp://a:b@c@h:\t?q#f ".toText = .ok u := rfl
  have remote_eq : u.remote = .ok "h".toText := rfl
  have isName : IsProtocolName "HTtp".toText :=
    ⟨'H', "Ttp".toText, rfl, rfl, by decide⟩
  have whole : IsDivided "HTtp://a:b@c@h:\t?q#f".toText "HTtp://".toText "a:b@c@h:\t?q#f".toText :=
    ⟨rfl, .inl ⟨_, isName, rfl⟩⟩
  obtain ⟨front, rest, remote, colon, path, tail, divided, shown, pieces, marked, rooted, ends,
    _⟩ := parse_recomposes parsed
  obtain ⟨rfl, rfl⟩ := (divided _ _).mp whole
  obtain rfl : "h".toText = remote := Except.ok.inj (remote_eq.symm.trans shown)
  exact ⟨parsed, remote_eq, whole, colon, path, tail, pieces, marked.imp_right And.left,
    rooted.imp_right And.left, ends⟩

end Url

end ProxySelection
