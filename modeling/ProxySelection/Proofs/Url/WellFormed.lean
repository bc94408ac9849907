import ProxySelection.Proofs.Url.RoundTrip

/-!
The shape of parsed URLs.

Each part of a parsed URL is free of the characters that end it: the host holds no mark of a user
part, of a port or of a path, the credentials none of a path, the path none of a query. What keeps
them out differs from part to part. Breaks are taken out of the text before it is divided, blanks
are looked for in the whole authority, and the brackets of a host are checked before the host is
cut off. `WellFormed` names the conditions one by one, and `wellFormed_of_parse` says that parsing
leaves no other URLs.
-/

namespace ProxySelection

namespace Url

/-- A host: in brackets up to the first one that closes, or without a colon. -/
structure IsHost (host : Text) : Prop where
  nonempty : host ≠ []
  plain : ∀ c ∈ host, isBlank c = false ∧ c ≠ '/' ∧ c ≠ '?' ∧ c ≠ '#' ∧ c ≠ '@'
  closed : char ':' ∉ host ∧ host.head? ≠ some (char '[') ∨
    ∃ name, host = char '[' :: (name ++ [char ']']) ∧ char ']' ∉ name

/-- A user name or a password. -/
def IsCredential (t : Text) : Prop := ∀ c ∈ t, isBlank c = false ∧ c ≠ '/' ∧ c ≠ '?' ∧ c ≠ '#'

/-- A port and the digits that it is written with. -/
structure IsPort (port : Int) (written : Text) : Prop where
  inRange : 0 ≤ port ∧ port ≤ 65535
  nonempty : written ≠ []
  digits : ∀ c ∈ written, c.isDigit = true
  denoted : port = Decimal.value written

/-- A path without query and fragment. -/
structure IsPath (path : Text) : Prop where
  rooted : path.head? = some (char '/')
  plain : ∀ c ∈ path, c ≠ '?' ∧ c ≠ '#' ∧ c ≠ '\t' ∧ c ≠ '\r' ∧ c ≠ '\n'

/-- A URL with a host each of whose parts is one. -/
structure WellFormed (u : Url) : Prop where
  protocol : ∀ q, u.protocol = some q → ∃ c r, q = c :: r ∧ c.isLower = true ∧
    ∀ x ∈ r, x.isLower = true ∨ x.isDigit = true ∨ x = '+' ∨ x = '.' ∨ x = '-'
  host : ∃ host, u.host = some host ∧ IsHost host
  username : ∀ name, u.username = some name → char ':' ∉ name ∧ IsCredential name
  password : ∀ password, u.password = some password → IsCredential password
  /-- There is no password without a user name. -/
  named : u.username = none → u.password = none
  port_iff : u.port = none ↔ u.portText = none
  port : ∀ port, u.port = some port → ∃ written, u.portText = some written ∧ IsPort port written
  path : IsPath u.path

variable {t : Text} {u : Url} {c : CodePoint}

/-! ### Characters -/

theorem endsAuthority_eq_false_iff : endsAuthority c = false ↔ c ≠ '/' ∧ c ≠ '?' ∧ c ≠ '#' := by
  simp [endsAuthority, and_assoc]

theorem isBreak_eq_false_iff : isBreak c = false ↔ c ≠ '\t' ∧ c ≠ '\n' ∧ c ≠ '\r' := by
  simp [isBreak, and_assoc]

theorem endsPath_eq_false_iff : endsPath c = false ↔ c ≠ '?' ∧ c ≠ '#' := by
  simp [endsPath]

/-- The characters of a protocol that are no capitals. -/
theorem cases_of_isProtocolChar (inside : isProtocolChar c = true) (small : c.isUpper = false) :
    c.isLower = true ∨ c.isDigit = true ∨ c = '+' ∨ c = '.' ∨ c = '-' := by
  cases c with
  | char x =>
    have letters : x.isAlpha = x.isLower := by
      change (x.isUpper || x.isLower) = x.isLower
      rw [show x.isUpper = false from small, Bool.false_or]
    simp only [isProtocolChar, CodePoint.isAlphanum_char, Char.isAlphanum, letters,
      Bool.or_eq_true, decide_eq_true_eq, or_assoc] at inside
    exact inside
  | surrogate index => cases inside

/-! ### Host and credentials -/

theorem closed_of_isHostText {host : Text} (h : Authority.IsHostText host) :
    char ':' ∉ host ∧ host.head? ≠ some (char '[') ∨
      ∃ name, host = char '[' :: (name ++ [char ']']) ∧ char ']' ∉ name := by
  cases h with
  | bracketed free => exact .inr ⟨_, rfl, free⟩
  | plain unopened colonless =>
    refine .inl ⟨colonless, fun first => ?_⟩
    exact unopened (List.mem_of_head? first)

theorem isHost_of_parse (parsed : parse t = .ok u) : ∃ host, u.host = some host ∧ IsHost host := by
  obtain ⟨s, a, path, read, hosted, plain, _, _, whole⟩ := parts_of_parse parsed
  have markless := Authority.mark_not_mem_hostAndPort read hosted
  refine ⟨a.host, by rw [whole]; rfl, hosted, ?_, ?_⟩
  · intro c mem
    have written : c ∈ a.written := by simp [Authority.written, mem]
    obtain ⟨ends, _, blank⟩ := plain c (Authority.mem_of_mem_written read hosted written)
    obtain ⟨slash, query, fragment⟩ := endsAuthority_eq_false_iff.mp ends
    refine ⟨blank, slash, query, fragment, ?_⟩
    rintro rfl
    exact markless (List.mem_append_left _ mem)
  · exact closed_of_isHostText (Authority.hostPart_of_read read hosted).1

/-- A password follows a user name. -/
theorem password_of_parse (parsed : parse t = .ok u) (unnamed : u.username = none) :
    u.password = none := by
  obtain ⟨_, a, read, _, _, rfl⟩ := parse_eq_ok_iff.mp parsed
  obtain ⟨_, _, user, _, _⟩ := Authority.read_eq_ok_iff.mp read
  have unnamed : a.username = none := unnamed
  have unprotected : a.password = none := by
    cases mark : (Text.cutLast '@' (authorityText (bodyOf t.trim))).1 with
    | none =>
      rw [mark] at user
      exact (Prod.mk.inj user).2
    | some text =>
      rw [mark, unnamed] at user
      cases (Prod.mk.inj user).1
  exact unprotected

theorem colon_not_mem_username (parsed : parse t = .ok u) {name : Text}
    (named : u.username = some name) : char ':' ∉ name := by
  obtain ⟨_, a, read, _, _, rfl⟩ := parse_eq_ok_iff.mp parsed
  exact Authority.colon_not_mem_username read named

theorem isCredential_of_parse (parsed : parse t = .ok u) {part : Text}
    (given : u.username = some part ∨ u.password = some part) : IsCredential part := by
  have follows := password_of_parse parsed
  obtain ⟨s, a, path, read, hosted, plain, _, _, whole⟩ := parts_of_parse parsed
  have written : ∀ c ∈ part, c ∈ Authority.userText u.username u.password := by
    intro c mem
    cases named : u.username with
    | none =>
      rcases given with there | there
      · rw [named] at there
        cases there
      · rw [follows named] at there
        cases there
    | some name =>
      rcases given with there | there
      · obtain rfl : name = part := Option.some.inj (named.symm.trans there)
        cases u.password <;> simp [Authority.userText, mem]
      · simp [Authority.userText, there, mem]
  intro c mem
  have inside : c ∈ a.written := by
    have front := written c mem
    rw [whole] at front
    exact List.mem_append_left _ front
  obtain ⟨ends, _, blank⟩ := plain c (Authority.mem_of_mem_written read hosted inside)
  exact ⟨blank, endsAuthority_eq_false_iff.mp ends⟩

/-! ### Port and path -/

theorem isPort_of_parse (parsed : parse t = .ok u) {port : Int} (found : u.port = some port) :
    ∃ written, u.portText = some written ∧ IsPort port written := by
  rcases port_of_parse parsed with ⟨none, _⟩ | ⟨written, text, same, ascii, _, inRange⟩
  · rw [none] at found
    cases found
  · rw [same] at found
    obtain rfl := Option.some.inj found
    obtain ⟨nonempty, digits⟩ := Text.isAsciiDigits_iff.mp ascii
    exact ⟨written, text, by omega, nonempty, digits, rfl⟩

theorem port_eq_none_iff_of_parse (parsed : parse t = .ok u) :
    u.port = none ↔ u.portText = none := by
  rcases port_of_parse parsed with ⟨port, text⟩ | ⟨written, text, port, _⟩
  · simp [port, text]
  · simp [port, text]

theorem isPath_of_parse (parsed : parse t = .ok u) : IsPath u.path := by
  obtain ⟨_, _, path, _, _, _, isPath, _, whole⟩ := parts_of_parse parsed
  rw [whole]
  cases path with
  | nil => exact ⟨rfl, by simp [ofParts]⟩
  | cons d path =>
    refine ⟨?_, fun c mem => ?_⟩
    · rw [isPath.rooted d rfl]
      rfl
    · obtain ⟨ends, kept⟩ := isPath.plain c mem
      obtain ⟨query, fragment⟩ := endsPath_eq_false_iff.mp ends
      obtain ⟨tab, lineFeed, carriage⟩ := isBreak_eq_false_iff.mp kept
      exact ⟨query, fragment, tab, carriage, lineFeed⟩

/-! ### All parts -/

/-- **Parsed URLs are well formed.** Whatever text is parsed, the URL has a protocol in small
letters or none, a host without blanks that no later part begins in, credentials and a path that
hold none of the marks behind them, and a port that is the number of its digits. -/
theorem wellFormed_of_parse (parsed : parse t = .ok u) : u.WellFormed where
  protocol := by
    intro q found
    obtain ⟨_, _, _, _, _, _, _, isProtocol, _⟩ := parts_of_parse parsed
    obtain ⟨c, r, rfl, first, others⟩ := isProtocol q found
    refine ⟨c, r, rfl, first, fun x mem => ?_⟩
    obtain ⟨inside, small⟩ := others x mem
    exact cases_of_isProtocolChar inside small
  host := isHost_of_parse parsed
  username := fun name named =>
    ⟨colon_not_mem_username parsed named, isCredential_of_parse parsed (.inl named)⟩
  password := fun _ given => isCredential_of_parse parsed (.inr given)
  named := password_of_parse parsed
  port_iff := port_eq_none_iff_of_parse parsed
  port := fun _ found => isPort_of_parse parsed found
  path := isPath_of_parse parsed

/-- Marks in odd places: a colon and two `@` in the credentials, brackets, an empty query, and a
break and blanks around it all. -/
theorem wellFormed_of_parse_marks :
    let u : Url := {
      protocol := some "h+p".toText, username := some "a".toText, password := some "b:c@d".toText,
      host := some "[v1.x:y]".toText, port := some 7, path := "/e @f".toText,
      portText := some "007".toText }
    parse " H+P://a:b:c@d@[v1.\tx:y]:007/e @f? ".toText = .ok u ∧ u.WellFormed := by
  intro u
  have parsed : parse " H+P://a:b:c@d@[v1.\tx:y]:007/e @f? ".toText = .ok u := rfl
  exact ⟨parsed, wellFormed_of_parse parsed⟩

end Url

end ProxySelection
