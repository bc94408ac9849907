import ProxySelection.Proofs.Pattern.Reading
import ProxySelection.Proofs.Url.WellFormed

/-!
A URL as a pattern.

Protocol, host with port and path of a URL that was parsed, written one behind the other, are a
pattern if the protocol is one of the web and no `*` stands in the host. The parts of such a URL
end where those of a pattern do. No `/` stands in front of the path and no `?` in it, so host and
glob are found as host and path, and every character of the path stands for itself, but for `*`.

By `test_own_url` this pattern matches the URL, and if there is no `*` in the path either, it
matches the URLs that have the same three parts and nothing else. The same host with port means the
same host and the port written with the same digits (`Url.remote_eq_iff`).
-/

namespace ProxySelection

/-! ### Globs that are plain texts -/

namespace Glob

variable {g t : Text}

theorem spells_self (markless : char '?' ∉ g) : Spells g g := by
  induction g with
  | nil => exact spells_nil_iff.mpr rfl
  | cons c g ih =>
    simp only [List.mem_cons, not_or] at markless
    have rest := ih markless.2
    by_cases star : c = '*'
    · subst star
      exact spells_cons_iff.mpr ⟨[char '*'], g, rfl, .star _, rest⟩
    · exact spells_cons_iff.mpr ⟨[c], g, rfl, .itself star (Ne.symm markless.1), rest⟩

/-- Without `*` and `?` a glob spells itself alone. -/
theorem spells_iff_eq (starless : char '*' ∉ g) (markless : char '?' ∉ g) : Spells g t ↔ t = g := by
  constructor
  · intro h
    induction g generalizing t with
    | nil => exact spells_nil_iff.mp h
    | cons c g ih =>
      simp only [List.mem_cons, not_or] at starless markless
      obtain ⟨run, rest, rfl, stands, spelled⟩ := spells_cons_iff.mp h
      obtain rfl := ih starless.2 markless.2 spelled
      cases stands with
      | star => exact absurd rfl starless.1
      | mark => exact absurd rfl markless.1
      | itself _ _ => rfl
  · rintro rfl
    exact spells_self markless

end Glob

/-! ### Host and port -/

namespace Authority

/-- Host and port are told from the text that they are written as. -/
theorem splitHost_hostAndPort {t : Text} {a : Authority} (read : Authority.read t = .ok a)
    (hosted : a.host ≠ []) :
    splitHost (a.host ++ portPart a.port) = (a.host, (a.port.map (·.2)).getD []) := by
  have isHost := (hostPart_of_read read hosted).1
  cases a.port with
  | none => simpa [portPart] using isHost.splitHost_eq
  | some p => exact isHost.splitHost_append p.2

end Authority

namespace Url

variable {t remote : Text} {u : Url}

/-- Host and port of a parsed URL are found again in the text that shows them. -/
theorem splitHost_remote (parsed : parse t = .ok u) (shown : u.remote = .ok remote) :
    u.host = some (Authority.splitHost remote).1 ∧
      u.portText.getD [] = (Authority.splitHost remote).2 := by
  obtain ⟨s, a, path, read, hosted, _, _, _, whole⟩ := parts_of_parse parsed
  rw [whole] at parsed shown ⊢
  obtain rfl := Except.ok.inj ((remote_ofParts parsed).symm.trans shown)
  rw [Authority.splitHost_hostAndPort read hosted]
  exact ⟨rfl, rfl⟩

theorem portText_ne_some_nil (parsed : parse t = .ok u) : u.portText ≠ some [] := by
  intro given
  rcases port_of_parse parsed with ⟨_, none⟩ | ⟨digits, text, _, ascii, _⟩
  · rw [none] at given
    cases given
  · obtain rfl := Option.some.inj (text.symm.trans given)
    exact (Text.isAsciiDigits_iff.mp ascii).1 rfl

theorem eq_of_getD_nil {a b : Option Text} (given : a ≠ some []) (given' : b ≠ some [])
    (same : a.getD [] = b.getD []) : a = b := by
  cases a <;> cases b <;> simp_all

/-- Parsed URLs show the same host with port exactly if they have the same host, and no port or one
that is written with the same digits. -/
theorem remote_eq_iff {t' : Text} {u' : Url} (parsed : parse t = .ok u)
    (parsed' : parse t' = .ok u') :
    u'.remote = u.remote ↔ u'.host = u.host ∧ u'.portText = u.portText := by
  constructor
  · intro same
    obtain ⟨_, _, shown⟩ := remote_of_parse parsed
    obtain ⟨host, port⟩ := splitHost_remote parsed shown
    obtain ⟨host', port'⟩ := splitHost_remote parsed' (same.trans shown)
    refine ⟨host'.trans host.symm, ?_⟩
    exact eq_of_getD_nil (portText_ne_some_nil parsed') (portText_ne_some_nil parsed)
      (port'.trans port.symm)
  · rintro ⟨hosts, ports⟩
    obtain ⟨host, hosted, shown⟩ := remote_of_parse parsed
    obtain ⟨host', hosted', shown'⟩ := remote_of_parse parsed'
    rw [hosts, hosted] at hosted'
    rw [shown, shown', ports, Option.some.inj hosted']

end Url

/-! ### The pattern of a URL -/

namespace Pattern

variable {t remote : Text} {u : Url} {q : WebProtocol}

/-- The parts of the pattern that a URL is. -/
theorem exists_parts_of_parse (parsed : Url.parse t = .ok u) (shown : u.remote = .ok remote)
    (starless : char '*' ∉ remote) (q : WebProtocol) :
    ∃ glob, u.path = char '/' :: glob ∧ char '?' ∉ glob ∧ IsHost remote ∧
      q.name ++ schemeMark ++ remote ++ u.path = Parts.text ⟨q.name, remote, glob⟩ := by
  have isPath := Url.isPath_of_parse parsed
  have isAuthority := Url.isAuthorityText_remote parsed shown
  cases path : u.path with
  | nil =>
    have rooted := isPath.rooted
    rw [path] at rooted
    cases rooted
  | cons c glob =>
    have rooted := isPath.rooted
    rw [path] at rooted
    obtain rfl : c = '/' := Option.some.inj rooted
    have markless : char '?' ∉ glob := fun mem => (isPath.plain '?' (by simp [path, mem])).1 rfl
    have slashless : char '/' ∉ remote := fun mem => by
      have ends := (isAuthority.plain '/' mem).1
      cases ends
    exact ⟨glob, rfl, markless, .exact ⟨isAuthority.nonempty, starless⟩ slashless, rfl⟩

/-- A host without `*` fits itself alone. -/
theorem hostFits_iff_eq {h r : Text} (starless : char '*' ∉ h) : HostFits h r ↔ r = h := by
  have plain : h.head? ≠ some (char '*') := fun star => starless (List.mem_of_mem_head? star)
  constructor
  · intro fits
    cases fits with
    | any => exact absurd rfl plain
    | domain => exact absurd rfl plain
    | below => exact absurd rfl plain
    | exact _ => rfl
  · rintro rfl
    exact .exact plain

/-- What the pattern of a URL is for: the same protocol and the same host with port, and a path that
its path spells as a glob. -/
theorem isFor_url_iff (parsed : Url.parse t = .ok u) (shown : u.remote = .ok remote)
    (starless : char '*' ∉ remote) (q : WebProtocol) {v : Json} :
    IsFor (q.name ++ schemeMark ++ remote ++ u.path) v ↔
      ∃ t' u', v = .str t' ∧ Url.parse t' = .ok u' ∧ u'.protocol = some q.name ∧
        u'.remote = .ok remote ∧ Glob.Spells u.path u'.path := by
  obtain ⟨glob, path, _, isHost, written⟩ := exists_parts_of_parse parsed shown starless q
  rw [written, isFor_text_iff (.only q) isHost, path]
  constructor
  · intro fits
    cases fits with
    | @url t' remote' u' q' parsed' named shown' mem fits spelled =>
      obtain rfl := (hostFits_iff_eq starless).mp fits
      obtain rfl := List.mem_singleton.mp mem
      exact ⟨t', u', rfl, parsed', named, shown', spelled⟩
  · rintro ⟨t', u', rfl, parsed', named, shown', spelled⟩
    have fits := (hostFits_iff_eq starless).mpr rfl
    exact .url parsed' named shown' (List.mem_singleton.mpr rfl) fits spelled

/-- **A URL is a pattern for itself.** Host and port of a URL can be shown, and if no `*` stands in
them, they make a pattern that matches the URL, with the protocol in front and the path behind,
whatever the cache holds. If no `*` stands in the path either, it matches exactly the URLs with
these three parts. To show the same host with port is to have the same host and the same digits of a
port. -/
theorem test_own_url {s : Session} (reached : s.cache.Reachable) (parsed : Url.parse t = .ok u)
    (web : u.protocol = some q.name) :
    ∃ remote, u.remote = .ok remote ∧ (char '*' ∉ remote →
      (compile (q.name ++ schemeMark ++ remote ++ u.path)).isSome = true ∧
        (test (.str (q.name ++ schemeMark ++ remote ++ u.path)) (.str t)).outcome.result s =
          .ok true ∧
        (char '*' ∉ u.path → ∀ v : Json,
          (test (.str (q.name ++ schemeMark ++ remote ++ u.path)) v).outcome.result s = .ok true ↔
            ∃ t' u', v = .str t' ∧ Url.parse t' = .ok u' ∧ u'.protocol = u.protocol ∧
              u'.remote = u.remote ∧ u'.path = u.path)) ∧
      ∀ t' u', Url.parse t' = .ok u' →
        (u'.remote = u.remote ↔ u'.host = u.host ∧ u'.portText = u.portText) := by
  obtain ⟨remote, shown⟩ : ∃ remote, u.remote = .ok remote := by
    obtain ⟨_, _, shown⟩ := Url.remote_of_parse parsed
    exact ⟨_, shown⟩
  refine ⟨remote, shown, fun starless => ?_, fun t' u' => Url.remote_eq_iff parsed⟩
  obtain ⟨glob, path, markless, isHost, written⟩ :=
    exists_parts_of_parse parsed shown starless q
  have noMark : char '?' ∉ u.path := by simp [path, markless]
  simp only [result_test_eq_true_iff reached, isFor_iff, isFor_url_iff parsed shown starless]
  refine ⟨?_, ?_, fun noStar v => ?_⟩
  · have proper : Parts.IsProper ⟨q.name, remote, glob⟩ := ⟨⟨_, .only q⟩, isHost⟩
    obtain ⟨p, read, _⟩ := proper.compile_text
    rw [written, read]
    rfl
  · exact ⟨t, u, rfl, parsed, web, shown, Glob.spells_self noMark⟩
  · simp only [Glob.spells_iff_eq noStar noMark, web, shown]

/-- Capitals, credentials, zeros in front of the port, and brackets, dots and a plus in the path,
which stand for themselves. -/
theorem test_own_url_of_marks :
    let u : Url := {
      protocol := some "http".toText, username := some "u".toText, password := none,
      host := some "[::1]".toText, port := some 80, path := "/a.b+(c)[d]".toText,
      portText := some "0080".toText }
    Session.start.cache.Reachable ∧ Url.parse " HTTP://u@[::1]:0080/a.b+(c)[d]?q".toText = .ok u ∧
      u.remote = .ok "[::1]:0080".toText ∧
      (compile "http://[::1]:0080/a.b+(c)[d]".toText).isSome = true ∧
      (test (.str "http://[::1]:0080/a.b+(c)[d]".toText)
        (.str " HTTP://u@[::1]:0080/a.b+(c)[d]?q".toText)).outcome.result Session.start =
        .ok true ∧
      (test (.str "http://[::1]:0080/a.b+(c)[d]".toText)
        (.str "http://[::1]:80/a.b+(c)[d]".toText)).outcome.result Session.start ≠ .ok true := by
  intro u
  have reached : Session.start.cache.Reachable := .ofCapacity 256
  have parsed : Url.parse " HTTP://u@[::1]:0080/a.b+(c)[d]?q".toText = .ok u := rfl
  have shown : u.remote = .ok "[::1]:0080".toText := by
    obtain ⟨_, hosted, shown⟩ := Url.remote_of_parse parsed
    cases hosted
    exact shown
  obtain ⟨remote, shown', own, remotes⟩ := test_own_url (q := .http) reached parsed rfl
  obtain rfl := Except.ok.inj (shown.symm.trans shown')
  obtain ⟨isPattern, itself, others⟩ := own (by decide)
  refine ⟨reached, parsed, shown, isPattern, itself, fun matched => ?_⟩
  obtain ⟨t', u', same, parsed', _, remote', _⟩ := (others (by decide) _).mp matched
  have digits := ((remotes t' u' parsed').mp remote').2
  cases same
  cases parsed'
  exact absurd digits (by decide)

end Pattern

end ProxySelection
