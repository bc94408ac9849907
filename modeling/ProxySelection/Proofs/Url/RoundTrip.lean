import ProxySelection.Proofs.Url.Authority
import ProxySelection.Proofs.Url.Shape

/-!
Writing a URL that was read, and reading it again.

What is written of a parsed URL is a protocol, an authority and a path (`render_of_parse`), and
these are found again where they were put. The authority need not be the one that was read: an
empty user name or password is left out, and reading does not bring it back. A path is read
without the blanks at its end. `ShownWhole` excludes just that, and it decides whether the URL
comes back as it was: `parse_render_of_shownWhole` and `shownWhole_of_parse_render`.
-/

namespace ProxySelection

namespace Url

/-- Nothing of a URL is lost in its text: no part of the credentials is empty, and the path has no
blank at its end. -/
structure ShownWhole (u : Url) : Prop where
  username : u.username ≠ some []
  password : u.password ≠ some []
  path : ∀ c, u.path.getLast? = some c → isBlank c = false

/-- The text of a URL between its protocol and its path. -/
def authorityShown (u : Url) : Text :=
  u.userShown u.password ++
    (u.host.getD [] ++ (u.portText.map fun written => char ':' :: written).getD [])

variable {t path : Text} {u : Url} {a : Authority} {protocol : Option Text}

/-! ### What is written -/

theorem authorityShown_ofParts (protocol : Option Text) (a : Authority) (path : Text) :
    (ofParts protocol a path).authorityShown =
      (ofParts protocol a path).userShown a.password ++ (a.host ++ Authority.portPart a.port) := by
  unfold authorityShown
  cases port : a.port <;> simp [ofParts, port, Authority.portPart]

theorem remote_ofParts (parsed : parse t = .ok (ofParts protocol a path)) :
    (ofParts protocol a path).remote = .ok (a.host ++ Authority.portPart a.port) := by
  obtain ⟨host, hosted, shown⟩ := remote_of_parse parsed
  obtain rfl : a.host = host := Option.some.inj hosted
  rw [shown]
  cases port : a.port <;> simp [ofParts, port, Authority.portPart]

/-- A parsed URL consists of a protocol, an authority that can be read, and a path. -/
theorem parts_of_parse (parsed : parse t = .ok u) :
    ∃ s a path, Authority.read s = .ok a ∧ a.host ≠ [] ∧
      (∀ c ∈ s, endsAuthority c = false ∧ isBreak c = false ∧ isBlank c = false) ∧
      IsPathText path ∧ (∀ q, u.protocol = some q → IsProtocol q) ∧
      u = ofParts u.protocol a path := by
  obtain ⟨_, a, read, hosted, unblanked, rfl⟩ := parse_eq_ok_iff.mp parsed
  refine ⟨_, a, _, read, by simpa using hosted, ?_, isPathText_pathText t.trim, ?_, rfl⟩
  · intro c mem
    obtain ⟨inBody, ends⟩ := mem_authorityText mem
    rw [List.any_eq_false] at unblanked
    exact ⟨ends, isBreak_bodyOf _ c inBody, by simpa using unblanked c mem⟩
  · intro q found
    exact isProtocol_of_cutProtocol (Prod.ext found rfl)

/-- Host and port of a parsed URL stand as an authority. -/
theorem isAuthorityText_remote {remote : Text} (parsed : parse t = .ok u)
    (shown : u.remote = .ok remote) : IsAuthorityText remote := by
  obtain ⟨s, a, path, read, hosted, plain, _, _, whole⟩ := parts_of_parse parsed
  rw [whole] at parsed shown
  obtain rfl := Except.ok.inj ((remote_ofParts parsed).symm.trans shown)
  refine ⟨by simp [hosted], fun c mem => ?_, Authority.getLast?_hostAndPort read hosted⟩
  exact plain c (Authority.mem_of_mem_written read hosted (List.mem_append_right _ mem))

theorem protocolShown_eq (isProtocol : ∀ q, u.protocol = some q → IsProtocol q) :
    u.protocolShown = protocolText u.protocol := by
  unfold protocolShown
  cases found : u.protocol with
  | none => rfl
  | some q =>
    obtain ⟨c, r, rfl, _⟩ := isProtocol q found
    rfl

theorem render_of_parse (parsed : parse t = .ok u) :
    u.render = .ok (protocolText u.protocol ++ (u.authorityShown ++ u.pathShown)) := by
  obtain ⟨host, hosted, shown⟩ := remote_of_parse parsed
  obtain ⟨_, _, _, _, _, _, _, isProtocol, _⟩ := parts_of_parse parsed
  have there : u.isEmpty = false := by simp [isEmpty, hosted]
  unfold render renderWith authorityShown
  rw [there, shown, hosted, protocolShown_eq isProtocol]
  simp [bind, Except.bind, pure, Except.pure]

theorem userShown_eq_userText (username : u.username ≠ some []) (password : u.password ≠ some []) :
    u.userShown u.password = Authority.userText u.username u.password := by
  unfold userShown
  rcases named : u.username with _ | _ | ⟨c, name⟩
  · rfl
  · exact absurd named username
  · rcases given : u.password with _ | _ | ⟨d, rest⟩
    · simp [isGiven, Authority.userText]
    · exact absurd given password
    · simp [isGiven, Authority.userText]

theorem mem_userShown {c : CodePoint} (mem : c ∈ u.userShown u.password) :
    c ∈ Authority.userText u.username u.password := by
  unfold userShown at mem
  rcases named : u.username with _ | _ | ⟨d, name⟩
  · simp [named] at mem
  · simp [named] at mem
  · rcases given : u.password with _ | _ | ⟨e, rest⟩ <;>
      · simp only [named, given, isGiven] at mem
        simp only [Authority.userText]
        simp at mem ⊢
        tauto

theorem isAuthorityText_authorityShown (parsed : parse t = .ok u) :
    IsAuthorityText u.authorityShown := by
  obtain ⟨s, a, path, read, hosted, plain, _, _, whole⟩ := parts_of_parse parsed
  have shown : u.authorityShown =
      u.userShown u.password ++ (a.host ++ Authority.portPart a.port) := by
    rw [whole]
    exact authorityShown_ofParts _ a path
  have inside : ∀ c ∈ u.authorityShown, c ∈ s := by
    intro c mem
    have written : c ∈ a.written := by
      rw [shown, List.mem_append] at mem
      refine List.mem_append.mpr (mem.imp_left fun mem => ?_)
      have mem := mem_userShown mem
      rw [whole] at mem
      exact mem
    exact Authority.mem_of_mem_written read hosted written
  constructor
  · simp [shown, hosted]
  · intro c mem
    exact plain c (inside c mem)
  · have last := Authority.getLast?_hostAndPort read hosted
    rw [shown, List.getLast?_append_of_ne_nil _ (by simp [hosted])]
    exact last

theorem pathShown_ofParts (protocol : Option Text) (a : Authority) (path : Text) :
    (ofParts protocol a path).pathShown = if path = [char '/'] then [] else path := by
  unfold pathShown ofParts
  cases path <;> simp

theorem isPathText_pathShown (parsed : parse t = .ok u) : IsPathText u.pathShown := by
  obtain ⟨_, _, path, _, _, _, isPath, _, whole⟩ := parts_of_parse parsed
  rw [whole, pathShown_ofParts]
  split
  · exact ⟨by simp, by simp⟩
  · exact isPath

/-- The root is left out and comes back. -/
theorem ofParts_pathShown (protocol : Option Text) (a : Authority) (path : Text) :
    ofParts protocol a (ofParts protocol a path).pathShown = ofParts protocol a path := by
  rw [pathShown_ofParts]
  split
  · rename_i root
    simp [ofParts, root]
  · rfl

/-- The parts of a user part that is shown are not empty. -/
theorem userShown_eq_userFront (colonless : ∀ name, u.username = some name → char ':' ∉ name) :
    ∃ user, u.userShown u.password = Authority.userFront user ∧
      (Authority.splitUser user).1 ≠ some [] ∧ (Authority.splitUser user).2 ≠ some [] := by
  unfold userShown
  rcases named : u.username with _ | _ | ⟨c, name⟩
  · exact ⟨none, rfl, by simp [Authority.splitUser], by simp [Authority.splitUser]⟩
  · exact ⟨none, rfl, by simp [Authority.splitUser], by simp [Authority.splitUser]⟩
  · have free := colonless _ named
    rcases given : u.password with _ | _ | ⟨d, rest⟩
    · refine ⟨some (c :: name), by simp [isGiven, Authority.userFront], ?_⟩
      simp [Authority.splitUser, Text.cut_of_not_mem free]
    · refine ⟨some (c :: name), by simp [isGiven, Authority.userFront], ?_⟩
      simp [Authority.splitUser, Text.cut_of_not_mem free]
    · refine ⟨some (c :: name ++ char ':' :: d :: rest), by simp [isGiven, Authority.userFront], ?_⟩
      simp only [Authority.splitUser, Text.cut_append free]
      simp

/-! ### What is read of it -/

/-- What is written of a parsed URL is parsed to the URL of its parts. -/
theorem parse_render_eq_ok_iff {text : Text} {w : Url} (parsed : parse t = .ok u)
    (shown : u.render = .ok text) :
    parse text = .ok w ↔
      ∃ a, Authority.read u.authorityShown = .ok a ∧ a.host.isEmpty = false ∧
        w = ofParts u.protocol a (Text.dropEndWhile isBlank u.pathShown) := by
  obtain ⟨_, _, _, _, _, _, _, isProtocol, _⟩ := parts_of_parse parsed
  rw [render_of_parse parsed] at shown
  obtain rfl := Except.ok.inj shown
  exact parse_append_iff isProtocol (isAuthorityText_authorityShown parsed)
    (isPathText_pathShown parsed)

/-- A URL of which nothing is lost comes back as it was. -/
theorem parse_render_of_shownWhole {text : Text} (parsed : parse t = .ok u)
    (shown : u.render = .ok text) (w : u.ShownWhole) : parse text = .ok u := by
  obtain ⟨s, a, path, read, hosted, _, _, _, whole⟩ := parts_of_parse parsed
  have written : u.authorityShown = a.written := by
    have user := userShown_eq_userText w.username w.password
    rw [whole] at user ⊢
    rw [authorityShown_ofParts, Authority.written]
    exact congrArg (· ++ (a.host ++ Authority.portPart a.port)) user
  have ends : Text.dropEndWhile isBlank u.pathShown = u.pathShown := by
    refine Text.dropEndWhile_eq_self fun c last => ?_
    unfold pathShown at last
    split at last
    · cases last
    · exact w.path c last
  have again := ofParts_pathShown u.protocol a path
  rw [← whole] at again
  refine (parse_render_eq_ok_iff parsed shown).mpr ⟨a, ?_, by simpa using hosted, ?_⟩
  · rw [written]
    exact Authority.read_written read hosted
  · rw [ends, again]

/-- Of a URL that comes back as it was nothing is lost. -/
theorem shownWhole_of_parse_render {text : Text} (parsed : parse t = .ok u)
    (shown : u.render = .ok text) (back : parse text = .ok u) : u.ShownWhole := by
  obtain ⟨s, a, path, read, hosted, _, _, _, whole⟩ := parts_of_parse parsed
  obtain ⟨a', read', _, same⟩ := (parse_render_eq_ok_iff parsed shown).mp back
  have colonless : ∀ name, u.username = some name → char ':' ∉ name := by
    intro name named
    rw [whole] at named
    exact Authority.colon_not_mem_username read named
  obtain ⟨user, front, username, password⟩ := userShown_eq_userFront colonless
  have cut : Text.cutLast '@' u.authorityShown = (user, a.host ++ Authority.portPart a.port) := by
    have text : u.authorityShown =
        Authority.userFront user ++ (a.host ++ Authority.portPart a.port) := by
      rw [← front, whole]
      exact authorityShown_ofParts _ a path
    rw [text]
    exact Authority.cutLast_userFront user (Authority.mark_not_mem_hostAndPort read hosted)
  obtain ⟨_, _, parts, _⟩ := Authority.read_eq_ok_iff.mp read'
  rw [cut] at parts
  rw [← parts] at username password
  constructor
  · rw [same]
    exact username
  · rw [same]
    exact password
  · rw [same]
    intro c last
    unfold ofParts at last
    split at last
    · obtain rfl : '/' = c := by simpa using last
      decide
    · exact Text.getLast?_dropEndWhile last

/-- The text of a parsed URL is parsed to the same URL if and only if neither the user name nor
the password is empty and the path does not end with a blank. -/
theorem parse_render_iff (parsed : parse t = .ok u) :
    ∃ text, u.render = .ok text ∧
      (parse text = .ok u ↔
        u.username ≠ some [] ∧ u.password ≠ some [] ∧
          ∀ c, u.path.getLast? = some c → isBlank c = false) := by
  have shown := render_of_parse parsed
  refine ⟨_, shown, ?_, ?_⟩
  · intro back
    obtain ⟨username, password, path⟩ := shownWhole_of_parse_render parsed shown back
    exact ⟨username, password, path⟩
  · rintro ⟨username, password, path⟩
    exact parse_render_of_shownWhole parsed shown ⟨username, password, path⟩

/-- A host in brackets, a protocol in capitals, zeros in front of a port and a blank inside the
path do not hinder this. -/
theorem parse_render_bracketed :
    let u : Url := {
      protocol := some "http".toText, username := some "u".toText, password := some "p".toText,
      host := some "[::1]".toText, port := some 80, path := "/a b".toText,
      portText := some "0080".toText }
    parse " HTTP://u:p@[::1]:0080/a b?q".toText = .ok u ∧
      ∃ text, u.render = .ok text ∧ parse text = .ok u := by
  intro u
  have parsed : parse " HTTP://u:p@[::1]:0080/a b?q".toText = .ok u := rfl
  obtain ⟨text, shown, back⟩ := parse_render_iff parsed
  refine ⟨parsed, text, shown, back.mpr ⟨by decide, by decide, ?_⟩⟩
  intro c last
  obtain rfl : char 'b' = c := by simpa [u, String.toText] using last
  decide

end Url

end ProxySelection
