import ProxySelection.Url.Basic
import ProxySelection.Proofs.Number.Decimal

/-!
What a URL is that has been parsed.

`parse_eq_ok_iff` says once which texts are parsed and to which URL: the text behind the
protocol, without its breaks, has an authority that can be read, with a host and without
blanks. From it come the two facts that matching rests on. The port of a parsed URL is the
number of the digits that it was written with, so that showing host and port never fails
(`remote_of_parse`). And its path holds no line feed (`lineFeed_not_mem_path`).
-/

namespace ProxySelection

namespace Authority

/-- An authority is read if its brackets, its characters and its port pass, and its parts are
those of the user part and of what follows it. -/
theorem read_eq_ok_iff {t : Text} {a : Authority} :
    read t = .ok a ↔
      checkBrackets t = .ok () ∧ checkFolding t = .ok () ∧
        (a.username, a.password) = splitUser (Text.cutLast '@' t).1 ∧
        a.host = (splitHost (hostPart t)).1 ∧
        readPort (splitHost (hostPart t)).2 = .ok a.port := by
  unfold read
  cases checkBrackets t with
  | error fault => simp [bind, Except.bind]
  | ok _ =>
    cases checkFolding t with
    | error fault => simp [bind, Except.bind]
    | ok _ =>
      change (readPort (splitHost (hostPart t)).2).bind _ = _ ↔ _
      cases read : readPort (splitHost (hostPart t)).2 with
      | error fault => simp [Except.bind]
      | ok port =>
        obtain ⟨username, password, host, port'⟩ := a
        simp only [Except.bind, pure, Except.pure, Except.ok.injEq, Authority.mk.injEq,
          Prod.ext_iff, true_and]
        constructor
        · rintro ⟨rfl, rfl, rfl, rfl⟩
          exact ⟨⟨rfl, rfl⟩, rfl, rfl⟩
        · rintro ⟨⟨rfl, rfl⟩, rfl, rfl⟩
          exact ⟨rfl, rfl, rfl, rfl⟩

/-- A port that is read is the number of its digits, of which there are not too many. -/
theorem readPort_eq_some {t written : Text} {n : Nat}
    (read : readPort t = .ok (some (n, written))) :
    written = t ∧ n = Decimal.value t ∧ t.isAsciiDigits = true ∧
      t.length ≤ Decimal.digitLimit ∧ n ≤ 65535 := by
  unfold readPort at read
  split at read
  · cases read
  split at read
  · cases read
  rename_i digits
  split at read
  · cases read
  rename_i short
  split at read
  · cases read
  rename_i inRange
  cases read
  exact ⟨rfl, rfl, by simpa using digits, by omega, by omega⟩

end Authority

/-- An integer with too many digits cannot be shown. -/
theorem Json.isShowable_int_eq_false {n : Int} (large : 10 ^ Decimal.digitLimit ≤ n.natAbs) :
    (Json.int n).isShowable = false := by
  have long := Decimal.lt_length_ofNat large
  simpa [isShowable, integers] using long

namespace Url

/-! ### Parsing -/

/-- What follows the protocol in a text without blanks around it, without breaks. -/
def bodyOf (t : Text) : Text := (cutProtocol t).2.filter fun c => !isBreak c

/-- The URL of a protocol, an authority and the text of a path. -/
def ofParts (protocol : Option Text) (a : Authority) (path : Text) : Url where
  protocol := protocol
  username := a.username
  password := a.password
  host := some a.host
  port := a.port.map fun p => (p.1 : Int)
  path := if path.isEmpty then [char '/'] else path
  portText := a.port.map (·.2)

/-- What is parsed is the authority of the body, unless it has no host or holds a blank. -/
theorem parseTrimmed_eq (t : Text) :
    parseTrimmed t =
      match Authority.read (authorityText (bodyOf t)) with
      | .error fault => .error (.invalid t fault)
      | .ok a =>
        if a.host.isEmpty || (authorityText (bodyOf t)).any isBlank then .error (.badHost t)
        else .ok (ofParts (cutProtocol t).1 a (pathText (bodyOf t))) :=
  rfl

/-- A text is parsed if it is not blank and the authority behind its protocol can be read, has
a host and holds no blank. The URL has the parts of both. -/
theorem parse_eq_ok_iff {t : Text} {u : Url} :
    parse t = .ok u ↔
      t.allBlank = false ∧ ∃ a, Authority.read (authorityText (bodyOf t.trim)) = .ok a ∧
        a.host.isEmpty = false ∧ (authorityText (bodyOf t.trim)).any isBlank = false ∧
        u = ofParts (cutProtocol t.trim).1 a (pathText (bodyOf t.trim)) := by
  unfold parse
  cases t.allBlank with
  | true => simp
  | false =>
    rw [parseTrimmed_eq]
    simp only [Bool.false_eq_true, if_false, true_and]
    cases Authority.read (authorityText (bodyOf t.trim)) with
    | error fault => simp
    | ok a =>
      cases host : a.host.isEmpty with
      | true =>
        simp only [host, Bool.true_or, if_true, reduceCtorEq, Except.ok.injEq, exists_eq_left',
          Bool.true_eq_false, false_and]
      | false =>
        cases (authorityText (bodyOf t.trim)).any isBlank with
        | true => simp
        | false =>
          simp only [host, Bool.or_self, Bool.false_eq_true, if_false, Except.ok.injEq,
            exists_eq_left', true_and]
          exact eq_comm

/-! ### Values -/

theorem ofJson_of_ne {v : Json} (other : ∀ t, v ≠ .str t) :
    ofJson v = if v.isShowable then .ok (.error (.notUrl v)) else .error .tooLongToWrite := by
  unfold ofJson
  split
  · exact absurd rfl (other _)
  · rfl

/-- Of a value that can be shown it can be said whether it is a URL. -/
theorem ofJson_eq_ok {v : Json} (shown : v.isShowable = true) :
    ∃ answer, ofJson v = .ok answer := by
  cases v with
  | str t => exact ⟨_, rfl⟩
  | _ => exact ⟨_, (ofJson_of_ne (by simp)).trans (if_pos shown)⟩

/-- Of a value that cannot be shown it cannot be said. -/
theorem ofJson_eq_error {v : Json} (unshown : v.isShowable = false) :
    ofJson v = .error .tooLongToWrite := by
  cases v with
  | str t => cases unshown
  | _ => exact (ofJson_of_ne (by simp)).trans (if_neg (Bool.eq_false_iff.mp unshown))

theorem ofJson_cases (v : Json) :
    (∃ answer, ofJson v = .ok answer) ∨
      (v.isShowable = false ∧ ofJson v = .error .tooLongToWrite) := by
  cases shown : v.isShowable with
  | true => exact .inl (ofJson_eq_ok shown)
  | false => exact .inr ⟨rfl, ofJson_eq_error shown⟩

/-- A value is a URL only as a text. -/
theorem parse_of_ofJson {v : Json} {u : Url} (read : ofJson v = .ok (.ok u)) :
    ∃ t, v = .str t ∧ parse t = .ok u := by
  cases v with
  | str t => exact ⟨t, rfl, Except.ok.inj read⟩
  | _ =>
    rw [ofJson_of_ne (by simp)] at read
    split at read <;> cases read

/-! ### Host and port -/

/-- A written port that is made of ASCII digits within the limit is shown as it was written. -/
theorem portShown_eq_ok {t : Text} (ascii : t.isAsciiDigits = true)
    (short : t.length ≤ Decimal.digitLimit) (inRange : Decimal.value t ≤ 65535) :
    portShown (some t) (Decimal.value t) = .ok t := by
  unfold portShown
  rw [Decimal.write_eq_ok_of_le inRange]
  simp only [bind, Except.bind, Text.isDigits_of_ascii ascii, Decimal.read_eq_ok ascii short,
    if_true]
  rfl

/-- The port of a parsed URL is there with its digits, whose number it is, or it is not there
and neither are digits. -/
theorem port_of_parse {t : Text} {u : Url} (parsed : parse t = .ok u) :
    (u.port = none ∧ u.portText = none) ∨
      ∃ written, u.portText = some written ∧ u.port = some (Decimal.value written : Int) ∧
        written.isAsciiDigits = true ∧ written.length ≤ Decimal.digitLimit ∧
        Decimal.value written ≤ 65535 := by
  obtain ⟨_, a, read, _, _, rfl⟩ := parse_eq_ok_iff.mp parsed
  obtain ⟨_, _, _, _, port⟩ := Authority.read_eq_ok_iff.mp read
  cases found : a.port with
  | none => exact .inl (by simp [ofParts, found])
  | some p =>
    obtain ⟨n, written⟩ := p
    rw [found] at port
    obtain ⟨rfl, rfl, ascii, short, inRange⟩ := Authority.readPort_eq_some port
    exact .inr ⟨_, by simp [ofParts, found], by simp [ofParts, found], ascii, short, inRange⟩

theorem host_of_parse {t : Text} {u : Url} (parsed : parse t = .ok u) :
    ∃ host, u.host = some host ∧ host ≠ [] := by
  obtain ⟨_, a, _, nonempty, _, rfl⟩ := parse_eq_ok_iff.mp parsed
  exact ⟨a.host, rfl, List.isEmpty_eq_false_iff.mp nonempty⟩

/-- Host and port of a parsed URL can be shown, the port as it was written. -/
theorem remote_of_parse {t : Text} {u : Url} (parsed : parse t = .ok u) :
    ∃ host, u.host = some host ∧
      u.remote = .ok (host ++ (u.portText.map fun written => char ':' :: written).getD []) := by
  obtain ⟨host, hosted, _⟩ := host_of_parse parsed
  refine ⟨host, hosted, ?_⟩
  unfold remote
  rcases port_of_parse parsed with ⟨port, text⟩ | ⟨written, text, port, ascii, short, inRange⟩
  · rw [hosted, port, text]
    simp
  · rw [hosted, port, text]
    simp only [portShown_eq_ok ascii short inRange]
    rfl

/-- Where host and port can be shown, the whole URL can. -/
theorem renderWith_of_remote {u : Url} {remote : Text} (shown : u.remote = .ok remote)
    (password : Option Text) : ∃ t, u.renderWith password = .ok t := by
  unfold renderWith
  rw [shown]
  split
  · exact ⟨_, rfl⟩
  · exact ⟨_, rfl⟩

/-! ### Path -/

/-- The path of a parsed URL holds no line feed. -/
theorem lineFeed_not_mem_path {t : Text} {u : Url} (parsed : parse t = .ok u) :
    char '\n' ∉ u.path := by
  obtain ⟨_, a, _, _, _, rfl⟩ := parse_eq_ok_iff.mp parsed
  intro mem
  unfold ofParts at mem
  split at mem
  · simp at mem
  -- The path is a piece of the body, from which all breaks are taken out.
  · have inBody : char '\n' ∈ bodyOf t.trim :=
      (List.dropWhile_sublist _).subset ((List.takeWhile_sublist _).subset mem)
    obtain ⟨_, kept⟩ := List.mem_filter.mp inBody
    exact absurd kept (by decide)

end Url

end ProxySelection
