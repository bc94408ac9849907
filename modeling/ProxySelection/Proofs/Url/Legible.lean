import ProxySelection.Proofs.Url.Overlay
import ProxySelection.Proofs.Url.Parsed

/-!
URLs whose host and port can be shown.

A port is written as a number and may be kept as it was given too. A number of at most 4300 digits
can always be written. The given text is looked at only if all of it is digits, but characters
count as digits there that no integer is read from, and it may be longer than what is read: a URL
can be shown if and only if neither is the case (`HasLegiblePort`, `remote_isOk_iff`). What is
parsed can; of what is given as an object it depends on the member that holds the text.
-/

namespace ProxySelection

/-! ### Integers of members -/

namespace Checked

variable {t : Text} {n : Int}

/-- The digits of a plain integer that is not too long. -/
theorem digits_of_plainInteger (plain : isPlainInteger t = true) (short : isTooLong t = false) :
    (∀ c ∈ (cutMinus t).2, c.isDigit = true) ∧ (cutMinus t).2.length ≤ Decimal.digitLimit := by
  simp only [isPlainInteger, Bool.and_eq_true, Bool.or_eq_true, decide_eq_true_eq] at plain
  obtain ⟨ascii, first⟩ := plain
  have digits := (Text.isAsciiDigits_iff.mp ascii).2
  refine ⟨digits, ?_⟩
  rcases first with zero | other
  · rw [zero]
    decide
  · have all : (cutMinus t).2.takeWhile CodePoint.isDigit = (cutMinus t).2 :=
      List.takeWhile_eq_self_iff.mpr digits
    by_contra long
    have tooLong : isTooLong t = true := by
      simp only [isTooLong, all, Bool.and_eq_true, decide_eq_true_eq]
      exact ⟨Nat.lt_of_not_le long, other⟩
    rw [tooLong] at short
    cases short

theorem plainInteger?_lt (read : plainInteger? t = some n) :
    n.natAbs < 10 ^ Decimal.digitLimit := by
  unfold plainInteger? at read
  split at read
  · rename_i fits
    simp only [Bool.and_eq_true, Bool.not_eq_true'] at fits
    obtain ⟨digits, short⟩ := digits_of_plainInteger fits.1 fits.2
    have small : Decimal.value (cutMinus t).2 < 10 ^ Decimal.digitLimit :=
      Nat.lt_of_lt_of_le (Decimal.value_lt digits) (Nat.pow_le_pow_right (by omega) short)
    cases cut : cutMinus t with
    | mk minus rest =>
      rw [cut] at read small
      cases minus <;>
        · obtain rfl := Option.some.inj read
          simpa using small
  · cases read

theorem integerOfText_lt (read : integerOfText t = .ok n) :
    n.natAbs < 10 ^ Decimal.digitLimit := by
  unfold integerOfText at read
  split at read
  · cases read
  · split at read
    · rename_i m found
      cases read
      rcases Option.or_eq_some_iff.mp found with plain | ⟨_, bare⟩
      · exact plainInteger?_lt plain
      · obtain ⟨t', _, plain⟩ := Option.bind_eq_some_iff.mp bare
        exact plainInteger?_lt plain
    · cases read

/-- Only an integer itself can be longer than what is written. -/
theorem integer_lt {v : Json} (read : integer v = .ok n)
    (given : ∀ m, v = .int m → m.natAbs < 10 ^ Decimal.digitLimit) :
    n.natAbs < 10 ^ Decimal.digitLimit := by
  cases v with
  | int m =>
    cases read
    exact given n rfl
  | bool b =>
    cases read
    cases b <;> exact Decimal.lt_bound_of_le (by decide)
  | float x =>
    simp only [integer] at read
    split at read
    · rename_i m _
      split at read
      · rename_i inside
        cases read
        rw [isInsideWord, wordBound, Bool.and_eq_true] at inside
        have above := of_decide_eq_true inside.1
        have below := of_decide_eq_true inside.2
        exact Decimal.lt_bound_of_le (by omega)
      · cases read
    · split at read <;> cases read
  | str t =>
    simp only [integer] at read
    split at read
    · exact integerOfText_lt read
    · cases read
  | null => cases read
  | arr items => cases read
  | obj ms => cases read

theorem optionalInteger_eq_some_iff {v : Json} :
    optionalInteger v = .ok (some n) ↔ integer v = .ok n := by
  cases v with
  | null => simp [optionalInteger, integer, fail]
  | _ => cases checked : integer _ <;> simp [optionalInteger, checked, Except.map]

theorem optionalText_eq_some_iff {v : Json} : optionalText v = .ok (some t) ↔ v = .str t := by
  cases v <;> simp [optionalText, text, fail, Except.map]

end Checked

/-! ### Members -/

namespace Members

variable {name : Text} {v : Json}

theorem mem_of_get? {ms : Members} (found : ms.get? name = some v) : (name, v) ∈ ms := by
  induction ms with
  | nil => cases found
  | cons m ms ih =>
    obtain ⟨n, w⟩ := m
    unfold get? at found
    split at found
    · rename_i same
      obtain rfl := Option.some.inj found
      simp [same]
    · exact List.mem_cons_of_mem _ (ih found)

/-- A member of an overlay comes from one of both sides. -/
theorem get?_overlay_cases {base top : Members} (found : (base.overlay top).get? name = some v) :
    (name, v) ∈ top ∨ base.get? name = some v := by
  induction top generalizing base with
  | nil => exact .inr found
  | cons m top ih =>
    obtain ⟨n, w⟩ := m
    have step : base.overlay ((n, w) :: top) = (base.put n w).overlay top := rfl
    rw [step] at found
    rcases ih found with above | below
    · exact .inl (List.mem_cons_of_mem _ above)
    · rw [get?_put] at below
      split at below
      · rename_i same
        obtain rfl := Option.some.inj below
        simp [same]
      · exact .inr below

end Members

namespace Url

/-! ### Hosts and ports that can be shown -/

/-- The port has no more digits than can be written. -/
def HasShortPort (u : Url) : Prop :=
  ∀ port, u.port = some port → port.natAbs < 10 ^ Decimal.digitLimit

/-- A text that is no run of digits, or one that an integer is read from. -/
def IsReadable (t : Text) : Prop := t.isDigits = true → ∃ n, Decimal.read t = .ok n

/-- Where host and port are shown, the port as it was given can be looked at. -/
def HasLegiblePort (u : Url) : Prop :=
  u.host ≠ none → u.port ≠ none → ∀ written, u.portText = some written → IsReadable written

variable {u : Url}

theorem portShown_isOk_iff (written : Option Text) {port : Int}
    (short : port.natAbs < 10 ^ Decimal.digitLimit) :
    (∃ t, portShown written port = .ok t) ↔ ∀ t, written = some t → IsReadable t := by
  unfold portShown IsReadable
  rw [Decimal.write_eq_ok short]
  cases written with
  | none => simp [bind, Except.bind, pure, Except.pure]
  | some t =>
    by_cases digits : t.isDigits = true
    · cases read : Decimal.read t with
      | error fault => simp [bind, Except.bind, digits, read]
      | ok n =>
        by_cases same : n = port <;>
          simp [bind, Except.bind, pure, Except.pure, digits, read, same]
    · simp [bind, Except.bind, pure, Except.pure, digits]

/-- Host and port can be shown if and only if the port is legible. -/
theorem remote_isOk_iff (short : u.HasShortPort) :
    (∃ t, u.remote = .ok t) ↔ u.HasLegiblePort := by
  unfold remote HasLegiblePort
  cases hosted : u.host with
  | none => simp
  | some host =>
    cases found : u.port with
    | none => simp
    | some port =>
      have shown := portShown_isOk_iff u.portText (short port found)
      rw [← shown]
      cases text : portShown u.portText port <;>
        simp [bind, Except.bind, pure, Except.pure, text]

/-- A URL can be written, with whatever password, if and only if its port is legible. -/
theorem renderWith_isOk_iff (short : u.HasShortPort) (password : Option Text) :
    (∃ t, u.renderWith password = .ok t) ↔ u.HasLegiblePort := by
  rw [← remote_isOk_iff short]
  constructor
  · rintro ⟨t, shown⟩
    unfold renderWith at shown
    cases remote : u.remote with
    | ok text => exact ⟨text, rfl⟩
    | error fault =>
      have empty : u.isEmpty = true := by
        by_contra there
        rw [if_neg there, remote] at shown
        cases shown
      have hostless := Option.isNone_iff_eq_none.mp empty
      simp [Url.remote, hostless] at remote
  · rintro ⟨text, shown⟩
    exact renderWith_of_remote shown password

/-- A server that is no server is shown as nothing. -/
theorem redacted_of_isEmpty (empty : u.isEmpty = true) : u.redacted = .ok [] := by
  rw [redacted, renderWith, if_pos empty]

/-! ### URLs that are shown in characters -/

/-- There are only characters in the parts of the URL that are shown besides its password, if it is
shown at all. -/
def HasEncodableParts (u : Url) : Prop :=
  u.isEmpty = false →
    Utf8.isEncodable (u.protocol.getD []) = true ∧ Utf8.isEncodable (u.username.getD []) = true ∧
      Utf8.isEncodable (u.host.getD []) = true ∧ Utf8.isEncodable u.path = true

theorem isEncodable_write {n : Int} {t : Text} (written : Decimal.write n = .ok t) :
    Utf8.isEncodable t = true := by
  have digits (m : Nat) : Utf8.isEncodable (Decimal.ofNat m) = true := by
    rw [Utf8.isEncodable, List.all_eq_true]
    exact fun c mem => CodePoint.isChar_of_isIn (Decimal.isDigit_of_mem_ofNat mem)
  unfold Decimal.write at written
  split at written
  · cases written
    cases n with
    | ofNat m => exact digits m
    | negSucc m => simp [Decimal.ofInt, CodePoint.isChar, digits]
  · cases written

/-- A port is shown in digits. -/
theorem isEncodable_portShown {written : Option Text} {port : Int} {t : Text}
    (shown : portShown written port = .ok t) : Utf8.isEncodable t = true := by
  unfold portShown at shown
  cases canonical : Decimal.write port with
  | error fault =>
    rw [canonical] at shown
    cases shown
  | ok text =>
    rw [canonical] at shown
    cases written with
    | none =>
      cases shown
      exact isEncodable_write canonical
    | some w =>
      by_cases digits : w.isDigits = true
      · cases read : Decimal.read w with
        | error fault => simp [bind, Except.bind, digits, read] at shown
        | ok n =>
          simp only [bind, Except.bind, digits, read, if_true] at shown
          split at shown
          · cases shown
            simp only [Text.isDigits, Bool.and_eq_true, List.all_eq_true] at digits
            rw [Utf8.isEncodable, List.all_eq_true]
            exact fun c mem => Digit.isChar_of_isDigit (digits.2 c mem)
          · cases shown
            exact isEncodable_write canonical
      · simp only [bind, Except.bind, digits] at shown
        cases shown
        exact isEncodable_write canonical

theorem isEncodable_remote {text : Text} (shown : u.remote = .ok text) :
    Utf8.isEncodable text = Utf8.isEncodable (u.host.getD []) := by
  unfold remote at shown
  cases host : u.host with
  | none =>
    rw [host] at shown
    cases shown
    rfl
  | some h =>
    cases port : u.port with
    | none =>
      rw [host, port] at shown
      cases shown
      rfl
    | some p =>
      rw [host, port] at shown
      cases written : portShown u.portText p with
      | error fault => simp [bind, Except.bind, written] at shown
      | ok t =>
        obtain rfl : h ++ char ':' :: t = text := by
          simpa [bind, Except.bind, pure, Except.pure, written] using shown
        simp [isEncodable_portShown written, CodePoint.isChar]

theorem isEncodable_protocolShown (u : Url) :
    Utf8.isEncodable u.protocolShown = Utf8.isEncodable (u.protocol.getD []) := by
  unfold protocolShown
  cases u.protocol with
  | none => rfl
  | some t => cases t <;> simp [protocolMark]

theorem isEncodable_userShown (u : Url) :
    Utf8.isEncodable (u.userShown (some mask)) = Utf8.isEncodable (u.username.getD []) := by
  unfold userShown
  cases u.username with
  | none => rfl
  | some t => cases t <;> cases isGiven u.password <;> simp [mask, CodePoint.isChar]

theorem isEncodable_pathShown (u : Url) :
    Utf8.isEncodable u.pathShown = Utf8.isEncodable u.path := by
  unfold pathShown
  split
  · rename_i root
    simp [root, CodePoint.isChar]
  · rfl

/-- What is shown of a URL with its password masked is characters exactly if its parts are. -/
theorem isEncodable_redacted_iff {text : Text} (shown : u.redacted = .ok text) :
    Utf8.isEncodable text = true ↔ u.HasEncodableParts := by
  unfold HasEncodableParts
  unfold redacted renderWith at shown
  by_cases empty : u.isEmpty = true
  · rw [if_pos empty] at shown
    cases shown
    simp [empty]
  · rw [if_neg empty] at shown
    cases remote : u.remote with
    | error fault => simp [bind, Except.bind, remote] at shown
    | ok host =>
      obtain rfl : u.protocolShown ++ u.userShown (some mask) ++ host ++ u.pathShown = text := by
        simpa [bind, Except.bind, pure, Except.pure, remote] using shown
      simp [isEncodable_protocolShown, isEncodable_userShown, isEncodable_pathShown,
        isEncodable_remote remote, empty]

/-! ### Where such ports come from -/

theorem hasShortPort_of_parse {t : Text} (parsed : parse t = .ok u) : u.HasShortPort := by
  intro port found
  rcases port_of_parse parsed with ⟨none, _⟩ | ⟨written, _, same, _, _, inRange⟩
  · rw [none] at found
    cases found
  · rw [same] at found
    obtain rfl := Option.some.inj found
    exact Decimal.lt_bound_of_le (by simpa using Nat.le_trans inRange (by decide))

theorem isReadable_of_parse {t written : Text} (parsed : parse t = .ok u)
    (text : u.portText = some written) : IsReadable written := by
  intro _
  rcases port_of_parse parsed with ⟨_, none⟩ | ⟨written', same, _, ascii, short, _⟩
  · rw [none] at text
    cases text
  · obtain rfl : written = written' := Option.some.inj (text.symm.trans same)
    exact ⟨_, Decimal.read_eq_ok ascii short⟩

/-- What a URL of members has as its host, as its port, and as the text of the port. -/
theorem address_of_ofMembers {ms : Members} (read : ofMembers ms = .ok u) :
    Checked.member ms hostName none .optionalText = .ok u.host ∧
      Checked.member ms portName none .optionalInteger = .ok u.port ∧
      Checked.member ms portTextName none .optionalText = .ok u.portText := by
  obtain ⟨_, _, _, host, port, _, text⟩ := ofMembers_eq_ok_iff_members.mp read
  exact ⟨host, port, text⟩

theorem hasShortPort_of_ofMembers {ms : Members} (read : ofMembers ms = .ok u)
    (given : ∀ n, ms.get? portName = some (.int n) → n.natAbs < 10 ^ Decimal.digitLimit) :
    u.HasShortPort := by
  intro port found
  obtain ⟨_, member, _⟩ := address_of_ofMembers read
  rcases Checked.member_eq_ok_iff.mp member with ⟨_, none⟩ | ⟨v, there, read⟩
  · rw [none] at found
    cases found
  · rw [found] at read
    refine Checked.integer_lt (Checked.optionalInteger_eq_some_iff.mp read) ?_
    rintro m rfl
    exact given m there

theorem portText_of_ofMembers {ms : Members} {written : Text} (read : ofMembers ms = .ok u)
    (text : u.portText = some written) : ms.get? portTextName = some (.str written) := by
  obtain ⟨_, _, member⟩ := address_of_ofMembers read
  rcases Checked.member_eq_ok_iff.mp member with ⟨_, none⟩ | ⟨v, there, read⟩
  · rw [none] at text
    cases text
  · rw [text] at read
    rw [there, Checked.optionalText_eq_some_iff.mp read]

end Url

end ProxySelection
