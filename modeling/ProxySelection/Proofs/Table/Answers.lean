import ProxySelection.Url.Member
import ProxySelection.Proofs.Table.Selection

/-!
When matching and selecting answer.

A value that is no URL is matched by nothing but `<all_urls>`. For one that is, showing the
remote host is the only step left that can fail, and it fails for some URLs: where the port
has more digits than can be written (`remote_eq_tooLong`), and where the port is written in
characters that count as digits but denote no number (`remote_eq_notInteger`). A parsed URL is
neither, because its port was read from at most 4300 ASCII digits. But that a value is no URL is
said by showing the value, and this fails for one with an integer of too many digits in it. So a
match ends with yes or no, and a selection with a route of the table or none, unless such a value is
put to a pattern that asks for a URL: `matching_answers_iff`.
-/

namespace ProxySelection

namespace Url

/-! ### URLs whose remote host cannot be shown -/

/-- A URL with a host and this port. -/
def withPort (port : Int) (written : Option Text) : Json := .obj [
  (hostName, .str [char 'h']), (portName, .int port), (portTextName, Json.ofText? written)]

theorem check_withPort (port : Int) (written : Option Text) :
    check (withPort port written) =
      .ok { host := some [char 'h'], port := some port, portText := written } := by
  cases written with
  | none => rfl
  | some t => rfl

theorem remote_eq_tooLong {port : Int} (large : 10 ^ Decimal.digitLimit ≤ port.natAbs) :
    remote { host := some [char 'h'], port := some port } = .error .tooLongToWrite := by
  have failed := Decimal.write_eq_tooLong large
  simp only [remote, portShown, failed]
  rfl

theorem remote_eq_notInteger :
    remote { host := some [char 'h'], port := some 2, portText := some [char '²'] } =
      .error (.notInteger [char '²']) := by
  have written : Decimal.write 2 = .ok (Decimal.ofInt 2) :=
    Decimal.write_eq_ok_of_le (by decide : 2 ≤ 65535)
  simp only [remote, portShown, written]
  rfl

/-! ### URLs whose remote host can be shown -/

/-- Neither half of a port of a parsed URL fails to be written or read. -/
theorem port_convertible {t : Text} {u : Url} (parsed : parse t = .ok u) :
    (∀ n, u.port = some n → ∃ shown, Decimal.write n = .ok shown) ∧
      ∀ written, u.portText = some written → ∃ n, Decimal.read written = .ok n := by
  rcases port_of_parse parsed with ⟨port, text⟩ | ⟨written, text, port, ascii, short, inRange⟩
  · simp [port, text]
  · constructor
    · intro n same
      cases port.symm.trans same
      exact ⟨_, Decimal.write_eq_ok_of_le inRange⟩
    · intro written' same
      cases text.symm.trans same
      exact ⟨_, Decimal.read_eq_ok ascii short⟩

end Url

namespace RouteTable

/-- **When matching answers.** Whatever the cache holds, matching two values ends with yes or no,
except where a text that is a pattern other than `<all_urls>` is matched with a value that cannot be
shown: then it breaks off with the failure to show it. It is the same with the pattern of a route,
and selecting ends with a route of the table or none, except where it comes to an enabled route of
such a pattern before one that serves. So for texts, and for all other values that can be shown,
there is always an answer. What can be shown and is no URL is matched by nothing but `<all_urls>`;
of what is a URL, host and port can be shown, which fails for other URLs in either of two ways. -/
theorem matching_answers_iff {s : Session} (reached : s.cache.Reachable) :
    (∀ p u, (∃ b, (Pattern.test p u).outcome.result s = .ok b) ↔
      ¬ ∃ t, p = .str t ∧ Pattern.Breaks t u) ∧
    (∀ t u, Pattern.Breaks t u →
      (Pattern.test (.str t) u).outcome.result s = .error .tooLongToWrite) ∧
    (∀ (r : Route) (u : Json), (∃ b, (r.test u).outcome.result s = .ok b) ↔
      ¬ Pattern.Breaks r.pattern u) ∧
    (∀ (t : RouteTable) (u : Json), (∃ selected,
        (t.select u).outcome.result s = .ok selected ∧ ∀ r, selected = some r → r ∈ t.routes) ↔
      ¬ ∃ i r, t.IsBreak u i r) ∧
    (∀ (u : Json), u.isShowable = true →
      (∀ t, ¬ Pattern.Breaks t u) ∧ ∀ (t : RouteTable) i r, ¬ t.IsBreak u i r) ∧
    (∀ p u fault, Url.ofJson u = .ok (.error fault) → p ≠ .str Pattern.allUrls →
      (Pattern.test p u).outcome.result s = .ok false) ∧
    (∀ u w, Url.ofJson u = .ok (.ok w) → (∃ remote, w.remote = .ok remote) ∧
      (∀ n, w.port = some n → ∃ shown, Decimal.write n = .ok shown) ∧
      ∀ written, w.portText = some written → ∃ n, Decimal.read written = .ok n) ∧
    (∃ v w t, Url.check v = .ok w ∧ w.remote = .error (.notInteger t)) ∧
    ∃ v w, Url.check v = .ok w ∧ w.remote = .error .tooLongToWrite := by
  have ofText : ∀ t u, (∃ b, Pattern.testFresh (.str t) u = .ok b) ↔ ¬ Pattern.Breaks t u := by
    intro t u
    constructor
    · rintro ⟨b, answer⟩ breaks
      rw [Pattern.testFresh_of_breaks breaks] at answer
      cases answer
    · intro whole
      exact ⟨_, Pattern.testFresh_of_not_breaks whole⟩
  refine ⟨fun p u => ?_, fun t u breaks => ?_, fun r u => ?_, fun t u => ?_,
    fun u shown => ⟨Pattern.not_breaks_of_showable shown, fun t i r broken => ?_⟩,
    fun p u fault noUrl other => ?_, fun u w read => ?_, ?_, ?_⟩
  · rw [(Pattern.test_gives p u).result_eq reached]
    cases p with
    | str t =>
      rw [ofText]
      refine not_congr ⟨fun breaks => ⟨t, rfl, breaks⟩, ?_⟩
      rintro ⟨_, ⟨⟩, breaks⟩
      exact breaks
    | _ => exact iff_of_true ⟨false, rfl⟩ nofun
  · rw [(Pattern.test_gives (.str t) u).result_eq reached, Pattern.testFresh_of_breaks breaks]
  · rw [(r.test_gives u).result_eq reached]
    exact ofText r.pattern u
  · rw [(t.select_gives u).result_eq reached]
    constructor
    · rintro ⟨selected, found, _⟩ broken
      rw [selection_eq_error_iff.mpr ⟨rfl, broken⟩] at found
      cases found
    · intro whole
      cases found : selection u t.routes with
      | error fault => exact absurd (selection_eq_error_iff.mp found).2 whole
      | ok selected =>
        refine ⟨selected, rfl, ?_⟩
        rintro r rfl
        obtain ⟨i, first, _⟩ := selection_eq_some_iff.mp found
        exact List.mem_of_getElem? first.at_place
  · exact Route.not_breaks (.inr (.inr shown)) broken.breaks
  · rw [(Pattern.test_gives p u).result_eq reached]
    exact Pattern.testFresh_of_noUrl noUrl other
  · obtain ⟨t, _, parsed⟩ := Url.parse_of_ofJson read
    obtain ⟨_, _, shown⟩ := Url.remote_of_parse parsed
    exact ⟨⟨_, shown⟩, Url.port_convertible parsed⟩
  · exact ⟨_, _, _, Url.check_withPort 2 (some [char '²']), Url.remote_eq_notInteger⟩
  · refine ⟨_, _, Url.check_withPort ((10 ^ Decimal.digitLimit : Nat) : Int) none, ?_⟩
    exact Url.remote_eq_tooLong (Nat.le_of_eq (Int.natAbs_natCast _).symm)

/-- A pattern asks whether an integer of too many digits is a URL, and there is no answer; nor is
there one for a list of this integer, or from a route with the pattern. -/
theorem matching_answers_iff_of_large :
    let pattern := "http://a/*".toText
    let n : Int := (10 ^ Decimal.digitLimit : Nat)
    (Pattern.test (.str pattern) (.int n)).outcome.result Session.start = .error .tooLongToWrite ∧
      (Pattern.test (.str pattern) (.arr [.int n])).outcome.result Session.start =
        .error .tooLongToWrite ∧
      ¬ ∃ b, (Route.test { pattern } (.int n)).outcome.result Session.start = .ok b := by
  intro pattern n
  have reached : Session.start.cache.Reachable := .ofCapacity _
  have single : (Json.int n).isShowable = false :=
    Json.isShowable_int_eq_false (Nat.le_of_eq (Int.natAbs_natCast _).symm)
  have listed : (Json.arr [.int n]).isShowable = false := by
    simpa [Json.isShowable, Json.integers, Json.itemIntegers] using single
  obtain ⟨_, broken, route, _⟩ := matching_answers_iff reached
  have breaks {u : Json} (unshown : u.isShowable = false) : Pattern.Breaks pattern u :=
    ⟨rfl, by decide, unshown⟩
  exact ⟨broken _ _ (breaks single), broken _ _ (breaks listed),
    fun answer => (route _ _).mp answer (breaks single)⟩

end RouteTable

end ProxySelection
