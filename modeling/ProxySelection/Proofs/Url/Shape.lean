import ProxySelection.Proofs.Text.Cut
import ProxySelection.Proofs.Url.Parsed

/-!
The texts of URLs, put together from their parts.

A text that is a protocol with its mark, an authority and a path is taken apart at the same
places: `cutProtocol_append`, `authorityText_append`, `pathText_append`. What can stand as an
authority there is `IsAuthorityText`; it must not end with a colon, or with a path behind it that
starts with two slashes it would be read as a protocol. So such a text is parsed to the URL of its
parts, less the blanks at its end: `parse_append_iff`.
-/

namespace ProxySelection

namespace Url

/-- A protocol as it is kept: a small letter, and then small letters, digits, `+`, `.`, `-`. -/
def IsProtocol (q : Text) : Prop :=
  ∃ c r, q = c :: r ∧ c.isLower = true ∧ ∀ x ∈ r, isProtocolChar x = true ∧ x.isUpper = false

/-- The name of a protocol as it may be given: a letter, and then characters of protocols. -/
def IsProtocolName (name : Text) : Prop :=
  ∃ c r, name = c :: r ∧ c.isAlpha = true ∧ ∀ x ∈ r, isProtocolChar x = true

/-- A text that stands as a whole between a protocol and a path. -/
structure IsAuthorityText (x : Text) : Prop where
  nonempty : x ≠ []
  plain : ∀ c ∈ x, endsAuthority c = false ∧ isBreak c = false ∧ isBlank c = false
  last : x.getLast? ≠ some (char ':')

/-- A path, or nothing. -/
structure IsPathText (path : Text) : Prop where
  rooted : ∀ c, path.head? = some c → c = '/'
  plain : ∀ c ∈ path, endsPath c = false ∧ isBreak c = false

/-- A protocol with its mark. -/
def protocolText : Option Text → Text
  | none => []
  | some q => q ++ protocolMark

variable {t q r x path : Text} {c : CodePoint}

/-! ### Characters of protocols -/

theorem toNat_of_isProtocolChar (h : isProtocolChar c = true) : c.toNat < 0x80 := by
  simp only [isProtocolChar, Bool.or_eq_true, decide_eq_true_eq] at h
  rcases h with ((named | rfl) | rfl) | rfl
  · obtain ⟨c, rfl, named⟩ := CodePoint.exists_of_isIn named
    have last : c.val ≤ 'z'.val := by
      change (decide (c.val ≥ 'A'.val ∧ c.val ≤ 'Z'.val) ||
        (c.val ≥ 'a'.val && c.val ≤ 'z'.val) ||
        (c.val ≥ '0'.val && c.val ≤ '9'.val)) = true at named
      simp only [Bool.or_eq_true, Bool.and_eq_true, decide_eq_true_eq] at named
      rcases named with (⟨_, upper⟩ | ⟨_, lower⟩) | ⟨_, digit⟩
      · exact UInt32.le_trans upper (by decide)
      · exact lower
      · exact UInt32.le_trans digit (by decide)
    exact Nat.lt_of_le_of_lt (UInt32.le_iff_toNat_le.mp last) (by decide)
  all_goals decide

/-- The characters of protocols are ASCII, so what holds of each of those holds of them. -/
theorem of_isProtocolChar (P : CodePoint → Prop) (h : isProtocolChar c = true)
    (all : ∀ n < 0x80, isProtocolChar (CodePoint.ofNat n) = true → P (CodePoint.ofNat n)) :
    P c := by
  have at_c := all c.toNat (toNat_of_isProtocolChar h)
  rw [CodePoint.ofNat_toNat] at at_c
  exact at_c h

theorem isProtocolChar_toLower (h : isProtocolChar c = true) :
    isProtocolChar c.toLower = true ∧ c.toLower.isUpper = false :=
  of_isProtocolChar (fun c => isProtocolChar c.toLower = true ∧ c.toLower.isUpper = false) h
    (by decide)

theorem isLower_toLower (h : isProtocolChar c = true) (letter : c.isAlpha = true) :
    c.toLower.isLower = true :=
  of_isProtocolChar (fun c => c.isAlpha = true → c.toLower.isLower = true) h (by decide) letter

theorem toLower_of_not_isUpper (h : isProtocolChar c = true) (small : c.isUpper = false) :
    c.toLower = c :=
  of_isProtocolChar (fun c => c.isUpper = false → c.toLower = c) h (by decide) small

theorem plain_of_isProtocolChar (h : isProtocolChar c = true) :
    isBlank c = false ∧ isBreak c = false ∧ c ≠ '/' ∧ c ≠ ':' :=
  of_isProtocolChar (fun c => isBlank c = false ∧ isBreak c = false ∧ c ≠ '/' ∧ c ≠ ':') h
    (by decide)

theorem isProtocolChar_of_isAlpha (h : c.isAlpha = true) : isProtocolChar c = true := by
  obtain ⟨x, rfl, letter⟩ := CodePoint.exists_of_isIn h
  have named : x.isAlphanum = true := by rw [Char.isAlphanum, letter, Bool.true_or]
  simp [isProtocolChar, named]

theorem isProtocolChar_of_isLower (h : c.isLower = true) :
    isProtocolChar c = true ∧ c.isAlpha = true ∧ c.isUpper = false := by
  have letter : c.isAlpha = true := by
    obtain ⟨x, rfl, small⟩ := CodePoint.exists_of_isIn h
    exact Bool.or_eq_true_iff.mpr (.inr small)
  have inside := isProtocolChar_of_isAlpha letter
  refine ⟨inside, letter, ?_⟩
  exact of_isProtocolChar (fun c => c.isLower = true → c.isUpper = false) inside (by decide) h

theorem IsProtocol.isProtocolChar (h : IsProtocol q) :
    ∀ c ∈ q, isProtocolChar c = true ∧ c.isUpper = false := by
  obtain ⟨c, r, rfl, first, others⟩ := h
  intro x mem
  rcases List.mem_cons.mp mem with rfl | mem
  · obtain ⟨inside, _, small⟩ := isProtocolChar_of_isLower first
    exact ⟨inside, small⟩
  · exact others x mem

theorem IsProtocol.map_toLower (h : IsProtocol q) : q.map CodePoint.toLower = q := by
  rw [List.map_congr_left (g := id)]
  · exact List.map_id q
  · intro c mem
    obtain ⟨inside, small⟩ := h.isProtocolChar c mem
    exact toLower_of_not_isUpper inside small

/-! ### The protocol -/

theorem IsProtocolName.isProtocolChar {name : Text} (h : IsProtocolName name) :
    ∀ c ∈ name, isProtocolChar c = true := by
  obtain ⟨c, r, rfl, letter, others⟩ := h
  exact List.forall_mem_cons.mpr ⟨isProtocolChar_of_isAlpha letter, others⟩

/-- In small letters a name is a protocol as it is kept. -/
theorem IsProtocolName.isProtocol {name : Text} (h : IsProtocolName name) :
    IsProtocol (name.map CodePoint.toLower) := by
  obtain ⟨c, r, rfl, letter, others⟩ := h
  refine ⟨c.toLower, r.map CodePoint.toLower, rfl, ?_, ?_⟩
  · exact isLower_toLower (isProtocolChar_of_isAlpha letter) letter
  · intro x mem
    obtain ⟨y, among, rfl⟩ := List.mem_map.mp mem
    exact isProtocolChar_toLower (others y among)

theorem IsProtocol.isProtocolName (h : IsProtocol q) : IsProtocolName q := by
  obtain ⟨c, r, rfl, first, others⟩ := h
  exact ⟨c, r, rfl, (isProtocolChar_of_isLower first).2.1, fun x mem => (others x mem).1⟩

/-- A protocol is found exactly where its name stands in front with the mark behind it. -/
theorem cutProtocol_eq_some_iff {rest : Text} :
    cutProtocol t = (some q, rest) ↔
      ∃ name, IsProtocolName name ∧ name.map CodePoint.toLower = q ∧
        t = name ++ protocolMark ++ rest := by
  constructor
  · intro found
    unfold cutProtocol at found
    split at found
    · rename_i c r
      split at found
      · rename_i letter
        split at found
        · rename_i rest' marked
          obtain ⟨rfl, rfl⟩ : (c :: r.takeWhile isProtocolChar).map CodePoint.toLower = q ∧
              rest' = rest := by simpa using found
          refine ⟨_, ⟨c, _, rfl, letter, fun x mem => List.mem_takeWhile_imp mem⟩, rfl, ?_⟩
          have behind := List.isPrefixOf?_eq_some_iff_append_eq.mp marked
          rw [List.append_assoc, behind, List.cons_append, List.takeWhile_append_dropWhile]
        · simp at found
      · simp at found
    · simp at found
  · rintro ⟨name, ⟨c, r, rfl, letter, kept⟩, rfl, rfl⟩
    have stop : ∀ x, (protocolMark ++ rest).head? = some x → isProtocolChar x = false := by
      rintro x ⟨⟩
      decide
    have marked : protocolMark.isPrefixOf? (protocolMark ++ rest) = some rest :=
      List.isPrefixOf?_eq_some_iff_append_eq.mpr rfl
    simp only [List.cons_append, List.append_assoc, cutProtocol, letter, if_true,
      Text.takeWhile_append_stop kept stop, Text.dropWhile_append_stop kept stop, marked]

theorem cutProtocol_append (h : IsProtocol q) (t : Text) :
    cutProtocol (q ++ protocolMark ++ t) = (some q, t) :=
  cutProtocol_eq_some_iff.mpr ⟨q, h.isProtocolName, h.map_toLower, rfl⟩

/-- What is found as a protocol is one. -/
theorem isProtocol_of_cutProtocol {rest : Text} (found : cutProtocol t = (some q, rest)) :
    IsProtocol q := by
  obtain ⟨name, isName, rfl, _⟩ := cutProtocol_eq_some_iff.mp found
  exact isName.isProtocol

theorem cutProtocol_eq_none {rest : Text} (found : cutProtocol t = (none, rest)) : rest = t := by
  unfold cutProtocol at found
  split at found
  · split at found
    · split at found
      · simp at found
      · exact (Prod.mk.inj found).2.symm
    · exact (Prod.mk.inj found).2.symm
  · exact (Prod.mk.inj found).2.symm

/-- No protocol is found exactly where no name of one stands in front with the mark. -/
theorem cutProtocol_eq_none_iff {rest : Text} :
    cutProtocol t = (none, rest) ↔
      rest = t ∧ ∀ name behind, IsProtocolName name → t ≠ name ++ protocolMark ++ behind := by
  constructor
  · intro found
    refine ⟨cutProtocol_eq_none found, fun name behind isName whole => ?_⟩
    rw [cutProtocol_eq_some_iff.mpr ⟨name, isName, rfl, whole⟩] at found
    cases found
  · rintro ⟨rfl, unnamed⟩
    cases found : cutProtocol rest with
    | mk protocol rest' =>
      cases protocol with
      | none => rw [cutProtocol_eq_none found]
      | some q =>
        obtain ⟨name, isName, _, whole⟩ := cutProtocol_eq_some_iff.mp found
        exact absurd whole (unnamed name rest' isName)

/-- Where an authority starts a text, there is no protocol: the mark of one would have its colon
at the end of the authority. -/
theorem cutProtocol_authority (h : IsAuthorityText x)
    (rooted : ∀ c, path.head? = some c → c = '/') :
    cutProtocol (x ++ path) = (none, x ++ path) := by
  refine cutProtocol_eq_none_iff.mpr ⟨rfl, fun name rest isName whole => ?_⟩
  have inside := isName.isProtocolChar
  -- Both texts are cut at the first slash.
  have left : (x ++ path).takeWhile (· ≠ char '/') = x := by
    refine Text.takeWhile_append_stop (fun c mem => ?_) (fun c first => ?_)
    · have ends := (h.plain c mem).1
      simp only [endsAuthority, Bool.or_eq_false_iff, decide_eq_false_iff_not] at ends
      simp [ends.1]
    · simp [rooted c first]
  have right : (name ++ protocolMark ++ rest).takeWhile (· ≠ char '/') = name ++ [char ':'] := by
    have marked : name ++ protocolMark ++ rest =
        (name ++ [char ':']) ++ (char '/' :: char '/' :: rest) := by
      simp [protocolMark, String.toText]
    rw [marked]
    refine Text.takeWhile_append_stop (fun c mem => ?_) (fun c first => ?_)
    · rcases List.mem_append.mp mem with mem | mem
      · simp [(plain_of_isProtocolChar (inside c mem)).2.2.1]
      · obtain rfl := List.mem_singleton.mp mem
        decide
    · obtain rfl : '/' = c := by simpa using first
      decide
  rw [whole, right] at left
  exact absurd (by simp [← left]) h.last

/-! ### Authority and path -/

theorem authorityText_append (h : IsAuthorityText x)
    (rooted : ∀ c, path.head? = some c → c = '/') :
    authorityText (x ++ path) = x := by
  refine Text.takeWhile_append_stop (fun c mem => ?_) (fun c first => ?_)
  · simp [(h.plain c mem).1]
  · obtain rfl := rooted c first
    decide

theorem pathText_append (h : IsAuthorityText x) (p : IsPathText path) :
    pathText (x ++ path) = path := by
  have behind : (x ++ path).dropWhile (fun c => !endsAuthority c) = path := by
    refine Text.dropWhile_append_stop (fun c mem => ?_) (fun c first => ?_)
    · simp [(h.plain c mem).1]
    · obtain rfl := p.rooted c first
      decide
  rw [pathText, behind, List.takeWhile_eq_self_iff]
  intro c mem
  simp [(p.plain c mem).1]

theorem isBreak_bodyOf (t : Text) : ∀ c ∈ bodyOf t, isBreak c = false := by
  intro c mem
  simpa using (List.mem_filter.mp mem).2

theorem mem_authorityText {rest : Text} (mem : c ∈ authorityText rest) :
    c ∈ rest ∧ endsAuthority c = false := by
  refine ⟨(List.takeWhile_sublist _).subset mem, ?_⟩
  simpa using List.mem_takeWhile_imp mem

theorem isPathText_pathText (t : Text) : IsPathText (pathText (bodyOf t)) := by
  constructor
  · intro c first
    unfold pathText at first
    cases behind : (bodyOf t).dropWhile fun c => !endsAuthority c with
    | nil => simp [behind] at first
    | cons d after =>
      have ends : endsAuthority d = true := by
        have stopped := List.head?_dropWhile_not (fun c => !endsAuthority c) (bodyOf t)
        simpa [behind] using stopped
      rw [behind, List.takeWhile_cons] at first
      split at first
      · rename_i inPath
        obtain rfl : d = c := by simpa using first
        revert ends inPath
        simp only [endsAuthority, endsPath]
        grind
      · simp at first
  · intro c mem
    refine ⟨by simpa using List.mem_takeWhile_imp mem, isBreak_bodyOf t c ?_⟩
    exact (List.dropWhile_sublist _).subset ((List.takeWhile_sublist _).subset mem)

theorem IsPathText.trimmed (p : IsPathText path) :
    IsPathText (Text.dropEndWhile isBlank path) := by
  have front : Text.dropEndWhile isBlank path <+: path := List.rdropWhile_prefix isBlank path
  constructor
  · intro c first
    obtain ⟨rest, whole⟩ := front
    refine p.rooted c ?_
    rw [← whole, List.head?_append, first]
    rfl
  · intro c mem
    exact p.plain c (front.subset mem)

/-! ### Parsing what is put together -/

theorem blankless_mark : ∀ c ∈ protocolMark, isBlank c = false := by
  have all : protocolMark.all (fun c => !isBlank c) = true := by decide
  intro c mem
  simpa using List.all_eq_true.mp all c mem

/-- In front of a path nothing is blank. -/
theorem plain_of_mem_front {protocol : Option Text}
    (isProtocol : ∀ q, protocol = some q → IsProtocol q) (h : IsAuthorityText x) :
    ∀ c ∈ protocolText protocol ++ x, isBlank c = false := by
  intro c mem
  rcases List.mem_append.mp mem with mem | mem
  · cases protocol with
    | none => simp [protocolText] at mem
    | some q =>
      rcases List.mem_append.mp mem with mem | mem
      · exact (plain_of_isProtocolChar ((isProtocol q rfl).isProtocolChar c mem).1).1
      · exact blankless_mark c mem
  · exact (h.plain c mem).2.2

theorem cutProtocol_protocolText {protocol : Option Text}
    (isProtocol : ∀ q, protocol = some q → IsProtocol q) (h : IsAuthorityText x)
    (p : IsPathText path) :
    cutProtocol (protocolText protocol ++ (x ++ path)) = (protocol, x ++ path) := by
  cases protocol with
  | none =>
    rw [protocolText, List.nil_append]
    exact cutProtocol_authority h p.rooted
  | some q => exact cutProtocol_append (isProtocol q rfl) _

/-- A protocol that is kept, an authority and a path are parsed to the URL of its parts, less the
blanks at the end of the path. -/
theorem parse_append_iff {protocol : Option Text} {u : Url}
    (isProtocol : ∀ q, protocol = some q → IsProtocol q) (h : IsAuthorityText x)
    (p : IsPathText path) :
    parse (protocolText protocol ++ (x ++ path)) = .ok u ↔
      ∃ a, Authority.read x = .ok a ∧ a.host.isEmpty = false ∧
        u = ofParts protocol a (Text.dropEndWhile isBlank path) := by
  have kept := plain_of_mem_front isProtocol h
  have nonempty : protocolText protocol ++ x ≠ [] := by simp [h.nonempty]
  have front : protocolText protocol ++ (x ++ path) = (protocolText protocol ++ x) ++ path := by
    simp
  have trimmed : Text.trim (protocolText protocol ++ (x ++ path)) =
      protocolText protocol ++ (x ++ Text.dropEndWhile isBlank path) := by
    rw [front, Text.trim, Text.trimWhile_append kept nonempty, List.append_assoc]
  have visible : Text.allBlank (protocolText protocol ++ (x ++ path)) = false := by
    obtain ⟨c, mem⟩ := List.exists_mem_of_ne_nil _ nonempty
    rw [front, Text.allBlank, List.all_eq_false]
    exact ⟨c, List.mem_append_left _ mem, by simp [kept c mem]⟩
  have cut := cutProtocol_protocolText isProtocol h p.trimmed
  have body : bodyOf (protocolText protocol ++ (x ++ Text.dropEndWhile isBlank path)) =
      x ++ Text.dropEndWhile isBlank path := by
    rw [bodyOf, cut, List.filter_eq_self]
    intro c mem
    rcases List.mem_append.mp mem with mem | mem
    · simp [(h.plain c mem).2.1]
    · simp [(p.trimmed.plain c mem).2]
  have unblanked : x.any isBlank = false := by
    rw [List.any_eq_false]
    intro c mem
    simp [(h.plain c mem).2.2]
  rw [parse_eq_ok_iff, trimmed, body, cut, authorityText_append h p.trimmed.rooted,
    pathText_append h p.trimmed]
  simp [visible, unblanked]

end Url

end ProxySelection
