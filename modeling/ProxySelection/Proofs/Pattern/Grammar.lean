import ProxySelection.Pattern.Basic
import ProxySelection.Proofs.Text.Cut

/-!
Reading a pattern follows its grammar.

`Pattern.parse` cuts a text at the first `://` and what follows at the first `/`. Neither
mark can stand earlier in a pattern of `Pattern.Grammar`: no scheme holds a colon, and no host
a slash. So the cuts fall where the parts of the grammar end, and `compile_eq_some_iff` says
what reading gives: `<all_urls>` is the pattern for everything, and any other pattern is its
parts.
-/

namespace ProxySelection

/-! ### Schemes -/

namespace WebProtocol

/-- The name of a protocol is that of no other. -/
theorem ofName?_eq_some_iff {t : Text} {q : WebProtocol} : ofName? t = some q ↔ t = q.name := by
  constructor
  · intro h
    unfold ofName? at h
    split at h
    · rename_i same
      cases h
      exact same
    · split at h
      · rename_i same
        cases h
        exact same
      · cases h
  · rintro rfl
    cases q <;> decide

theorem name_inj {p q : WebProtocol} (same : p.name = q.name) : p = q := by
  have read := ofName?_eq_some_iff.mpr same
  rw [ofName?_eq_some_iff.mpr rfl] at read
  exact Option.some.inj read

end WebProtocol

namespace Pattern

/-- The scheme of a pattern is read as the rule that it stands for. -/
theorem ofText?_eq_some_iff {s : Text} {r : SchemeRule} :
    SchemeRule.ofText? s = some r ↔ IsScheme s r := by
  constructor
  · intro h
    unfold SchemeRule.ofText? at h
    split at h
    · rename_i star
      cases h
      exact star ▸ .any
    · obtain ⟨q, named, rfl⟩ := Option.map_eq_some_iff.mp h
      exact WebProtocol.ofName?_eq_some_iff.mp named ▸ .only q
  · rintro (_ | p)
    · rfl
    · cases p <;> decide

theorem IsScheme.colon_not_mem {s : Text} {r : SchemeRule} (h : IsScheme s r) : char ':' ∉ s := by
  cases h with
  | any => decide
  | only p => cases p <;> decide

/-- No scheme is that of `<all_urls>`. -/
theorem IsScheme.head?_ne {s : Text} {r : SchemeRule} (h : IsScheme s r) (rest : Text) :
    (s ++ rest).head? ≠ some (char '<') := by
  cases h with
  | any => simp
  | only p => cases p <;> simp [WebProtocol.name, String.toText]

/-! ### Hosts -/

/-- What is left of a host without its leading `*.` is a domain. -/
theorem isDomain_iff {d : Text} : (!d.isEmpty && !d.contains '*') = true ↔ IsDomain d := by
  simp [IsDomain]

theorem IsHost.slash_not_mem {h : Text} (host : IsHost h) : char '/' ∉ h := by
  cases host with
  | any => decide
  | below _ free => simpa using free
  | exact _ free => exact free

theorem isHost_iff {h : Text} (free : char '/' ∉ h) : isHost h = true ↔ IsHost h := by
  unfold isHost
  rw [Bool.or_eq_true, beq_iff_eq]
  cases found : HostRule.suffixMark.isPrefixOf? h with
  | some d =>
    have whole : h = char '*' :: char '.' :: d :=
      (List.isPrefixOf?_eq_some_iff_append_eq.mp found).symm
    subst whole
    simp only [Option.getD_some, isDomain_iff]
    constructor
    · rintro (single | domain)
      · simp at single
      · exact .below domain (by simpa using free)
    · intro host
      cases host with
      | below domain _ => exact .inr domain
      | exact domain _ => exact absurd domain.2 (by simp)
  | none =>
    simp only [Option.getD_none, isDomain_iff]
    constructor
    · rintro (rfl | domain)
      · exact .any
      · exact .exact domain free
    · intro host
      cases host with
      | any => exact .inl rfl
      | @below d _ _ =>
        have marked : HostRule.suffixMark.isPrefixOf? (char '*' :: char '.' :: d) = some d :=
          List.isPrefixOf?_eq_some_iff_append_eq.mpr rfl
        rw [marked] at found
        cases found
      | exact domain _ => exact .inr domain

/-! ### Cuts

Both marks are found where the grammar puts them: neither stands any earlier. -/

theorem IsScheme.cutAt_append {s : Text} {r : SchemeRule} (h : IsScheme s r) (rest : Text) :
    Text.cutAt schemeMark (s ++ schemeMark ++ rest) = (s, some rest) :=
  Text.cutAt_append h.colon_not_mem rest

theorem IsHost.cut_append {h : Text} (host : IsHost h) (glob : Text) :
    Text.cut '/' (h ++ char '/' :: glob) = (h, some glob) :=
  Text.cut_append host.slash_not_mem glob

/-! ### Patterns -/

/-- The pattern of these parts. -/
def ofParts (t : Text) (schemes : SchemeRule) (host glob : Text) : Pattern where
  source := t
  schemes := schemes
  host := host
  path := Glob.ofText (char '/' :: glob)

/-- No text of the grammar is `<all_urls>`. -/
theorem Grammar.ne_allUrls {t h g : Text} {s : SchemeRule} (pattern : Grammar t s h g) :
    t ≠ allUrls := by
  cases pattern with
  | mk glob scheme host =>
    intro same
    have head := scheme.head?_ne (schemeMark ++ h ++ char '/' :: g)
    rw [← List.append_assoc, ← List.append_assoc, same] at head
    exact head (by decide)

theorem Grammar.isEverything_eq_false {t h g : Text} {s : SchemeRule}
    (pattern : Grammar t s h g) : (ofParts t s h g).isEverything = false :=
  beq_eq_false_iff_ne.mpr pattern.ne_allUrls

/-- A text of the grammar is cut into the parts that the grammar gives it. -/
theorem Grammar.parse {t h g : Text} {s : SchemeRule} (pattern : Grammar t s h g) :
    Pattern.parse t = .ok (ofParts t s h g) := by
  have other := pattern.ne_allUrls
  cases pattern with
  | @mk scheme _ _ glob isScheme isHost =>
    have atMark : Text.cutAt schemeMark (scheme ++ schemeMark ++ h ++ char '/' :: g) =
        (scheme, some (h ++ char '/' :: g)) := by
      rw [List.append_assoc _ h]
      exact isScheme.cutAt_append _
    have nonempty : (scheme ++ schemeMark ++ h ++ char '/' :: g).isEmpty = false := by simp
    unfold Pattern.parse
    rw [nonempty, if_neg Bool.false_ne_true, if_neg other, atMark]
    simp only [ofText?_eq_some_iff.mpr isScheme, isHost.cut_append,
      (isHost_iff isHost.slash_not_mem).mpr isHost, if_true]
    rfl

/-- What is read as a pattern is `<all_urls>` or follows the grammar. -/
theorem parse_eq_ok {t : Text} {p : Pattern} (h : Pattern.parse t = .ok p) :
    (t = allUrls ∧ p = everything) ∨
      ∃ schemes host glob, Grammar t schemes host glob ∧ p = ofParts t schemes host glob := by
  unfold Pattern.parse at h
  split at h
  · cases h
  split at h
  · rename_i all
    cases h
    exact .inl ⟨all, rfl⟩
  split at h
  · cases h
  rename_i scheme rest atMark
  split at h
  · cases h
  rename_i schemes isScheme
  split at h
  · cases h
  rename_i host glob atSlash
  split at h
  · rename_i isHost
    cases h
    obtain ⟨rfl, free⟩ := Text.cut_eq_some_iff.mp atSlash
    have whole : t = scheme ++ schemeMark ++ host ++ char '/' :: glob := by
      rw [Text.cutAt_eq_some atMark, List.append_assoc _ host]
    refine .inr ⟨schemes, host, glob, ?_, rfl⟩
    rw [whole]
    exact .mk glob (ofText?_eq_some_iff.mp isScheme) ((isHost_iff free).mp isHost)
  · cases h

/-- Reading gives the pattern for everything for `<all_urls>`, the parts of the grammar for a
text that follows it, and nothing else. -/
theorem compile_eq_some_iff {t : Text} {p : Pattern} :
    compile t = some p ↔
      (t = allUrls ∧ p = everything) ∨
        ∃ schemes host glob, Grammar t schemes host glob ∧ p = ofParts t schemes host glob := by
  constructor
  · intro h
    unfold compile at h
    cases read : Pattern.parse t with
    | error fault => rw [read] at h; cases h
    | ok q =>
      rw [read] at h
      cases h
      exact parse_eq_ok read
  · rintro (⟨rfl, rfl⟩ | ⟨schemes, host, glob, pattern, rfl⟩)
    · rfl
    · unfold compile
      rw [pattern.parse]
      rfl

end Pattern

end ProxySelection
