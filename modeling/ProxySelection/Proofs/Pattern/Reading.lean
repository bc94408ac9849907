import ProxySelection.Proofs.Pattern.Matching

/-!
A pattern is read in one way.

`Pattern.Parts` are a scheme, a host and a glob, and `Parts.text` writes them one behind the other
with the marks between them. Parts are proper if their scheme and host are those of the grammar.
Both marks may stand in the glob once more, but neither stands in front of the place where it was
put, so proper parts are told from their text (`Parts.text_inj`), and reading finds them
(`Parts.compile_text`). The host is judged when the text is read and sorted into a rule only later;
that the two agree is `IsHost.isRuleOf`.

`compile_reads_parts` says of every text that it is a pattern exactly if it is `<all_urls>` or the
text of proper parts, and then these are what the pattern is made of. So what a text is for can be
asked of its parts (`isFor_text_iff`).
-/

namespace ProxySelection

namespace HostRule

/-! ### The rule of a host -/

/-- `IsRuleOf rule host`: the rule is for everything, for a domain or for one host just as the host
is written, and what it names is a domain. -/
structure IsRuleOf (rule : HostRule) (host : Text) : Prop where
  any_iff : rule = .any ↔ host = [char '*']
  suffix_iff : ∀ d, rule = .suffix d ↔ host = char '*' :: char '.' :: d
  exact_iff : ∀ r, rule = .exact r ↔
    r = host ∧ host ≠ [char '*'] ∧ ∀ d, host ≠ char '*' :: char '.' :: d
  isDomain_of_suffix : ∀ d, rule = .suffix d → Pattern.IsDomain d
  isDomain_of_exact : ∀ r, rule = .exact r → Pattern.IsDomain r

end HostRule

namespace Pattern

/-- The rule of a host of the grammar: sorting it later finds what judging it found. -/
theorem IsHost.isRuleOf {host : Text} (h : IsHost host) :
    (HostRule.ofText host).IsRuleOf host := by
  rcases HostRule.ofText_cases host with ⟨rfl, rule⟩ | ⟨d, rfl, rule⟩ | ⟨notAny, notBelow, rule⟩
  · rw [rule]
    constructor <;> simp
  · obtain ⟨domain, _⟩ := h.isDomain
    rw [rule]
    have named (d' : Text) : HostRule.suffix d = .suffix d' ↔ d = d' := by simp
    refine ⟨by simp, fun d' => ?_, by simp, ?_, by simp⟩
    · rw [named]
      simp
    · rintro d' ⟨⟩
      exact domain
  · obtain ⟨domain, _⟩ := h.isDomain_of_other notAny notBelow
    rw [rule]
    constructor <;> simp [eq_comm, notAny, notBelow, domain]

/-! ### Parts and their text -/

/-- A scheme, a host and a glob. -/
structure Parts where
  scheme : Text
  host : Text
  glob : Text
  deriving DecidableEq

namespace Parts

/-- The parts as they are written. -/
def text (w : Parts) : Text := w.scheme ++ schemeMark ++ w.host ++ char '/' :: w.glob

/-- Scheme and host are those of patterns; the glob may be any text. -/
structure IsProper (w : Parts) : Prop where
  scheme : ∃ rule, IsScheme w.scheme rule
  host : IsHost w.host

variable {w w' : Parts}

theorem text_eq (w : Parts) : w.text = w.scheme ++ schemeMark ++ (w.host ++ char '/' :: w.glob) :=
  List.append_assoc _ _ _

/-- Proper parts are told from their text. -/
theorem text_inj (proper : w.IsProper) (proper' : w'.IsProper) (same : w.text = w'.text) :
    w = w' := by
  obtain ⟨rule, isScheme⟩ := proper.scheme
  obtain ⟨rule', isScheme'⟩ := proper'.scheme
  have atMark := isScheme.cutAt_append (w.host ++ char '/' :: w.glob)
  rw [← text_eq, same, text_eq, isScheme'.cutAt_append] at atMark
  obtain ⟨scheme, rest⟩ := Prod.mk.inj atMark
  have atSlash := proper.host.cut_append w.glob
  rw [← Option.some.inj rest, proper'.host.cut_append] at atSlash
  obtain ⟨host, glob⟩ := Prod.mk.inj atSlash
  cases w
  cases w'
  simp_all

end Parts

/-- What follows the grammar is the text of proper parts. -/
theorem Grammar.parts {t host glob : Text} {rule : SchemeRule}
    (pattern : Grammar t rule host glob) :
    ∃ w : Parts, w.IsProper ∧ w.text = t ∧ IsScheme w.scheme rule ∧ w.host = host ∧
      w.glob = glob := by
  cases pattern with
  | @mk scheme _ _ _ isScheme isHost =>
    exact ⟨⟨scheme, host, glob⟩, ⟨⟨rule, isScheme⟩, isHost⟩, rfl, isScheme, rfl, rfl⟩

theorem Parts.IsProper.grammar {w : Parts} (proper : w.IsProper) :
    ∃ rule, IsScheme w.scheme rule ∧ Grammar w.text rule w.host w.glob := by
  obtain ⟨rule, isScheme⟩ := proper.scheme
  exact ⟨rule, isScheme, .mk w.glob isScheme proper.host⟩

/-! ### What is read of parts -/

/-- `IsReadingOf p w`: the pattern `p` is for the protocols that the scheme of `w` names, for its
host, and for the paths that `/` and its glob spell. -/
structure IsReadingOf (p : Pattern) (w : Parts) : Prop where
  protocols : ∀ q, q ∈ p.schemes.protocols ↔ w.scheme = [char '*'] ∨ w.scheme = q.name
  host : p.host = w.host
  path : p.path = Glob.ofText (char '/' :: w.glob)
  /-- No path holds a line feed, and the dot of a glob takes none. -/
  spells : ∀ x, char '\n' ∉ x → (p.path.accepts x = true ↔ Glob.Spells (char '/' :: w.glob) x)

theorem IsScheme.mem_protocols_iff {s : Text} {r : SchemeRule} (h : IsScheme s r)
    (q : WebProtocol) : q ∈ r.protocols ↔ s = [char '*'] ∨ s = q.name := by
  cases h with
  | any => cases q <;> simp [SchemeRule.protocols]
  | only p => cases p <;> cases q <;> decide

theorem Parts.isReadingOf_ofParts {w : Parts} {rule : SchemeRule}
    (isScheme : IsScheme w.scheme rule) (t : Text) :
    (ofParts t rule w.host w.glob).IsReadingOf w where
  protocols := isScheme.mem_protocols_iff
  host := rfl
  path := rfl
  spells := fun _ free => Glob.accepts_iff.trans (Glob.accepts_ofText_iff free)

theorem Parts.IsProper.compile_text {w : Parts} (proper : w.IsProper) :
    ∃ p, compile w.text = some p ∧ p.IsReadingOf w := by
  obtain ⟨rule, isScheme, pattern⟩ := proper.grammar
  exact ⟨_, compile_eq_some_iff.mpr (.inr ⟨_, _, _, pattern, rfl⟩),
    Parts.isReadingOf_ofParts isScheme w.text⟩

theorem Parts.IsProper.text_ne_allUrls {w : Parts} (proper : w.IsProper) : w.text ≠ allUrls := by
  obtain ⟨_, _, pattern⟩ := proper.grammar
  exact pattern.ne_allUrls

/-- What is read is the pattern for everything, or a reading of proper parts. -/
theorem parts_of_compile {t : Text} {p : Pattern} (read : compile t = some p) :
    t = allUrls ∧ p = everything ∨
      ∃ w : Parts, w.IsProper ∧ w.text = t ∧ p.source = t ∧ p.isEverything = false ∧
        p.IsReadingOf w := by
  rcases compile_eq_some_iff.mp read with all | ⟨rule, host, glob, pattern, rfl⟩
  · exact .inl all
  · obtain ⟨w, proper, written, isScheme, rfl, rfl⟩ := pattern.parts
    exact .inr ⟨w, proper, written, rfl, pattern.isEverything_eq_false,
      Parts.isReadingOf_ofParts isScheme t⟩

/-- **A pattern is read in one way.** A text is a pattern exactly if it is `<all_urls>` or a scheme,
`://`, a host, `/` and a glob. There is one way to see it as these, and what is read is made of just
these parts. The rule of its host says what the host looks like. No other value is a pattern. -/
theorem compile_reads_parts :
    (∀ t, (compile t).isSome = true ↔ t = allUrls ∨ ∃ w : Parts, w.IsProper ∧ w.text = t) ∧
      (∀ w w' : Parts, w.IsProper → w'.IsProper → w.text = w'.text → w = w') ∧
      (∀ t p, compile t = some p →
        p.source = t ∧ (p.isEverything = true ↔ t = allUrls) ∧ p.hostRule.IsRuleOf p.host ∧
          ∀ w : Parts, w.IsProper → w.text = t → p.IsReadingOf w) ∧
      (∀ v, (∀ t, v ≠ .str t) → ofJson? v = none) ∧ compile [] = none := by
  refine ⟨fun t => ⟨fun some => ?_, ?_⟩, fun w w' => Parts.text_inj, fun t p read => ?_, ?_, rfl⟩
  · obtain ⟨p, read⟩ := Option.isSome_iff_exists.mp some
    rcases parts_of_compile read with ⟨all, _⟩ | ⟨w, proper, written, _⟩
    · exact .inl all
    · exact .inr ⟨w, proper, written⟩
  · rintro (rfl | ⟨w, proper, rfl⟩)
    · rfl
    · obtain ⟨p, read, _⟩ := proper.compile_text
      rw [read]
      rfl
  · rcases parts_of_compile read with ⟨rfl, rfl⟩ | ⟨w, proper, rfl, source, named, reading⟩
    · refine ⟨rfl, by decide, IsHost.any.isRuleOf, fun w proper written => ?_⟩
      exact absurd written proper.text_ne_allUrls
    · refine ⟨source, by simp [named, proper.text_ne_allUrls], ?_, fun w' proper' written => ?_⟩
      · rw [hostRule, reading.host]
        exact proper.host.isRuleOf
      · obtain rfl := Parts.text_inj proper' proper written
        exact reading
  · intro v other
    cases v with
    | str t => exact absurd rfl (other t)
    | _ => rfl

/-- A glob that holds both marks once more, and a host with a port below a domain. -/
theorem compile_reads_parts_of_marks :
    let w : Parts := ⟨"https".toText, "*.a.b:8080".toText, "x://*/?".toText⟩
    w.IsProper ∧ w.text = "https://*.a.b:8080/x://*/?".toText ∧
      ∃ p, compile "https://*.a.b:8080/x://*/?".toText = some p ∧ p.IsReadingOf w ∧
        p.hostRule = .suffix "a.b:8080".toText := by
  intro w
  have domain : IsDomain "a.b:8080".toText := ⟨by decide, by decide⟩
  have proper : w.IsProper := ⟨⟨_, .only .https⟩, .below domain (by decide)⟩
  obtain ⟨accepted, _, parts, _⟩ := compile_reads_parts
  have pattern := (accepted w.text).mpr (.inr ⟨w, proper, rfl⟩)
  obtain ⟨p, read⟩ := Option.isSome_iff_exists.mp pattern
  obtain ⟨_, _, rule, reading⟩ := parts _ p read
  have found := reading w proper rfl
  exact ⟨proper, rfl, p, read, found, (rule.suffix_iff _).mpr found.host⟩

/-! ### What parts are for -/

theorem IsScheme.rule_unique {s : Text} {r r' : SchemeRule} (h : IsScheme s r)
    (h' : IsScheme s r') : r = r' := by
  have read := ofText?_eq_some_iff.mpr h
  rw [ofText?_eq_some_iff.mpr h'] at read
  exact (Option.some.inj read).symm

/-- What a text is for that starts with a scheme and its mark, whether or not it is a pattern: what
follows the mark decides, along with the protocols that the scheme names. -/
theorem isFor_mark_iff {scheme rest : Text} {rule : SchemeRule} (isScheme : IsScheme scheme rule)
    {u : Json} :
    IsFor (scheme ++ schemeMark ++ rest) u ↔
      ∃ host glob, rest = host ++ char '/' :: glob ∧ IsHost host ∧ PartsFit rule host glob u := by
  constructor
  · intro suited
    generalize whole : scheme ++ schemeMark ++ rest = t at suited
    cases suited with
    | everything =>
      have head := isScheme.head?_ne (schemeMark ++ rest)
      rw [← List.append_assoc, whole] at head
      exact absurd rfl head
    | @parts _ host glob rule' _ pattern fits =>
      obtain ⟨w, proper, written, isScheme', rfl, rfl⟩ := pattern.parts
      have atMark := isScheme.cutAt_append rest
      rw [whole, ← written, w.text_eq, isScheme'.cutAt_append] at atMark
      obtain ⟨rfl, behind⟩ := Prod.mk.inj atMark
      obtain rfl := isScheme.rule_unique isScheme'
      exact ⟨w.host, w.glob, (Option.some.inj behind).symm, proper.host, fits⟩
  · rintro ⟨host, glob, rfl, isHost, fits⟩
    rw [← List.append_assoc]
    exact .parts (.mk glob isScheme isHost) fits

/-- The text of proper parts is for what fits them. -/
theorem isFor_text_iff {w : Parts} {rule : SchemeRule} (isScheme : IsScheme w.scheme rule)
    (isHost : IsHost w.host) {u : Json} :
    IsFor w.text u ↔ PartsFit rule w.host w.glob u := by
  rw [w.text_eq, isFor_mark_iff isScheme]
  constructor
  · rintro ⟨host, glob, same, isHost', fits⟩
    have atSlash := isHost.cut_append w.glob
    rw [same, isHost'.cut_append] at atSlash
    obtain ⟨rfl, rest⟩ := Prod.mk.inj atSlash
    exact Option.some.inj rest ▸ fits
  · intro fits
    exact ⟨_, _, rfl, isHost, fits⟩

end Pattern

end ProxySelection
