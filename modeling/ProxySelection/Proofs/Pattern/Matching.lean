import ProxySelection.Pattern.Match
import ProxySelection.Proofs.Pattern.Parts
import ProxySelection.Proofs.Session.Yields
import ProxySelection.Proofs.Url.Parsed

/-!
What patterns match.

`Pattern.IsFor t u` says for which values `u` the text `t` is a pattern, part by part and
without any matching: the value is a text that is parsed, its protocol is named by the scheme,
its remote host fits the host and its path is spelled by the glob. `<all_urls>` is for every
value.

`Pattern.isFor` decides it (`isFor_iff`), and matching without the cache comes to the same
(`testFresh_of_not_breaks`), unless a value that cannot be shown is matched with a pattern that asks
for a URL: then matching breaks off (`testFresh_of_breaks`). In every session it is as without the
cache (`test_gives`). So matching means what the grammar says, whatever the cache holds:
`test_eq_true_iff`.
-/

namespace ProxySelection

namespace Pattern

/-- The value is the text of a URL whose protocol is one of the rule, whose remote host fits
the host and whose path is `/` and the glob. -/
inductive PartsFit (rule : SchemeRule) (host glob : Text) : Json → Prop where
  | url {t remote : Text} {u : Url} {q : WebProtocol} :
      Url.parse t = .ok u → u.protocol = some q.name → u.remote = .ok remote →
      q ∈ rule.protocols → HostFits host remote → Glob.Spells (char '/' :: glob) u.path →
      PartsFit rule host glob (.str t)

/-- `IsFor t u`: the text `t` is a pattern for the value `u`. -/
inductive IsFor : Text → Json → Prop where
  /-- `<all_urls>` is for everything, texts that are no URL included. -/
  | everything (u : Json) : IsFor allUrls u
  | parts {t host glob : Text} {rule : SchemeRule} {u : Json} :
      Grammar t rule host glob → PartsFit rule host glob u → IsFor t u

/-- Matching the value with the text breaks off: the text is a pattern other than `<all_urls>`, and
the value cannot be shown. -/
structure Breaks (t : Text) (u : Json) : Prop where
  isPattern : (compile t).isSome = true
  other : t ≠ allUrls
  unshown : u.isShowable = false

instance (t : Text) (u : Json) : Decidable (Breaks t u) :=
  decidable_of_iff ((compile t).isSome = true ∧ t ≠ allUrls ∧ u.isShowable = false)
    ⟨fun ⟨a, b, c⟩ => ⟨a, b, c⟩, fun ⟨a, b, c⟩ => ⟨a, b, c⟩⟩

theorem not_breaks_of_showable {u : Json} (shown : u.isShowable = true) (t : Text) :
    ¬ Breaks t u := by
  rintro ⟨_, _, unshown⟩
  rw [shown] at unshown
  cases unshown

/-! ### When matching answers -/

theorem testFresh_of_compile {t : Text} {p : Pattern} (read : compile t = some p) (u : Json) :
    testFresh (.str t) u = p.covers u := by
  simp [testFresh, ofJson?, read]

theorem testFresh_of_compile_none {t : Text} (read : compile t = none) (u : Json) :
    testFresh (.str t) u = .ok false := by
  simp [testFresh, ofJson?, read]

/-- Where the remote host of a URL can be shown, the parts of a pattern decide. -/
theorem coversUrl_eq_ok {p : Pattern} {u : Url} {remote : Text} (shown : u.remote = .ok remote) :
    p.coversUrl u =
      .ok (p.schemes.covers u.protocol && (p.hostRule.covers remote && p.path.accepts u.path)) := by
  unfold coversUrl
  rw [shown]
  cases p.schemes.covers u.protocol with
  | true => rfl
  | false => rfl

/-! A pattern other than `<all_urls>` asks whether the value is a URL. -/

section
variable {p : Pattern} {u : Json} (other : p.isEverything = false)
include other

theorem covers_of_url {w : Url} (read : Url.ofJson u = .ok (.ok w)) :
    p.covers u = p.coversUrl w := by
  rw [covers, other, if_neg Bool.false_ne_true, read]
  rfl

theorem covers_of_noUrl {fault : Url.Fault} (noUrl : Url.ofJson u = .ok (.error fault)) :
    p.covers u = .ok false := by
  rw [covers, other, if_neg Bool.false_ne_true, noUrl]
  rfl

theorem covers_of_unshown (unshown : u.isShowable = false) :
    p.covers u = .error .tooLongToWrite := by
  rw [covers, other, if_neg Bool.false_ne_true, Url.ofJson_eq_error unshown]
  rfl

/-- A parsed URL is one whose remote host can be shown, so matching it gives an answer, and so does
matching a value that is none if it can be shown. -/
theorem covers_eq_ok (shown : u.isShowable = true) : ∃ b, p.covers u = .ok b := by
  obtain ⟨answer, read⟩ := Url.ofJson_eq_ok shown
  cases answer with
  | error fault => exact ⟨false, covers_of_noUrl other read⟩
  | ok w =>
    obtain ⟨t, _, parsed⟩ := Url.parse_of_ofJson read
    obtain ⟨host, _, remote⟩ := Url.remote_of_parse parsed
    exact ⟨_, (covers_of_url other read).trans (coversUrl_eq_ok remote)⟩

end

/-- Whether a text is a pattern for a value. -/
def isFor (t : Text) (u : Json) : Bool :=
  match testFresh (.str t) u with
  | .ok b => b
  | .error _ => false

/-- A text is no pattern, or `<all_urls>`, or a pattern that asks whether a value is a URL. -/
theorem compile_cases (t : Text) :
    compile t = none ∨ t = allUrls ∨
      t ≠ allUrls ∧ ∃ p, compile t = some p ∧ p.isEverything = false := by
  cases read : compile t with
  | none => exact .inl rfl
  | some p =>
    rcases compile_eq_some_iff.mp read with ⟨all, _⟩ | ⟨rule, host, glob, pattern, rfl⟩
    · exact .inr (.inl all)
    · exact .inr (.inr ⟨pattern.ne_allUrls, _, rfl, pattern.isEverything_eq_false⟩)

/-- Matching breaks off. -/
theorem testFresh_of_breaks {t : Text} {u : Json} (breaks : Breaks t u) :
    testFresh (.str t) u = .error .tooLongToWrite := by
  obtain ⟨isPattern, different, unshown⟩ := breaks
  rcases compile_cases t with none | all | ⟨_, p, read, other⟩
  · rw [none] at isPattern
    cases isPattern
  · exact absurd all different
  · rw [testFresh_of_compile read, covers_of_unshown other unshown]

/-- Where matching does not break off, it decides whether the text is for the value. -/
theorem testFresh_of_not_breaks {t : Text} {u : Json} (whole : ¬ Breaks t u) :
    testFresh (.str t) u = .ok (isFor t u) := by
  have answers : ∃ b, testFresh (.str t) u = .ok b := by
    rcases compile_cases t with none | rfl | ⟨different, p, read, other⟩
    · exact ⟨false, testFresh_of_compile_none none u⟩
    · exact ⟨true, rfl⟩
    · rw [testFresh_of_compile read]
      refine covers_eq_ok other ?_
      by_contra unshown
      exact whole ⟨by rw [read, Option.isSome_some], different, Bool.eq_false_iff.mpr unshown⟩
  obtain ⟨b, answer⟩ := answers
  rw [isFor, answer]

theorem testFresh_eq_true_iff {t : Text} {u : Json} :
    testFresh (.str t) u = .ok true ↔ isFor t u = true := by
  unfold isFor
  cases testFresh (.str t) u <;> simp

/-- What is no URL is matched by nothing but `<all_urls>`. -/
theorem testFresh_of_noUrl {p u : Json} {fault : Url.Fault}
    (noUrl : Url.ofJson u = .ok (.error fault)) (different : p ≠ .str allUrls) :
    testFresh p u = .ok false := by
  cases p with
  | str t =>
    rcases compile_cases t with none | rfl | ⟨_, p, read, other⟩
    · exact testFresh_of_compile_none none u
    · exact absurd rfl different
    · rw [testFresh_of_compile read, covers_of_noUrl other noUrl]
  | _ => rfl

/-! ### Matching follows the grammar -/

theorem Grammar.isHost {t host glob : Text} {rule : SchemeRule} (h : Grammar t rule host glob) :
    IsHost host := by
  cases h with
  | mk _ _ host => exact host

/-- The parts of a pattern match exactly the values that they fit. -/
theorem Grammar.covers_iff {t host glob : Text} {rule : SchemeRule}
    (pattern : Grammar t rule host glob) {u : Json} :
    (ofParts t rule host glob).covers u = .ok true ↔ PartsFit rule host glob u := by
  have other := pattern.isEverything_eq_false
  rcases Url.ofJson_cases u with ⟨fault | w, read⟩ | ⟨unshown, _⟩
  · rw [covers_of_noUrl other read]
    refine iff_of_false nofun ?_
    rintro ⟨parsed⟩
    rw [Url.ofJson, parsed] at read
    cases read
  · obtain ⟨t', rfl, parsed⟩ := Url.parse_of_ofJson read
    obtain ⟨_, _, shown⟩ := Url.remote_of_parse parsed
    rw [covers_of_url other read, coversUrl_eq_ok shown, Except.ok.injEq, Bool.and_eq_true,
      Bool.and_eq_true]
    change _ ∧ (HostRule.ofText host).covers _ = true ∧
      (Glob.ofText (char '/' :: glob)).accepts w.path = true ↔ _
    rw [schemes_cover_iff, pattern.isHost.covers_iff, Glob.accepts_iff,
      Glob.accepts_ofText_iff (Url.lineFeed_not_mem_path parsed)]
    constructor
    · rintro ⟨⟨q, named, mem⟩, fits, spelled⟩
      exact .url parsed named shown mem fits spelled
    · rintro ⟨parsed', named, shown', mem, fits, spelled⟩
      rw [parsed] at parsed'
      cases parsed'
      rw [shown] at shown'
      cases shown'
      exact ⟨⟨_, named, mem⟩, fits, spelled⟩
  · rw [covers_of_unshown other unshown]
    refine iff_of_false nofun fun fits => ?_
    cases fits
    cases unshown

/-- Deciding whether a text is a pattern for a value follows the grammar. -/
theorem isFor_iff {t : Text} {u : Json} : isFor t u = true ↔ IsFor t u := by
  rw [← testFresh_eq_true_iff]
  constructor
  · intro answer
    cases read : compile t with
    | none =>
      rw [testFresh_of_compile_none read] at answer
      cases answer
    | some p =>
      rw [testFresh_of_compile read] at answer
      rcases compile_eq_some_iff.mp read with ⟨rfl, _⟩ | ⟨rule, host, glob, pattern, rfl⟩
      · exact .everything u
      · exact .parts pattern (pattern.covers_iff.mp answer)
  · intro isFor
    cases isFor with
    | everything => rfl
    | @parts _ host glob rule _ pattern fits =>
      have read : compile t = some (ofParts t rule host glob) :=
        compile_eq_some_iff.mpr (.inr ⟨rule, host, glob, pattern, rfl⟩)
      rw [testFresh_of_compile read]
      exact pattern.covers_iff.mpr fits

instance (t : Text) (u : Json) : Decidable (IsFor t u) :=
  decidable_of_iff (isFor t u = true) isFor_iff

/-- A text that is no pattern is for nothing. -/
theorem not_isFor_of_compile_eq_none {t : Text} {u : Json} (read : compile t = none) :
    ¬ IsFor t u := by
  rw [← isFor_iff, isFor, testFresh_of_compile_none read]
  exact Bool.false_ne_true

/-! ### Matching in a session -/

/-- Matching gives in every session what it gives without a cache, and reports nothing. -/
theorem test_gives (p u : Json) : (test p u).outcome.Gives (testFresh p u) [] := by
  cases p with
  | str t =>
    -- For `<all_urls>` the cache is not asked, and what it would give does not matter.
    by_cases all : t = allUrls
    · have answer : testFresh (.str t) u = .ok true := by
        rw [all]
        rfl
      have at_once : test (.str t) u = pure true := if_pos all
      rw [at_once, answer]
      exact Attempt.gives_pure true
    · have by_cache : test (.str t) u = _ := if_neg all
      rw [by_cache]
      refine Attempt.lift_bind_yields (Run.yields_compile t) fun c read => ?_
      cases c with
      | none =>
        rw [testFresh_of_compile_none read.symm]
        exact Attempt.gives_pure false
      | some c =>
        rw [testFresh_of_compile read.symm]
        exact Attempt.gives_ofExcept _
  | _ => exact Attempt.gives_pure false

theorem result_test_eq_true_iff {s : Session} (reached : s.cache.Reachable) {t : Text} {u : Json} :
    (test (.str t) u).outcome.result s = .ok true ↔ isFor t u = true := by
  rw [(test_gives (.str t) u).result_eq reached, testFresh_eq_true_iff]

/-- **Matching means what the grammar says.** Whatever the cache holds, a text is found to be
for a value exactly if it is `<all_urls>`, or a scheme, `://`, a host, `/` and a glob that fit
the protocol, the remote host and the path of the URL that the value is. -/
theorem test_eq_true_iff {s : Session} (reached : s.cache.Reachable) (t : Text) (u : Json) :
    (test (.str t) u).outcome.result s = .ok true ↔ IsFor t u := by
  rw [result_test_eq_true_iff reached, isFor_iff]

/-- A URL with user part and fragment, matched in a session whose cache is full of another
text. -/
theorem test_eq_true_of_full_cache :
    let s : Session := ⟨((PatternCache.ofCapacity 1).get "ftp://x/".toText).2.1, []⟩
    let pattern := "*://*.b.c/x?y*".toText
    let url := Json.str "HTTP://u@a.b.c/x/yz#f".toText
    s.cache.Reachable ∧ IsFor pattern url ∧
      (test (.str pattern) url).outcome.result s = .ok true := by
  have reached := PatternCache.Reachable.get "ftp://x/".toText (.ofCapacity 1)
  have suited : IsFor "*://*.b.c/x?y*".toText (.str "HTTP://u@a.b.c/x/yz#f".toText) := by decide
  exact ⟨reached, suited, (test_eq_true_iff reached _ _).mpr suited⟩

end Pattern

end ProxySelection
