import ProxySelection.Proofs.Pattern.Reading
import Mathlib.Logic.Relation

/-!
Widening a pattern.

A pattern is widened by letting one of its parts stand for more (`Pattern.Widens`): `*` for the
scheme, the host, the glob or a piece of it, `?` for a character, `*.` in front of a host, or fewer
labels behind it. Whether a widened pattern matches whatever the first one does is asked part by
part. The wider part has to fit all that the first one fits (`Parts.Within`), and each of the ways
to widen is of that kind (`Widens.within`). For globs this rests on the paths of parsed URLs:
they hold no line feed, which neither `?` nor `*` would take.

So nothing is lost, in one step or in many, and `*` as a scheme loses and gains nothing against
`http` and `https` taken together: `test_widens`.
-/

namespace ProxySelection

/-! ### Globs -/

namespace Glob

theorem spells_star (t : Text) : Spells [char '*'] t :=
  ⟨[t], .cons (.star t) .nil, List.flatten_singleton⟩

/-- Only `*` stands for other runs than single characters. -/
theorem spells_mark_of_single {c : CodePoint} (single : c ≠ '*') {t : Text} (h : Spells [c] t) :
    Spells [char '?'] t := by
  obtain ⟨run, rest, rfl, stands, nothing⟩ := spells_cons_iff.mp h
  obtain rfl := spells_nil_iff.mp nothing
  refine spells_cons_iff.mpr ⟨run, [], rfl, ?_, spells_nil_iff.mpr rfl⟩
  cases stands with
  | star => exact absurd rfl single
  | mark c => exact .mark c
  | itself _ _ => exact .mark c

/-- A glob spells more if a piece of it does. -/
theorem Spells.replace {a b b' c t : Text} (wider : ∀ x, Spells b x → Spells b' x)
    (h : Spells (a ++ (b ++ c)) t) : Spells (a ++ (b' ++ c)) t := by
  obtain ⟨x, _, rfl, front, behind⟩ := spells_append_iff.mp h
  obtain ⟨y, z, rfl, middle, back⟩ := spells_append_iff.mp behind
  have replaced := spells_append_iff.mpr ⟨y, z, rfl, wider y middle, back⟩
  exact spells_append_iff.mpr ⟨x, y ++ z, rfl, front, replaced⟩

end Glob

namespace Pattern

/-! ### Hosts -/

theorem HostFits.below_of_plain {h r : Text} (plain : h.head? ≠ some (char '*'))
    (fits : HostFits h r) : HostFits (char '*' :: char '.' :: h) r := by
  cases fits with
  | any => exact absurd rfl plain
  | domain => exact absurd rfl plain
  | below => exact absurd rfl plain
  | exact _ => exact .domain h

/-- What is below a domain is below each of the domains that this one is below. -/
theorem HostFits.shorten {x d r : Text}
    (fits : HostFits (char '*' :: char '.' :: (x ++ char '.' :: d)) r) :
    HostFits (char '*' :: char '.' :: d) r := by
  cases fits with
  | domain => exact .below d x
  | below _ name =>
    have longer := HostFits.below d (name ++ char '.' :: x)
    rwa [List.append_assoc, List.cons_append] at longer
  | exact plain => exact absurd rfl plain

/-! ### Parts -/

theorem PartsFit.mono {rule rule' : SchemeRule} {host host' glob glob' : Text} {u : Json}
    (protocols : ∀ q ∈ rule.protocols, q ∈ rule'.protocols)
    (hosts : ∀ r, HostFits host r → HostFits host' r)
    (globs : ∀ t, Glob.Spells (char '/' :: glob) t → Glob.Spells (char '/' :: glob') t)
    (fits : PartsFit rule host glob u) : PartsFit rule' host' glob' u := by
  cases fits with
  | url parsed named shown mem fits spelled =>
    exact .url parsed named shown (protocols _ mem) (hosts _ fits) (globs _ spelled)

namespace Parts

/-- `Within w w'`: the parts `w'` are each for all that those of `w` are for. -/
structure Within (w w' : Parts) : Prop where
  schemes : w'.scheme = [char '*'] ∨ w'.scheme = w.scheme
  hosts : ∀ r, HostFits w.host r → HostFits w'.host r
  globs : ∀ t, Glob.Spells (char '/' :: w.glob) t → Glob.Spells (char '/' :: w'.glob) t

theorem Within.refl (w : Parts) : Within w w := ⟨.inr rfl, fun _ => id, fun _ => id⟩

/-- Wider parts are for all that the first ones are for. -/
theorem Within.isFor {w w' : Parts} (within : Within w w') (proper : w.IsProper)
    (proper' : w'.IsProper) {u : Json} (suited : IsFor w.text u) : IsFor w'.text u := by
  obtain ⟨rule, isScheme⟩ := proper.scheme
  obtain ⟨rule', isScheme'⟩ := proper'.scheme
  rw [isFor_text_iff isScheme proper.host] at suited
  rw [isFor_text_iff isScheme' proper'.host]
  refine suited.mono (fun q mem => ?_) within.hosts within.globs
  rw [isScheme.mem_protocols_iff] at mem
  rw [isScheme'.mem_protocols_iff]
  rcases within.schemes with any | same
  · exact .inl any
  · exact same ▸ mem

end Parts

/-! ### Ways to widen -/

/-- `Widens w w'`: one of the parts of `w` stands for more in `w'`. -/
inductive Widens : Parts → Parts → Prop where
  /-- Both protocols. -/
  | scheme (s h g : Text) : Widens ⟨s, h, g⟩ ⟨[char '*'], h, g⟩
  /-- Every host. -/
  | host (s h g : Text) : Widens ⟨s, h, g⟩ ⟨s, [char '*'], g⟩
  /-- Every path. -/
  | glob (s h g : Text) : Widens ⟨s, h, g⟩ ⟨s, h, [char '*']⟩
  /-- A host and all hosts below it. -/
  | below (s h g : Text) :
      h.head? ≠ some (char '*') → Widens ⟨s, h, g⟩ ⟨s, char '*' :: char '.' :: h, g⟩
  /-- A domain with fewer labels. -/
  | shorten (s x d g : Text) :
      d ≠ [] → Widens ⟨s, char '*' :: char '.' :: (x ++ char '.' :: d), g⟩
        ⟨s, char '*' :: char '.' :: d, g⟩
  /-- Any character for a character. -/
  | mark (s h a : Text) (c : CodePoint) (b : Text) :
      c ≠ '*' → Widens ⟨s, h, a ++ c :: b⟩ ⟨s, h, a ++ char '?' :: b⟩
  /-- Any run for a piece, the empty one included. -/
  | star (s h a piece b : Text) : Widens ⟨s, h, a ++ piece ++ b⟩ ⟨s, h, a ++ char '*' :: b⟩

theorem IsHost.isDomain_of_plain {h : Text} (host : IsHost h) (plain : h.head? ≠ some (char '*')) :
    IsDomain h ∧ char '/' ∉ h :=
  host.isDomain_of_other (fun any => plain (any ▸ rfl)) fun _ below => plain (below ▸ rfl)

variable {w w' : Parts}

/-- A widened pattern is one. -/
theorem Widens.isProper (widens : Widens w w') (proper : w.IsProper) : w'.IsProper := by
  obtain ⟨isScheme, isHost⟩ := proper
  cases widens with
  | scheme => exact ⟨⟨_, .any⟩, isHost⟩
  | host => exact ⟨isScheme, .any⟩
  | glob => exact ⟨isScheme, isHost⟩
  | below _ _ _ plain =>
    obtain ⟨domain, free⟩ := isHost.isDomain_of_plain plain
    exact ⟨isScheme, .below domain free⟩
  | shorten s x d g nonempty =>
    obtain ⟨domain, free⟩ := isHost.isDomain
    have starless : char '*' ∉ d := fun mem => domain.2 (by simp [mem])
    exact ⟨isScheme, .below ⟨nonempty, starless⟩ fun mem => free (by simp [mem])⟩
  | mark => exact ⟨isScheme, isHost⟩
  | star => exact ⟨isScheme, isHost⟩

theorem Widens.within (widens : Widens w w') : w.Within w' := by
  cases widens with
  | scheme s h g => exact { Parts.Within.refl ⟨s, h, g⟩ with schemes := .inl rfl }
  | host s h g => exact { Parts.Within.refl ⟨s, h, g⟩ with hosts := fun r _ => .any r }
  | glob s h g =>
    refine { Parts.Within.refl ⟨s, h, g⟩ with globs := fun t spelled => ?_ }
    have whole : Glob.Spells ([char '/'] ++ (g ++ [])) t := by simpa using spelled
    have wider := whole.replace fun x _ => Glob.spells_star x
    exact wider
  | below s h g plain =>
    exact { Parts.Within.refl ⟨s, h, g⟩ with hosts := fun _ => HostFits.below_of_plain plain }
  | shorten s x d g _ =>
    exact { Parts.Within.refl ⟨s, char '*' :: char '.' :: (x ++ char '.' :: d), g⟩ with
      hosts := fun _ => HostFits.shorten }
  | mark s h a c b single =>
    refine { Parts.Within.refl ⟨s, h, a ++ c :: b⟩ with globs := fun t spelled => ?_ }
    have whole : Glob.Spells (char '/' :: a ++ ([c] ++ b)) t := spelled
    have wider := whole.replace fun x => Glob.spells_mark_of_single single
    exact wider
  | star s h a piece b =>
    refine { Parts.Within.refl ⟨s, h, a ++ piece ++ b⟩ with globs := fun t spelled => ?_ }
    have whole : Glob.Spells (char '/' :: a ++ (piece ++ b)) t := by simpa using spelled
    have wider := whole.replace fun x _ => Glob.spells_star x
    exact wider

/-- In any number of steps a pattern is widened to one that is for all that the first one is
for. -/
theorem Widens.isFor_of_steps (widens : Relation.ReflTransGen Widens w w') (proper : w.IsProper) :
    w'.IsProper ∧ ∀ u, IsFor w.text u → IsFor w'.text u := by
  induction widens with
  | refl => exact ⟨proper, fun _ => id⟩
  | tail _ step ih =>
    obtain ⟨proper', wider⟩ := ih
    have proper'' := step.isProper proper'
    exact ⟨proper'', fun u suited => step.within.isFor proper' proper'' (wider u suited)⟩

/-! ### Both protocols -/

theorem partsFit_any_iff {host glob : Text} {u : Json} :
    PartsFit .any host glob u ↔
      PartsFit (.only .http) host glob u ∨ PartsFit (.only .https) host glob u := by
  constructor
  · intro fits
    cases fits with
    | @url t remote w q parsed named shown _ fits spelled =>
      cases q with
      | http => exact .inl (.url parsed named shown (by decide) fits spelled)
      | https => exact .inr (.url parsed named shown (by decide) fits spelled)
  · have all (p : WebProtocol) :
        ∀ q ∈ (SchemeRule.only p).protocols, q ∈ SchemeRule.any.protocols := by
      cases p <;> decide
    rintro (fits | fits)
    · exact fits.mono (all .http) (fun _ => id) (fun _ => id)
    · exact fits.mono (all .https) (fun _ => id) (fun _ => id)

/-- A text with `*` for a scheme is for what it is for with `http` or with `https`, be it a pattern
or not. -/
theorem isFor_any_iff (host glob : Text) (u : Json) :
    IsFor (Parts.text ⟨[char '*'], host, glob⟩) u ↔
      IsFor (Parts.text ⟨WebProtocol.http.name, host, glob⟩) u ∨
        IsFor (Parts.text ⟨WebProtocol.https.name, host, glob⟩) u := by
  simp only [Parts.text_eq]
  rw [isFor_mark_iff .any, isFor_mark_iff (.only .http), isFor_mark_iff (.only .https)]
  simp only [partsFit_any_iff, and_or_left, exists_or]

/-! ### Matching -/

/-- **Widening a pattern loses no URL.** What comes from a pattern by widening its parts, in one
step or in many, is a pattern and matches all that the first one matches, whatever the caches hold.
With `*` for a scheme a text matches what it matches with `http` or with `https`, whatever follows
the scheme and whether or not it is a pattern. -/
theorem test_widens {s s' : Session} (reached : s.cache.Reachable) (reached' : s'.cache.Reachable) :
    (∀ w w' : Parts, w.IsProper → Relation.ReflTransGen Widens w w' →
      (compile w'.text).isSome = true ∧
        ∀ u, (test (.str w.text) u).outcome.result s = .ok true →
          (test (.str w'.text) u).outcome.result s' = .ok true) ∧
      ∀ host glob u,
        (test (.str (Parts.text ⟨[char '*'], host, glob⟩)) u).outcome.result s = .ok true ↔
          (test (.str (Parts.text ⟨WebProtocol.http.name, host, glob⟩)) u).outcome.result s' =
              .ok true ∨
            (test (.str (Parts.text ⟨WebProtocol.https.name, host, glob⟩)) u).outcome.result s' =
              .ok true := by
  simp only [result_test_eq_true_iff reached, result_test_eq_true_iff reached', isFor_iff]
  refine ⟨fun w w' proper widens => ?_, isFor_any_iff⟩
  obtain ⟨proper', wider⟩ := Widens.isFor_of_steps widens proper
  obtain ⟨p, read, _⟩ := proper'.compile_text
  exact ⟨by rw [read]; rfl, wider⟩

/-- Fewer labels, any character, any end and both protocols, matched in a session whose cache is
full of another text. -/
theorem test_widens_steps :
    let s' : Session := ⟨((PatternCache.ofCapacity 1).get "ftp://x/".toText).2.1, []⟩
    let url := Json.str "HTTPS://d.a.b.c/x/y?q".toText
    Session.start.cache.Reachable ∧ s'.cache.Reachable ∧
      (test (.str "https://*.a.b.c/x/y".toText) url).outcome.result Session.start = .ok true ∧
      (compile "*://*.b.c/?/y*".toText).isSome = true ∧
      (test (.str "*://*.b.c/?/y*".toText) url).outcome.result s' = .ok true := by
  intro s' url
  have reached : Session.start.cache.Reachable := .ofCapacity 256
  have reached' : s'.cache.Reachable := .get _ (.ofCapacity 1)
  let w : Parts := ⟨"https".toText, "*.a.b.c".toText, "x/y".toText⟩
  have domain : IsDomain "a.b.c".toText := ⟨by decide, by decide⟩
  have proper : w.IsProper := ⟨⟨_, .only .https⟩, .below domain (by decide)⟩
  have labels : Widens w ⟨"https".toText, "*.b.c".toText, "x/y".toText⟩ :=
    .shorten _ [char 'a'] "b.c".toText _ (by decide)
  have character : Widens _ ⟨"https".toText, "*.b.c".toText, "?/y".toText⟩ :=
    .mark _ _ [] 'x' "/y".toText (by decide)
  have ending : Widens _ ⟨"https".toText, "*.b.c".toText, "?/y*".toText⟩ :=
    .star _ _ "?/y".toText [] []
  have steps := (((Relation.ReflTransGen.single labels).tail character).tail ending).tail
    (.scheme _ _ _)
  obtain ⟨isPattern, wider⟩ := (test_widens reached reached').1 _ _ proper steps
  have matched : (test (.str w.text) url).outcome.result Session.start = .ok true := by
    rw [result_test_eq_true_iff reached]
    decide
  exact ⟨reached, reached', matched, isPattern, wider url matched⟩

end Pattern

end ProxySelection
