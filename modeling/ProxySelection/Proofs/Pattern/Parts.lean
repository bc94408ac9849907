import ProxySelection.Proofs.Pattern.Grammar
import ProxySelection.Proofs.Pattern.Runs

/-!
What the parts of a pattern are for.

Each part is given a meaning without any matching, and the decision that the library makes
about it is shown to agree. The rule of a scheme is for the protocols among its own
(`schemes_cover_iff`). A host fits itself, a domain and what ends with a point and the
domain, or everything (`Pattern.HostFits`, `IsHost.covers_iff`). A glob spells the texts that
can be cut into one run for each of its characters (`Glob.Spells`, `Glob.accepts_ofText_iff`);
`*` and `?` stand for any characters there, line feeds too, which `Glob.Accepts` leaves out.
-/

namespace ProxySelection

/-! ### Globs as texts -/

namespace Glob

/-- The runs of characters that a character of a glob stands for. -/
inductive StandsFor : CodePoint → Text → Prop where
  | star (run : Text) : StandsFor '*' run
  | mark (c : CodePoint) : StandsFor '?' [c]
  | itself {c : CodePoint} : c ≠ '*' → c ≠ '?' → StandsFor c [c]

/-- A text is spelled by a glob if it can be cut into one run for each character. -/
def Spells (glob t : Text) : Prop := ∃ runs, List.Forall₂ StandsFor glob runs ∧ runs.flatten = t

/-- What matching takes, a character stands for. -/
theorem Takes.standsFor {c : CodePoint} {run : Text} (h : Takes c run) : StandsFor c run := by
  cases h with
  | star _ => exact .star run
  | mark _ => exact .mark _
  | itself notStar notMark => exact .itself notStar notMark

/-- The runs without line feeds that a character stands for are taken. -/
theorem takes_of_standsFor {c : CodePoint} {run : Text} (h : StandsFor c run)
    (free : char '\n' ∉ run) : Takes c run := by
  cases h with
  | star run => exact .star free
  | mark c => exact .mark fun same => free (by simp [same])
  | itself notStar notMark => exact .itself notStar notMark

theorem forall₂_takes {g : Text} {runs : List Text} (spelled : List.Forall₂ StandsFor g runs)
    (free : char '\n' ∉ runs.flatten) : List.Forall₂ Takes g runs := by
  induction spelled with
  | nil => exact .nil
  | cons stands _ ih =>
    rw [List.flatten_cons, List.mem_append, not_or] at free
    exact .cons (takes_of_standsFor stands free.1) (ih free.2)

/-- A glob accepts a text without line feeds exactly if it spells it. -/
theorem accepts_ofText_iff {g t : Text} (free : char '\n' ∉ t) :
    Accepts (ofText g) t ↔ Spells g t := by
  rw [← accepts_iff, accepts_iff_madeBy]
  constructor
  · rintro ⟨runs, taken, whole⟩
    exact ⟨runs, taken.imp fun _ _ => Takes.standsFor, whole⟩
  · rintro ⟨runs, spelled, rfl⟩
    exact ⟨runs, forall₂_takes spelled free, rfl⟩

theorem spells_nil_iff {t : Text} : Spells [] t ↔ t = [] := madeBy_nil_iff

theorem spells_cons_iff {c : CodePoint} {g t : Text} :
    Spells (c :: g) t ↔ ∃ run rest, t = run ++ rest ∧ StandsFor c run ∧ Spells g rest :=
  madeBy_cons_iff

/-- Globs one behind the other spell what they spell by themselves, one behind the other. -/
theorem spells_append_iff {a b t : Text} :
    Spells (a ++ b) t ↔ ∃ x y, t = x ++ y ∧ Spells a x ∧ Spells b y :=
  madeBy_append_iff

end Glob

/-! ### Sorting hosts -/

namespace HostRule

/-- Every host is for all hosts, for a domain or for itself, as it is written. -/
theorem ofText_cases (host : Text) :
    host = [char '*'] ∧ ofText host = .any ∨
    (∃ d, host = char '*' :: char '.' :: d ∧ ofText host = .suffix d) ∨
    host ≠ [char '*'] ∧ (∀ d, host ≠ char '*' :: char '.' :: d) ∧ ofText host = .exact host := by
  unfold ofText
  split
  · rename_i star
    exact .inl ⟨star, rfl⟩
  · rename_i notAny
    cases found : suffixMark.isPrefixOf? host with
    | some d =>
      have whole := List.isPrefixOf?_eq_some_iff_append_eq.mp found
      exact .inr (.inl ⟨d, whole.symm, rfl⟩)
    | none =>
      refine .inr (.inr ⟨notAny, fun d below => ?_, rfl⟩)
      have marked : suffixMark.isPrefixOf? host = some d :=
        List.isPrefixOf?_eq_some_iff_append_eq.mpr below.symm
      rw [marked] at found
      cases found

end HostRule

namespace Pattern

/-! ### Schemes -/

/-- A rule is for a protocol of the web that is among its own. -/
theorem schemes_cover_iff {r : SchemeRule} {protocol : Option Text} :
    r.covers protocol = true ↔ ∃ q : WebProtocol, protocol = some q.name ∧ q ∈ r.protocols := by
  unfold SchemeRule.covers
  cases named : protocol.bind WebProtocol.ofName? with
  | none =>
    simp only [Bool.false_eq_true, false_iff, not_exists]
    rintro q ⟨rfl, _⟩
    rw [Option.bind_some, WebProtocol.ofName?_eq_some_iff.mpr rfl] at named
    cases named
  | some q =>
    obtain ⟨t, rfl, isName⟩ := Option.bind_eq_some_iff.mp named
    obtain rfl := WebProtocol.ofName?_eq_some_iff.mp isName
    rw [List.contains_iff_mem]
    constructor
    · intro mem
      exact ⟨q, rfl, mem⟩
    · rintro ⟨q', same, mem⟩
      exact WebProtocol.name_inj (Option.some.inj same) ▸ mem

/-! ### Hosts -/

/-- `HostFits h r`: the host `h` of a pattern is for the remote host `r`. -/
inductive HostFits : Text → Text → Prop where
  | any (r : Text) : HostFits [char '*'] r
  | domain (d : Text) : HostFits (char '*' :: char '.' :: d) d
  | below (d name : Text) : HostFits (char '*' :: char '.' :: d) (name ++ char '.' :: d)
  | exact {h : Text} : h.head? ≠ some (char '*') → HostFits h h

/-- A rule for a domain is for it and for the hosts below it. -/
theorem suffix_covers_iff {d r : Text} :
    (HostRule.suffix d).covers r = true ↔ r = d ∨ ∃ name, r = name ++ char '.' :: d := by
  unfold HostRule.covers
  rw [Bool.or_eq_true, beq_iff_eq, List.isSuffixOf_iff_suffix]
  exact or_congr Iff.rfl (exists_congr fun _ => eq_comm)

theorem IsHost.isDomain {d : Text} (h : IsHost (char '*' :: char '.' :: d)) :
    IsDomain d ∧ char '/' ∉ d := by
  cases h with
  | below domain free => exact ⟨domain, free⟩
  | exact domain _ => exact absurd domain.2 (by simp)

theorem IsHost.isDomain_of_other {h : Text} (host : IsHost h) (notAny : h ≠ [char '*'])
    (notBelow : ∀ d, h ≠ char '*' :: char '.' :: d) : IsDomain h ∧ char '/' ∉ h := by
  cases host with
  | any => exact absurd rfl notAny
  | below => exact absurd rfl (notBelow _)
  | exact domain free => exact ⟨domain, free⟩

/-- The rule of a host is for the remote hosts that the host fits. -/
theorem IsHost.covers_iff {h : Text} (host : IsHost h) (r : Text) :
    (HostRule.ofText h).covers r = true ↔ HostFits h r := by
  rcases HostRule.ofText_cases h with ⟨rfl, rule⟩ | ⟨d, rfl, rule⟩ | ⟨notAny, notBelow, rule⟩
  · rw [rule]
    exact iff_of_true rfl (.any r)
  · rw [rule, suffix_covers_iff]
    constructor
    · rintro (rfl | ⟨name, rfl⟩)
      · exact .domain r
      · exact .below d name
    · intro fits
      cases fits with
      | domain => exact .inl rfl
      | below _ name => exact .inr ⟨name, rfl⟩
      | exact plain => exact absurd rfl plain
  · obtain ⟨domain, _⟩ := host.isDomain_of_other notAny notBelow
    rw [rule, HostRule.covers, beq_iff_eq]
    constructor
    · rintro rfl
      refine .exact fun star => domain.2 ?_
      exact List.mem_of_mem_head? star
    · intro fits
      cases fits with
      | any => exact absurd rfl notAny
      | domain => exact absurd rfl (notBelow _)
      | below => exact absurd rfl (notBelow _)
      | exact _ => rfl

end Pattern

end ProxySelection
