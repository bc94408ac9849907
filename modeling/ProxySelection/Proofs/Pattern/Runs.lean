import ProxySelection.Pattern.Glob
import Mathlib.Data.List.Forall2

/-!
What globs accept, line feeds included.

A text is made by a glob if it is one run for each character of the glob, put one behind the other
(`Glob.MadeBy`). Which runs a character stands for is left open there, so that the laws of such
texts hold whatever is said about line feeds. `Glob.Takes` says what matching says: `*` takes any
run without line feeds, `?` a single character that is none, and any other character itself.

The texts that are accepted are those made by the glob (`accepts_iff_madeBy`), and how several `*`
share a text among them is never asked for. The rest follows from this meaning. A line feed of the
text is always one of the glob (`madeBy_lineFeed_iff`), a piece of a glob without `*` and `?` is
found in the text as it stands (`madeBy_literal_iff`), and stars side by side are one
(`madeBy_stars_iff`).
-/

namespace ProxySelection

namespace Glob

/-! ### Texts made of runs -/

section MadeBy

variable {R : CodePoint → Text → Prop} {c : CodePoint} {a b g t : Text}

/-- The text is one run for each character of the glob, each of which stands to its character as
`R` says. -/
def MadeBy (R : CodePoint → Text → Prop) (glob t : Text) : Prop :=
  ∃ runs, List.Forall₂ R glob runs ∧ runs.flatten = t

theorem madeBy_nil_iff : MadeBy R [] t ↔ t = [] := by
  constructor
  · rintro ⟨_, made, rfl⟩
    cases made
    rfl
  · rintro rfl
    exact ⟨[], .nil, rfl⟩

theorem madeBy_cons_iff :
    MadeBy R (c :: g) t ↔ ∃ run rest, t = run ++ rest ∧ R c run ∧ MadeBy R g rest := by
  constructor
  · rintro ⟨_, made, rfl⟩
    cases made with
    | cons stands others => exact ⟨_, _, rfl, stands, _, others, rfl⟩
  · rintro ⟨run, _, rfl, stands, runs, others, rfl⟩
    exact ⟨run :: runs, .cons stands others, rfl⟩

/-- Globs one behind the other make what they make by themselves, one behind the other. -/
theorem madeBy_append_iff :
    MadeBy R (a ++ b) t ↔ ∃ x y, t = x ++ y ∧ MadeBy R a x ∧ MadeBy R b y := by
  induction a generalizing t with
  | nil => simp [madeBy_nil_iff]
  | cons c a ih =>
    simp only [List.cons_append, madeBy_cons_iff, ih]
    constructor
    · rintro ⟨run, _, rfl, stands, x, y, rfl, first, second⟩
      exact ⟨run ++ x, y, by simp, ⟨run, x, rfl, stands, first⟩, second⟩
    · rintro ⟨_, y, rfl, ⟨run, x, rfl, stands, first⟩, second⟩
      exact ⟨run, x ++ y, by simp, stands, x, y, rfl, first, second⟩

end MadeBy

/-! ### What a character takes -/

/-- The runs of characters that a character of a glob takes. -/
inductive Takes : CodePoint → Text → Prop where
  | star {run : Text} : char '\n' ∉ run → Takes '*' run
  | mark {c : CodePoint} : c ≠ '\n' → Takes '?' [c]
  | itself {c : CodePoint} : c ≠ '*' → c ≠ '?' → Takes c [c]

variable {a b c : CodePoint} {g l run t x y : Text}

theorem isFree_iff : isFree c = true ↔ c ≠ '\n' := by
  simp [isFree]

/-- A character takes the parts that its piece stands for. -/
theorem takes_iff_admits : Takes c run ↔ (Piece.ofChar c).Admits run := by
  constructor
  · intro takes
    cases takes with
    | star free => exact fun x mem => isFree_iff.mpr fun same => free (same ▸ mem)
    | mark other => exact ⟨_, isFree_iff.mpr other, rfl⟩
    | itself notStar notMark =>
      rw [Piece.ofChar, if_neg notStar, if_neg notMark]
      rfl
  · intro admits
    unfold Piece.ofChar at admits
    split at admits
    · rename_i star
      exact star ▸ .star fun mem => isFree_iff.mp (admits _ mem) rfl
    · split at admits
      · rename_i mark
        obtain ⟨x, free, rfl⟩ := admits
        exact mark ▸ .mark (isFree_iff.mp free)
      · rename_i notStar notMark
        obtain rfl : run = [c] := admits
        exact .itself notStar notMark

/-- The cuts of a glob are those with one taken run for each character. -/
theorem cut_ofText_iff {runs : List Text} :
    Cut (ofText g) runs ↔ List.Forall₂ Takes g runs := by
  induction g generalizing runs with
  | nil =>
    constructor
    · rintro ⟨⟩
      exact .nil
    · rintro ⟨⟩
      exact .nil
  | cons c g ih =>
    constructor
    · rintro (_ | ⟨admits, rest⟩)
      exact .cons (takes_iff_admits.mpr admits) (ih.mp rest)
    · rintro (_ | ⟨takes, rest⟩)
      exact .cons (takes_iff_admits.mp takes) (ih.mpr rest)

/-- A glob accepts the texts that it makes. -/
theorem accepts_iff_madeBy : (ofText g).accepts t = true ↔ MadeBy Takes g t := by
  rw [accepts_iff]
  exact exists_congr fun _ => and_congr_left' cut_ofText_iff

/-! ### Line feeds -/

/-- A line feed is taken by a line feed of the glob, and by nothing else. -/
theorem Takes.eq_of_lineFeed (takes : Takes c run) (mem : char '\n' ∈ run) :
    c = '\n' ∧ run = [char '\n'] := by
  cases takes with
  | star free => exact absurd mem free
  | mark other => exact absurd (List.mem_singleton.mp mem).symm other
  | itself _ _ =>
    obtain rfl := List.mem_singleton.mp mem
    exact ⟨rfl, rfl⟩

/-- Where the text has a line feed the glob has one, and what stands on both sides of the one makes
what stands on both sides of the other. -/
theorem madeBy_lineFeed_iff :
    MadeBy Takes g (x ++ char '\n' :: y) ↔
      ∃ a b, g = a ++ char '\n' :: b ∧ MadeBy Takes a x ∧ MadeBy Takes b y := by
  constructor
  · intro made
    induction g generalizing x with
    | nil => simp [madeBy_nil_iff] at made
    | cons c g ih =>
      obtain ⟨run, rest, whole, takes, others⟩ := madeBy_cons_iff.mp made
      rcases List.append_eq_append_iff.mp whole with ⟨_ | ⟨d, z⟩, front, back⟩ | ⟨z, rfl, rfl⟩
      -- The run ends in front of the line feed, or has it as its first character behind `x`.
      · obtain rfl : rest = char '\n' :: y := by simpa using back.symm
        obtain ⟨a, b, rfl, first, second⟩ := ih (x := []) others
        refine ⟨c :: a, b, rfl, ?_, second⟩
        obtain rfl : run = x := by simpa using front
        exact madeBy_cons_iff.mpr ⟨run, [], by simp, takes, first⟩
      · obtain ⟨rfl, rfl⟩ := List.cons.inj back
        obtain ⟨rfl, single⟩ := takes.eq_of_lineFeed (by simp [front])
        rw [front] at single
        obtain ⟨rfl, rfl⟩ : x = [] ∧ z = [] := by
          cases x <;> simp_all
        exact ⟨[], g, rfl, madeBy_nil_iff.mpr rfl, by simpa using others⟩
      · obtain ⟨a, b, rfl, first, second⟩ := ih others
        exact ⟨c :: a, b, rfl, madeBy_cons_iff.mpr ⟨run, z, rfl, takes, first⟩, second⟩
  · rintro ⟨a, b, rfl, first, second⟩
    have takes : Takes '\n' [char '\n'] := .itself (by decide) (by decide)
    have behind : MadeBy Takes (char '\n' :: b) (char '\n' :: y) :=
      madeBy_cons_iff.mpr ⟨[char '\n'], y, rfl, takes, second⟩
    exact madeBy_append_iff.mpr ⟨x, _, rfl, first, behind⟩

/-! ### Literal pieces and stars -/

theorem takes_iff_of_literal (notStar : c ≠ '*') (notMark : c ≠ '?') :
    Takes c run ↔ run = [c] := by
  constructor
  · intro takes
    cases takes with
    | star => exact absurd rfl notStar
    | mark => exact absurd rfl notMark
    | itself => rfl
  · rintro rfl
    exact .itself notStar notMark

/-- Without `*` and `?` a glob makes itself, whatever its characters are. -/
theorem madeBy_literal_iff (starless : char '*' ∉ l) (markless : char '?' ∉ l) :
    MadeBy Takes l t ↔ t = l := by
  induction l generalizing t with
  | nil => exact madeBy_nil_iff
  | cons c l ih =>
    simp only [List.mem_cons, not_or] at starless markless
    simp [madeBy_cons_iff, ih starless.2 markless.2,
      takes_iff_of_literal (Ne.symm starless.1) (Ne.symm markless.1)]

theorem takes_star_iff : Takes '*' run ↔ char '\n' ∉ run := by
  constructor
  · intro takes
    cases takes with
    | star free => exact free
    | itself notStar => exact absurd rfl notStar
  · exact .star

/-- Any number of stars takes what one of them takes. -/
theorem madeBy_stars_iff (n : Nat) :
    MadeBy Takes (List.replicate (n + 1) (char '*')) t ↔ char '\n' ∉ t := by
  induction n generalizing t with
  | zero => simp [madeBy_cons_iff, madeBy_nil_iff, takes_star_iff]
  | succ n ih =>
    rw [List.replicate_succ, madeBy_cons_iff]
    simp only [ih, takes_star_iff]
    constructor
    · rintro ⟨run, rest, rfl, first, second⟩
      simp [first, second]
    · intro free
      exact ⟨t, [], by simp, free, by simp⟩

/-! ### Acceptance -/

/-- **A glob accepts what its characters take, one behind the other.** The whole text is taken: a
line feed of it, at its end or anywhere else, is one of the glob, where the glob is divided as the
text is. A piece without `*` and `?` takes itself and nothing else, and adjacent stars are one. -/
theorem accepts_iff_taken :
    (∀ g t : Text, (ofText g).accepts t = true ↔
      ∃ runs, List.Forall₂ Takes g runs ∧ runs.flatten = t) ∧
    (∀ g x y : Text, (ofText g).accepts (x ++ char '\n' :: y) = true ↔
      ∃ a b, g = a ++ char '\n' :: b ∧ (ofText a).accepts x = true ∧ (ofText b).accepts y = true) ∧
    (∀ a l b t : Text, char '*' ∉ l → char '?' ∉ l →
      ((ofText (a ++ (l ++ b))).accepts t = true ↔
        ∃ x y, t = x ++ (l ++ y) ∧ (ofText a).accepts x = true ∧ (ofText b).accepts y = true)) ∧
    ∀ (a b t : Text) (n : Nat),
      (ofText (a ++ (List.replicate (n + 1) (char '*') ++ b))).accepts t =
        (ofText (a ++ char '*' :: b)).accepts t := by
  refine ⟨fun g t => accepts_iff_madeBy, fun g x y => ?_, fun a l b t starless markless => ?_,
    fun a b t n => ?_⟩
  · simp only [accepts_iff_madeBy]
    exact madeBy_lineFeed_iff
  · simp only [accepts_iff_madeBy, madeBy_append_iff, madeBy_literal_iff starless markless]
    constructor
    · rintro ⟨x, _, rfl, first, _, y, rfl, rfl, second⟩
      exact ⟨x, y, rfl, first, second⟩
    · rintro ⟨x, y, rfl, first, second⟩
      exact ⟨x, l ++ y, rfl, first, l, y, rfl, rfl, second⟩
  · have one := List.replicate_one (a := char '*')
    rw [Bool.eq_iff_iff, ← List.singleton_append, ← one]
    simp only [accepts_iff_madeBy, madeBy_append_iff, madeBy_stars_iff, madeBy_stars_iff 0]

/-- Marks of other pattern languages are taken as they stand, and a line feed at the end is taken by
no star. -/
theorem accepts_iff_taken_of_marks :
    (ofText "/?.[+(**".toText).accepts "/v.[+(x".toText = true ∧
      (ofText "/?.[+(**".toText).accepts "/v.[+(x\n".toText = false := by
  obtain ⟨_, lineFeed, literal, _⟩ := accepts_iff_taken
  constructor
  · have pieces := literal "/?".toText ".[+(".toText "**".toText "/v.[+(x".toText
      (by decide) (by decide)
    exact pieces.mpr ⟨"/v".toText, [char 'x'], rfl, by decide, by decide⟩
  · rw [Bool.eq_false_iff]
    intro accepted
    obtain ⟨a, b, whole, _⟩ := (lineFeed "/?.[+(**".toText "/v.[+(x".toText []).mp accepted
    have there : char '\n' ∈ "/?.[+(**".toText := by simp [whole]
    exact absurd there (by decide)

end Glob

end ProxySelection
