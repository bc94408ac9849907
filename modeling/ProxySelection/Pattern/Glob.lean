import ProxySelection.Text.Basic

/-!
Globs: patterns over whole texts.

A glob is a sequence of pieces. `*` stands for any run of characters, the empty one included,
`?` for a single character, and any other character for itself; neither `*` nor `?` takes a
line feed. `Glob.Accepts` says this by a cut of the text into one part per piece, and
`Glob.accepts` decides it: `Glob.accepts_iff`.

The decision works through the glob from its end. `row` holds, for every remainder of the
text, whether the rest of the glob takes the whole of it, so that the time taken is at most
the product of both lengths.
-/

namespace ProxySelection

/-- One piece of a glob. -/
inductive Glob.Piece where
  /-- Any run of characters. -/
  | run
  /-- A single character. -/
  | one
  /-- The character itself. -/
  | char (c : CodePoint)
  deriving DecidableEq

/-- A pattern for whole texts. -/
abbrev Glob := List Glob.Piece

namespace Glob

/-- The characters that `*` and `?` stand for. -/
def isFree (c : CodePoint) : Bool := c != '\n'

/-- The piece that a character of a pattern stands for. -/
def Piece.ofChar (c : CodePoint) : Piece :=
  if c = '*' then .run else if c = '?' then .one else .char c

/-- The glob that a text denotes. -/
def ofText (t : Text) : Glob := t.map Piece.ofChar

/-! ### Meaning -/

/-- The parts of a text that a piece stands for. -/
def Piece.Admits : Piece → Text → Prop
  | .run, part => ∀ c ∈ part, isFree c = true
  | .one, part => ∃ c, isFree c = true ∧ part = [c]
  | .char c, part => part = [c]

/-- The parts of a cut, one per piece, each of which its piece stands for. -/
inductive Cut : Glob → List Text → Prop where
  | nil : Cut [] []
  | cons {p : Piece} {g : Glob} {part : Text} {parts : List Text} :
      p.Admits part → Cut g parts → Cut (p :: g) (part :: parts)

/-- The text can be cut into one part per piece, such that each piece stands for its part. -/
def Accepts (g : Glob) (t : Text) : Prop := ∃ parts, Cut g parts ∧ parts.flatten = t

/-! ### Decision -/

/-- Whether a piece stands for a single character. -/
def Piece.takes : Piece → CodePoint → Bool
  | .run, c => isFree c
  | .one, c => isFree c
  | .char x, c => x == c

/-- The row of a glob whose first piece is `*`, from the row of what follows that piece. -/
def runRow : Text → List Bool → List Bool
  | [], rest => rest
  | c :: t, rest =>
    let later := runRow t rest.tail
    (rest.headD false || (isFree c && later.headD false)) :: later

/-- The row of a glob whose first piece takes one character, from the row of what follows. -/
def oneRow (p : Piece) : Text → List Bool → List Bool
  | [], _ => [false]
  | c :: t, rest => (p.takes c && rest.tail.headD false) :: oneRow p t rest.tail

/-- For every remainder of the text, the longest first, whether the glob accepts it. -/
def row : Glob → Text → List Bool
  | [], t => t.map (fun _ => false) ++ [true]
  | .run :: g, t => runRow t (row g t)
  | p :: g, t => oneRow p t (row g t)

/-- Whether the glob accepts the text. -/
def accepts : Glob → Text → Bool
  | [], t => t.isEmpty
  | .run :: g, t => (row (.run :: g) t).headD false
  | p :: g, c :: t => p.takes c && accepts g t
  | _ :: _, [] => false

/-! ### Laws of the meaning -/

/-- The glob without pieces accepts the empty text only. -/
theorem accepts_nil_iff {t : Text} : Accepts [] t ↔ t = [] := by
  constructor
  · rintro ⟨parts, cut, rfl⟩
    cases cut
    rfl
  · rintro rfl
    exact ⟨[], .nil, rfl⟩

/-- `?` takes one character that is free. -/
theorem accepts_one_iff {g : Glob} {t : Text} :
    Accepts (.one :: g) t ↔ ∃ c r, t = c :: r ∧ isFree c = true ∧ Accepts g r := by
  constructor
  · rintro ⟨_, cut, rfl⟩
    cases cut with
    | cons admits rest =>
      obtain ⟨c, free, rfl⟩ := admits
      exact ⟨c, _, rfl, free, _, rest, rfl⟩
  · rintro ⟨c, r, rfl, free, parts, cut, rfl⟩
    exact ⟨[c] :: parts, .cons ⟨c, free, rfl⟩ cut, rfl⟩

/-- A character takes itself. -/
theorem accepts_char_iff {g : Glob} {x : CodePoint} {t : Text} :
    Accepts (.char x :: g) t ↔ ∃ r, t = x :: r ∧ Accepts g r := by
  constructor
  · rintro ⟨_, cut, rfl⟩
    cases cut with
    | cons admits rest =>
      cases admits
      exact ⟨_, rfl, _, rest, rfl⟩
  · rintro ⟨r, rfl, parts, cut, rfl⟩
    exact ⟨[x] :: parts, .cons rfl cut, rfl⟩

/-- A character takes the first one of a text if the two are the same. -/
theorem accepts_char_cons_iff {g : Glob} {x c : CodePoint} {t : Text} :
    Accepts (.char x :: g) (c :: t) ↔ x = c ∧ Accepts g t := by
  rw [accepts_char_iff]
  constructor
  · rintro ⟨r, same, h⟩
    cases same
    exact ⟨rfl, h⟩
  · rintro ⟨rfl, h⟩
    exact ⟨t, rfl, h⟩

/-- `*` takes nothing, or one free character and then again a run. -/
theorem accepts_run_iff {g : Glob} {t : Text} :
    Accepts (.run :: g) t ↔
      Accepts g t ∨ ∃ c r, t = c :: r ∧ isFree c = true ∧ Accepts (.run :: g) r := by
  constructor
  · rintro ⟨_, cut, rfl⟩
    cases cut with
    | @cons _ _ part parts admits rest =>
      cases part with
      | nil => exact .inl ⟨_, rest, rfl⟩
      | cons c part =>
        refine .inr ⟨c, part ++ parts.flatten, rfl, admits c (by simp), part :: parts, ?_, rfl⟩
        exact .cons (fun x mem => admits x (by simp [mem])) rest
  · rintro (⟨parts, cut, rfl⟩ | ⟨c, r, rfl, free, _, cut, rfl⟩)
    · exact ⟨[] :: parts, .cons (by simp [Piece.Admits]) cut, rfl⟩
    · cases cut with
      | @cons _ _ part parts admits rest =>
        refine ⟨(c :: part) :: parts, .cons ?_ rest, rfl⟩
        intro x mem
        rcases List.mem_cons.mp mem with rfl | mem
        · exact free
        · exact admits x mem

/-! ### The decision is right -/

/-- A row answers for every remainder of the text. -/
def IsRow (g : Glob) : Text → List Bool → Prop
  | [], bs => ∃ b, bs = [b] ∧ (b = true ↔ Accepts g [])
  | c :: t, bs => ∃ b r, bs = b :: r ∧ (b = true ↔ Accepts g (c :: t)) ∧ IsRow g t r

/-- The first entry of a row is for the whole text. -/
theorem IsRow.headD_iff {g : Glob} {t : Text} {bs : List Bool} (h : IsRow g t bs) :
    bs.headD false = true ↔ Accepts g t := by
  cases t with
  | nil => obtain ⟨b, rfl, hb⟩ := h; simpa using hb
  | cons c t => obtain ⟨b, r, rfl, hb, _⟩ := h; simpa using hb

/-- The row of the glob without pieces. -/
theorem isRow_nil (t : Text) : IsRow [] t (t.map (fun _ => false) ++ [true]) := by
  induction t with
  | nil => exact ⟨true, rfl, by simp [accepts_nil_iff]⟩
  | cons c t ih => exact ⟨false, _, rfl, by simp [accepts_nil_iff], ih⟩

/-- The row of a glob whose first piece is `*`. -/
theorem isRow_runRow {g : Glob} {t : Text} {rest : List Bool} (h : IsRow g t rest) :
    IsRow (.run :: g) t (runRow t rest) := by
  induction t generalizing rest with
  | nil =>
    obtain ⟨b, rfl, hb⟩ := h
    refine ⟨b, rfl, ?_⟩
    rw [hb, accepts_run_iff]
    simp
  | cons c t ih =>
    obtain ⟨b, r, rfl, hb, hr⟩ := h
    have later := ih hr
    refine ⟨_, _, rfl, ?_, later⟩
    rw [accepts_run_iff, Bool.or_eq_true, Bool.and_eq_true, List.headD_cons, hb,
      IsRow.headD_iff (by simpa using later)]
    simp [and_assoc]

/-- The row of a glob whose first piece takes one character. -/
theorem isRow_oneRow {g : Glob} {p : Piece} (single : p ≠ .run) {t : Text} {rest : List Bool}
    (h : IsRow g t rest) : IsRow (p :: g) t (oneRow p t rest) := by
  induction t generalizing rest with
  | nil =>
    refine ⟨false, rfl, ?_⟩
    cases p with
    | run => exact absurd rfl single
    | one => simp [accepts_one_iff]
    | char x => simp [accepts_char_iff]
  | cons c t ih =>
    obtain ⟨b, r, rfl, _, hr⟩ := h
    refine ⟨_, _, rfl, ?_, ih hr⟩
    rw [Bool.and_eq_true, List.tail_cons, hr.headD_iff]
    cases p with
    | run => exact absurd rfl single
    | one => simp [accepts_one_iff, Piece.takes, and_assoc]
    | char x => rw [accepts_char_cons_iff, Piece.takes, beq_iff_eq]

/-- The rows are right. -/
theorem isRow_row (g : Glob) (t : Text) : IsRow g t (row g t) := by
  induction g with
  | nil => exact isRow_nil t
  | cons p g ih =>
    cases p with
    | run => exact isRow_runRow ih
    | one => exact isRow_oneRow (by simp) ih
    | char c => exact isRow_oneRow (by simp) ih

/-- The decision is right: a glob accepts the texts that its pieces cut. -/
theorem accepts_iff {g : Glob} {t : Text} : accepts g t = true ↔ Accepts g t := by
  fun_induction accepts g t with
  | case1 t => simp [accepts_nil_iff]
  | case2 t g => exact (isRow_row _ _).headD_iff
  | case3 p g c t single ih =>
    cases p with
    | run => exact absurd rfl single
    | one => simp [accepts_one_iff, Piece.takes, ih, and_assoc]
    | char x => rw [accepts_char_cons_iff, Bool.and_eq_true, Piece.takes, beq_iff_eq, ih]
  | case4 p g single =>
    cases p with
    | run => exact absurd rfl single
    | one => simp [accepts_one_iff]
    | char x => simp [accepts_char_iff]

/-- Acceptance is decided by `accepts`. -/
instance (g : Glob) (t : Text) : Decidable (Accepts g t) :=
  decidable_of_iff (accepts g t = true) accepts_iff

end Glob

end ProxySelection
