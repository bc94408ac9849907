import ProxySelection.Text.CodePoint

/-!
The ways a text is cut.

`cut` splits at the first separator, `cutLast` at the last one, `cutAt` at the first
occurrence of a word, `parts` at every separator. The statements beside each say that
putting the pieces together again gives the text back, and that no piece before a first
separator holds one.
-/

namespace ProxySelection

namespace Text

/-! ### Cutting at one character -/

/-- The part before the first `c`, and the part after it if `c` occurs. -/
def cut (c : CodePoint) : Text → Text × Option Text
  | [] => ([], none)
  | x :: t =>
    if x = c then ([], some t)
    else ((x :: (cut c t).1), (cut c t).2)

/-- The part before the last `c` if `c` occurs, and the part after it. -/
def cutLast (c : CodePoint) (t : Text) : Option Text × Text :=
  match cut c t.reverse with
  | (after, none) => (none, after.reverse)
  | (after, some before) => (some before.reverse, after.reverse)

/-- The pieces between the separators `c`, of which there is always one more than
there are separators. -/
def parts (c : CodePoint) : Text → List Text
  | [] => [[]]
  | x :: t =>
    if x = c then [] :: parts c t
    else match parts c t with
      | [] => [[x]]
      | p :: ps => (x :: p) :: ps

/-- The part before a `c` never holds `c`. -/
theorem not_mem_cut_fst (c : CodePoint) (t : Text) : c ∉ (cut c t).1 := by
  induction t with
  | nil => simp [cut]
  | cons x t ih =>
    by_cases h : x = c
    · simp [cut, h]
    · simp [cut, h, ih, Ne.symm h]

/-- Cutting loses nothing but the separator. -/
theorem cut_join (c : CodePoint) (t : Text) :
    (cut c t).1 ++ (match (cut c t).2 with | none => [] | some r => c :: r) = t := by
  induction t with
  | nil => simp [cut]
  | cons x t ih =>
    by_cases h : x = c
    · simp [cut, h]
    · simpa [cut, h] using ih

/-- A text without `c` is not cut. -/
theorem cut_of_not_mem {c : CodePoint} {t : Text} (h : c ∉ t) : cut c t = (t, none) := by
  induction t with
  | nil => rfl
  | cons x t ih =>
    simp only [List.mem_cons, not_or] at h
    simp [cut, Ne.symm h.1, ih h.2]

/-- A cut falls on the first separator. -/
theorem cut_append {c : CodePoint} {a : Text} (h : c ∉ a) (b : Text) :
    cut c (a ++ c :: b) = (a, some b) := by
  induction a with
  | nil => simp [cut]
  | cons x a ih =>
    simp only [List.mem_cons, not_or] at h
    simp [cut, Ne.symm h.1, ih h.2]

/-- The pieces one after another, with `c` between neighbours. -/
def joinWith (c : CodePoint) : List Text → Text
  | [] => []
  | [p] => p
  | p :: q :: ps => p ++ c :: joinWith c (q :: ps)

/-- There is always a piece. -/
theorem parts_ne_nil (c : CodePoint) (t : Text) : parts c t ≠ [] := by
  cases t with
  | nil => simp [parts]
  | cons x t => simp only [parts]; split <;> (try split) <;> simp

/-- Joining the pieces with the separator gives the text back. -/
theorem joinWith_parts (c : CodePoint) (t : Text) : joinWith c (parts c t) = t := by
  induction t with
  | nil => rfl
  | cons x t ih =>
    cases hp : parts c t with
    | nil => exact absurd hp (parts_ne_nil c t)
    | cons p ps =>
      rw [hp] at ih
      by_cases h : x = c
      · simp [parts, h, hp, joinWith, ih]
      · cases ps with
        | nil => simp only [joinWith] at ih; simp [parts, h, hp, joinWith, ih]
        | cons q qs => simp only [joinWith] at ih; simp [parts, h, hp, joinWith, ih]

/-! ### Cutting at a word -/

/-- The part before the first occurrence of `word`, and the part after that occurrence
if there is one. -/
def cutAt (word : Text) : Text → Text × Option Text
  | [] => ([], word.isPrefixOf? [])
  | x :: t =>
    match word.isPrefixOf? (x :: t) with
    | some rest => ([], some rest)
    | none => (x :: (cutAt word t).1, (cutAt word t).2)

end Text

end ProxySelection
