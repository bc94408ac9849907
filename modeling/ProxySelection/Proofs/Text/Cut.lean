import ProxySelection.Text.Blank
import Mathlib.Data.List.DropRight
import Mathlib.Data.List.TakeWhile

/-!
Where texts are cut and trimmed.

`Text.cut` finds the first occurrence of a character, `Text.cutLast` the last one, and
`Text.cutAt` the first occurrence of a word. Each is characterised by the only way to write the
text around that occurrence: `cut_eq_some_iff`, `cutLast_eq_some_iff`, and `cutAt_eq_some` with
its converse `cutAt_append` for words whose first character does not stand in front. Trimming
leaves what stands in front of the characters to trim (`trimWhile_append`), and does not notice what
is trimmed anyway (`trimWhile_surrounded`, `dropEndWhile_filter`).
-/

namespace ProxySelection

namespace Text

/-! ### At one character -/

/-- A cut falls exactly on the first separator. -/
theorem cut_eq_some_iff {c : CodePoint} {t a b : Text} :
    cut c t = (a, some b) ↔ t = a ++ c :: b ∧ c ∉ a := by
  constructor
  · intro h
    have join := cut_join c t
    have free := not_mem_cut_fst c t
    rw [h] at join free
    exact ⟨join.symm, free⟩
  · rintro ⟨rfl, free⟩
    exact cut_append free b

/-- A text is not cut exactly if it holds no separator. -/
theorem cut_eq_none_iff {c : CodePoint} {t a : Text} : cut c t = (a, none) ↔ a = t ∧ c ∉ t := by
  constructor
  · intro h
    have join := cut_join c t
    have free := not_mem_cut_fst c t
    simp only [h, List.append_nil] at join free
    exact ⟨join, join ▸ free⟩
  · rintro ⟨rfl, free⟩
    exact cut_of_not_mem free

/-- A cut at the last separator falls exactly on it. -/
theorem cutLast_eq_some_iff {c : CodePoint} {t a b : Text} :
    cutLast c t = (some a, b) ↔ t = a ++ c :: b ∧ c ∉ b := by
  have backward : cutLast c t = (some a, b) ↔ cut c t.reverse = (b.reverse, some a.reverse) := by
    unfold cutLast
    obtain ⟨after, _ | before⟩ := cut c t.reverse
    · simp
    · simp only [Prod.mk.injEq, Option.some.injEq, List.reverse_eq_iff]
      exact and_comm
  rw [backward, cut_eq_some_iff, List.reverse_eq_iff]
  simp

theorem cutLast_eq_none_iff {c : CodePoint} {t b : Text} :
    cutLast c t = (none, b) ↔ b = t ∧ c ∉ t := by
  have backward : cutLast c t = (none, b) ↔ cut c t.reverse = (b.reverse, none) := by
    unfold cutLast
    obtain ⟨after, _ | before⟩ := cut c t.reverse
    · simp [List.reverse_eq_iff]
    · simp
  rw [backward, cut_eq_none_iff, List.reverse_inj, List.mem_reverse]

/-! ### At a word -/

/-- The pieces around an occurrence of a word give the text back. -/
theorem cutAt_eq_some {word t a b : Text} (h : cutAt word t = (a, some b)) :
    t = a ++ word ++ b := by
  induction t generalizing a with
  | nil =>
    obtain ⟨rfl, found⟩ := Prod.mk.inj h
    exact (List.isPrefixOf?_eq_some_iff_append_eq.mp found).symm
  | cons x t ih =>
    unfold cutAt at h
    split at h
    · rename_i rest found
      obtain ⟨rfl, rfl⟩ : [] = a ∧ rest = b := by simpa using h
      exact (List.isPrefixOf?_eq_some_iff_append_eq.mp found).symm
    · obtain ⟨rfl, found⟩ := Prod.mk.inj h
      have whole := ih (a := (cutAt word t).1) (by rw [← found])
      simpa using whole

/-- A word is found where it stands if its first character does not stand in front of it. -/
theorem cutAt_append {c : CodePoint} {word a : Text} (free : c ∉ a) (b : Text) :
    cutAt (c :: word) (a ++ (c :: word) ++ b) = (a, some b) := by
  induction a with
  | nil =>
    have found : List.isPrefixOf? (c :: word) (c :: word ++ b) = some b :=
      List.isPrefixOf?_eq_some_iff_append_eq.mpr rfl
    simp only [List.nil_append, List.cons_append] at found ⊢
    rw [cutAt, found]
  | cons x a ih =>
    simp only [List.mem_cons, not_or] at free
    have missed : List.isPrefixOf? (c :: word) (x :: (a ++ (c :: word) ++ b)) = none := by
      simp [List.isPrefixOf?, free.1]
    have rest := ih free.2
    simp only [List.cons_append] at missed rest ⊢
    rw [cutAt, missed]
    simp only [rest]

/-! ### Where a condition ends -/

section Stop

variable {p : CodePoint → Bool} {x y : Text} {c : CodePoint}

theorem takeWhile_append_stop (inside : ∀ c ∈ x, p c = true)
    (stop : ∀ c, y.head? = some c → p c = false) : (x ++ y).takeWhile p = x := by
  rw [List.takeWhile_append_of_pos inside]
  cases y with
  | nil => simp
  | cons c y => simp [stop c rfl]

theorem dropWhile_append_stop (inside : ∀ c ∈ x, p c = true)
    (stop : ∀ c, y.head? = some c → p c = false) : (x ++ y).dropWhile p = y := by
  rw [List.dropWhile_append_of_pos inside]
  cases y with
  | nil => rfl
  | cons c y => simp [stop c rfl]

/-! Where the condition fails at a character, what stands behind that does not matter. -/

theorem takeWhile_append_cons (stop : p c = false) (y : Text) :
    (x ++ c :: y).takeWhile p = x.takeWhile p := by
  induction x with
  | nil => simp [stop]
  | cons d x ih => simp only [List.cons_append, List.takeWhile_cons, ih]

theorem dropWhile_append_cons (stop : p c = false) (y : Text) :
    (x ++ c :: y).dropWhile p = x.dropWhile p ++ c :: y := by
  induction x with
  | nil => simp [stop]
  | cons d x ih =>
    simp only [List.cons_append, List.dropWhile_cons, ih]
    split <;> rfl

end Stop

/-! ### Trimming -/

theorem dropEndWhile_append {p : CodePoint → Bool} {x : Text} (kept : ∀ c ∈ x, p c = false)
    (t : Text) : dropEndWhile p (x ++ t) = x ++ dropEndWhile p t := by
  have stays : x.reverse.dropWhile p = x.reverse := by
    rw [List.dropWhile_eq_self_iff]
    intro nonempty
    simpa using kept _ (List.mem_reverse.mp (List.getElem_mem nonempty))
  unfold dropEndWhile
  rw [List.reverse_append, List.dropWhile_append, stays]
  split
  · rename_i gone
    simp [List.isEmpty_iff.mp gone]
  · simp

/-- What stands in front and cannot be trimmed stays, and then only the end is trimmed. -/
theorem trimWhile_append {p : CodePoint → Bool} {x : Text} (kept : ∀ c ∈ x, p c = false)
    (nonempty : x ≠ []) (t : Text) : trimWhile p (x ++ t) = x ++ dropEndWhile p t := by
  have front : (x ++ t).dropWhile p = x ++ t := by
    cases x with
    | nil => exact absurd rfl nonempty
    | cons c x => simp [kept c (by simp)]
  rw [trimWhile, front, dropEndWhile_append kept]

theorem dropEndWhile_eq_self {p : CodePoint → Bool} {t : Text}
    (ends : ∀ c, t.getLast? = some c → p c = false) : dropEndWhile p t = t := by
  refine List.rdropWhile_eq_self_iff.mpr fun nonempty => ?_
  simp [ends _ (List.getLast?_eq_some_getLast nonempty)]

theorem getLast?_dropEndWhile {p : CodePoint → Bool} {t : Text} {c : CodePoint}
    (last : (dropEndWhile p t).getLast? = some c) : p c = false := by
  have nonempty : List.rdropWhile p t ≠ [] := by
    intro gone
    rw [show dropEndWhile p t = [] from gone] at last
    cases last
  have stays := List.rdropWhile_last_not p t nonempty
  rw [show dropEndWhile p t = List.rdropWhile p t from rfl,
    List.getLast?_eq_some_getLast nonempty] at last
  obtain rfl := Option.some.inj last
  simpa using stays

/-- A text without a character to trim stays as it is. -/
theorem trimWhile_eq_self {p : CodePoint → Bool} {t : Text} (kept : ∀ c ∈ t, p c = false) :
    trimWhile p t = t := by
  cases t with
  | nil => rfl
  | cons c t =>
    have trimmed := trimWhile_append kept (by simp) []
    simpa [dropEndWhile] using trimmed

theorem dropEndWhile_append_cons {p : CodePoint → Bool} {c : CodePoint} (stop : p c = false)
    (x y : Text) : dropEndWhile p (x ++ c :: y) = x ++ c :: dropEndWhile p y := by
  have backward : (x ++ c :: y).reverse = y.reverse ++ c :: x.reverse := by simp
  rw [dropEndWhile, backward, dropWhile_append_cons stop]
  simp [dropEndWhile]

/-- Behind a text that does not end in what is trimmed, a character that is not trimmed and all that
follows it are trimmed at the end only. -/
theorem trimWhile_append_cons {p : CodePoint → Bool} {x : Text} {c : CodePoint}
    (ends : ∀ d, x.getLast? = some d → p d = false) (stop : p c = false) (y : Text) :
    trimWhile p (x ++ c :: y) = trimWhile p x ++ c :: dropEndWhile p y := by
  have ends' : ∀ d, (x.dropWhile p).getLast? = some d → p d = false := by
    intro d last
    obtain ⟨front, whole⟩ := List.dropWhile_suffix p (l := x)
    refine ends d ?_
    rw [← whole, List.getLast?_append, last]
    rfl
  rw [trimWhile, trimWhile, dropWhile_append_cons stop, dropEndWhile_append_cons stop,
    dropEndWhile_eq_self ends']

/-- What is trimmed may stand around a text. -/
theorem trimWhile_surrounded {p : CodePoint → Bool} {v v' : Text} (front : ∀ c ∈ v, p c = true)
    (behind : ∀ c ∈ v', p c = true) (t : Text) : trimWhile p (v ++ t ++ v') = trimWhile p t := by
  have back (x : Text) : dropEndWhile p (x ++ v') = dropEndWhile p x := by
    unfold dropEndWhile
    have dropped : ∀ c ∈ v'.reverse, p c = true :=
      fun c mem => behind c (List.mem_reverse.mp mem)
    rw [List.reverse_append, List.dropWhile_append_of_pos dropped]
  rw [trimWhile, List.append_assoc, List.dropWhile_append_of_pos front, List.dropWhile_append]
  split
  · rename_i gone
    have all : v'.dropWhile p = [] := List.dropWhile_eq_nil_iff.mpr behind
    rw [trimWhile, List.isEmpty_iff.mp gone, all]
  · rw [back]
    rfl

/-- Characters that are trimmed anyway may be taken out before. -/
theorem dropEndWhile_filter {p q : CodePoint → Bool} (trimmed : ∀ c, q c = false → p c = true)
    (t : Text) : dropEndWhile p (t.filter q) = (dropEndWhile p t).filter q := by
  have same : (fun c => !q c || p c) = p := by
    funext c
    cases kept : q c with
    | false => simp [trimmed c kept]
    | true => simp
  unfold dropEndWhile
  rw [← List.filter_reverse, List.dropWhile_filter, same, List.filter_reverse]

end Text

end ProxySelection
