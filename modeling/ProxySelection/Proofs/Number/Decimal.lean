import Mathlib.Algebra.Group.Nat.Defs
import ProxySelection.Number.Integer
import ProxySelection.Proofs.Text.Cut

/-!
When integers can be written and read.

An integer is written exactly if it lies below ten to the power of the digit limit
(`write_eq_ok`, `write_eq_tooLong`). A text of ASCII digits within the limit is read as the
number that its digits denote (`read_eq_ok`); other digits may be none that are read. `Denotes`
says which integer a text stands for without reading it; what is written stands for what it was
written of, and for nothing else (`denotes_ofInt_iff`).
-/

namespace ProxySelection

/-! ### Digits -/

theorem Digit.toNat_bounds {c : CodePoint} (digit : c.isDigit = true) :
    0x30 ≤ c.toNat ∧ c.toNat ≤ 0x39 := by
  obtain ⟨x, rfl, between⟩ := CodePoint.exists_of_isIn digit
  simp only [Char.isDigit, Bool.and_eq_true, decide_eq_true_eq, ge_iff_le,
    UInt32.le_iff_toNat_le] at between
  exact between

theorem Digit.isSpace_eq_false {c : CodePoint} (digit : c.isDigit = true) : isSpace c = false := by
  have bounds := toNat_bounds digit
  simp only [isSpace, Bool.or_eq_false_iff, Bool.and_eq_false_iff, decide_eq_false_iff_not,
    beq_eq_false_iff_ne]
  omega

theorem Text.isAsciiDigits_iff {t : Text} :
    t.isAsciiDigits = true ↔ t ≠ [] ∧ ∀ c ∈ t, c.isDigit = true := by
  simp [Text.isAsciiDigits]

theorem Text.isDigits_of_ascii {t : Text} (ascii : t.isAsciiDigits = true) :
    t.isDigits = true := by
  obtain ⟨nonempty, digits⟩ := Text.isAsciiDigits_iff.mp ascii
  have all : t.all Digit.isDigit = true := by
    rw [List.all_eq_true]
    intro c mem
    exact Digit.isDigit_of_ascii (digits c mem)
  simp [Text.isDigits, all, nonempty]

namespace Decimal

/-! ### Writing -/

/-- A number below a power of ten has no more digits than the exponent says. -/
theorem length_ofNat_le {k n : Nat} (positive : 0 < k) (small : n < 10 ^ k) :
    (ofNat n).length ≤ k := by
  induction k generalizing n with
  | zero => omega
  | succ k ih =>
    unfold ofNat
    split
    · simp
    · rename_i two
      have quotient : n / 10 < 10 ^ k := by
        rw [Nat.pow_succ] at small
        exact Nat.div_lt_of_lt_mul (by omega)
      have more : 0 < k := by
        rcases Nat.eq_zero_or_pos k with rfl | more
        · omega
        · exact more
      have digits := ih more quotient
      rw [List.length_append, List.length_singleton]
      omega

/-- A number from a power of ten on has more digits than the exponent says. -/
theorem lt_length_ofNat {k n : Nat} (large : 10 ^ k ≤ n) : k < (ofNat n).length := by
  induction k generalizing n with
  | zero =>
    unfold ofNat
    split <;> simp
  | succ k ih =>
    rw [Nat.pow_succ] at large
    have positive := Nat.one_le_pow k 10 (by omega)
    have quotient : 10 ^ k ≤ n / 10 := (Nat.le_div_iff_mul_le (by omega)).mpr large
    have digits := ih quotient
    unfold ofNat
    rw [if_neg (by omega), List.length_append, List.length_singleton]
    omega

theorem write_eq_ok {n : Int} (small : n.natAbs < 10 ^ digitLimit) : write n = .ok (ofInt n) := by
  have digits : (ofNat n.natAbs).length ≤ digitLimit := length_ofNat_le (by decide) small
  rw [write, if_pos digits]

/-- A number of 64 bits is far from the limit of digits. -/
theorem lt_bound_of_le {n : Nat} (small : n ≤ 2 ^ 63) : n < 10 ^ digitLimit := by
  have bound : 10 ^ 20 ≤ 10 ^ digitLimit := Nat.pow_le_pow_right (by omega) (by decide)
  omega

/-- A number that a port may have is written. -/
theorem write_eq_ok_of_le {n : Nat} (inRange : n ≤ 65535) : write n = .ok (ofInt n) :=
  write_eq_ok (lt_bound_of_le (Nat.le_trans inRange (by decide)))

theorem write_eq_tooLong {n : Int} (large : 10 ^ digitLimit ≤ n.natAbs) :
    write n = .error .tooLongToWrite := by
  have digits : digitLimit < (ofNat n.natAbs).length := lt_length_ofNat large
  rw [write, if_neg (by omega)]

/-! ### Reading -/

theorem valueOf_lt {ds : List Nat} (digits : ∀ d ∈ ds, d < 10) : valueOf ds < 10 ^ ds.length := by
  induction ds using List.reverseRecOn with
  | nil => simp [valueOf]
  | append_singleton ds d ih =>
    have front := ih fun x mem => digits x (by simp [mem])
    have last := digits d (by simp)
    rw [valueOf_append_one, List.length_append, List.length_singleton, Nat.pow_succ]
    omega

/-- A number has no more digits than it is written with. -/
theorem value_lt {t : Text} (digits : ∀ c ∈ t, c.isDigit = true) : value t < 10 ^ t.length := by
  have small : ∀ d ∈ t.map fun c => c.toNat - 0x30, d < 10 := by
    intro d mem
    obtain ⟨c, inside, rfl⟩ := List.mem_map.mp mem
    have bounds := Digit.toNat_bounds (digits c inside)
    omega
  simpa [value] using valueOf_lt small

/-- A run of ASCII digits ends with the text. -/
theorem digitRun_eq_some {t : Text} {due : Bool} (digits : ∀ c ∈ t, c.isDigit = true)
    (enough : due = true → t ≠ []) :
    digitRun due t = some (t.map fun c => c.toNat - 0x30, []) := by
  induction t generalizing due with
  | nil =>
    cases due with
    | false => rfl
    | true => exact absurd rfl (enough rfl)
  | cons c t ih =>
    have rest := @ih false (fun x mem => digits x (by simp [mem])) (by simp)
    simp [digitRun, Digit.decimal?_of_isDigit (digits c (by simp)), rest]

theorem sign_eq_of_isDigit {c : CodePoint} (digit : c.isDigit = true) (t : Text) :
    sign (c :: t) = (false, c :: t) := by
  have minus : c ≠ '-' := by rintro rfl; exact absurd digit (by decide)
  have plus : c ≠ '+' := by rintro rfl; exact absurd digit (by decide)
  unfold sign
  split
  · rename_i same
    exact absurd (List.cons.inj same).1 minus
  · rename_i same
    exact absurd (List.cons.inj same).1 plus
  · rfl

/-- A text of ASCII digits within the limit denotes the number of its digits. -/
theorem read_eq_ok {t : Text} (ascii : t.isAsciiDigits = true) (short : t.length ≤ digitLimit) :
    read t = .ok (value t) := by
  obtain ⟨nonempty, digits⟩ := Text.isAsciiDigits_iff.mp ascii
  have trimmed : Text.trimWhile isSpace t = t :=
    Text.trimWhile_eq_self fun c mem => Digit.isSpace_eq_false (digits c mem)
  have unsigned : sign t = (false, t) := by
    cases t with
    | nil => exact absurd rfl nonempty
    | cons c t => exact sign_eq_of_isDigit (digits c (by simp)) t
  have run : digitRun true t = some (t.map fun c => c.toNat - 0x30, []) :=
    digitRun_eq_some digits fun _ => nonempty
  have enough : ¬ (t.map fun c => c.toNat - 0x30).length > digitLimit := by
    rw [List.length_map]
    omega
  unfold read
  rw [trimmed, unsigned]
  simp only [run, if_neg enough]
  rfl

/-! ### Denoting -/

/-- Digits denote their number, and with a minus sign in front its opposite. -/
inductive Denotes : Text → Int → Prop where
  | plain {t : Text} : t.isAsciiDigits = true → Denotes t (value t)
  | minus {t : Text} : t.isAsciiDigits = true → Denotes (char '-' :: t) (-(value t))

theorem isAsciiDigits_minus (t : Text) : Text.isAsciiDigits (char '-' :: t) = false := by
  rw [Bool.eq_false_iff]
  intro ascii
  exact absurd ((Text.isAsciiDigits_iff.mp ascii).2 '-' List.mem_cons_self) (by decide)

theorem denotes_iff_of_ascii {t : Text} {n : Int} (ascii : t.isAsciiDigits = true) :
    Denotes t n ↔ n = value t := by
  constructor
  · intro denotes
    cases denotes with
    | plain => rfl
    | minus => rw [isAsciiDigits_minus] at ascii; cases ascii
  · rintro rfl
    exact .plain ascii

theorem isAsciiDigits_ofNat (n : Nat) : (ofNat n).isAsciiDigits = true := by
  refine Text.isAsciiDigits_iff.mpr ⟨?_, fun c mem => isDigit_of_mem_ofNat mem⟩
  unfold ofNat
  split <;> simp

/-- What is written of an integer denotes it, and no other. -/
theorem denotes_ofInt_iff {m n : Int} : Denotes (ofInt n) m ↔ m = n := by
  cases n with
  | ofNat n =>
    rw [ofInt, denotes_iff_of_ascii (isAsciiDigits_ofNat n), value_ofNat]
    rfl
  | negSucc n =>
    have ascii := isAsciiDigits_ofNat (n + 1)
    have opposite : (Int.negSucc n : Int) = -(value (ofNat (n + 1)) : Int) := by
      rw [value_ofNat]
      rfl
    rw [ofInt, opposite]
    constructor
    · intro denotes
      cases denotes with
      | plain signed => rw [isAsciiDigits_minus] at signed; cases signed
      | minus => rfl
    · rintro rfl
      exact .minus ascii

end Decimal

end ProxySelection
