import Mathlib.Tactic.Common
import ProxySelection.Text.Base64

/-!
Base64 read back.

What octets are encoded as consists of groups of four characters of the alphabet, and in the last
one of them one or two marks may stand for what is missing (`IsPadded`, `isPadded_encode`). Each
group is decoded by itself, because the characters of a full one are none of the marks; so octets
are what their encoding is decoded as (`decode_encode`), and no two sequences are encoded alike
(`encode_injective`).
-/

namespace ProxySelection

namespace Base64

/-- A character of the alphabet. -/
def IsDigit (c : CodePoint) : Prop := c.isAlphanum = true ∨ c = '+' ∨ c = '/'

/-- Groups of four characters of the alphabet, the last of which may have marks in the place of one
or two characters. -/
inductive IsPadded : Text → Prop where
  | nil : IsPadded []
  | two {a b : CodePoint} : IsDigit a → IsDigit b → IsPadded [a, b, char '=', char '=']
  | three {a b c : CodePoint} : IsDigit a → IsDigit b → IsDigit c → IsPadded [a, b, c, char '=']
  | group {a b c d : CodePoint} {r : Text} : IsDigit a → IsDigit b → IsDigit c → IsDigit d →
      IsPadded r → IsPadded (a :: b :: c :: d :: r)

variable {n : Nat} {a b c d : CodePoint} {x y z w : Nat} {r : Text}

/-! ### Characters -/

theorem isDigit_digit (small : n < 64) : IsDigit (digit n) := by
  have all : ∀ n < 64, (digit n).isAlphanum = true ∨ digit n = '+' ∨ digit n = '/' := by decide
  exact all n small

theorem value?_digit (small : n < 64) : value? (digit n) = some n := by
  have all : ∀ n < 64, value? (digit n) = some n := by decide
  exact all n small

theorem ne_mark_of_value? (known : value? c = some x) : c ≠ '=' := by
  have unknown : value? '=' = none := by decide
  rintro rfl
  rw [unknown] at known
  cases known

/-! ### One group -/

theorem decode_two (first : value? a = some x) (second : value? b = some y) (rest : y % 16 = 0) :
    decode [a, b, char '=', char '='] = some [(x * 4 + y / 16).toUInt8] := by
  simp [decode, first, second, rest]

theorem decode_three (first : value? a = some x) (second : value? b = some y)
    (third : value? c = some z) (rest : z % 4 = 0) : decode [a, b, c, char '='] =
      some [(x * 4 + y / 16).toUInt8, (y % 16 * 16 + z / 4).toUInt8] := by
  simp [decode, first, second, third, rest, ne_mark_of_value? third]

theorem decode_group (first : value? a = some x) (second : value? b = some y)
    (third : value? c = some z) (fourth : value? d = some w) : decode (a :: b :: c :: d :: r) =
      (decode r).map fun octets => (x * 4 + y / 16).toUInt8 :: (y % 16 * 16 + z / 4).toUInt8 ::
        (z % 4 * 64 + w).toUInt8 :: octets := by
  have third' := ne_mark_of_value? third
  have fourth' := ne_mark_of_value? fourth
  rw [decode]
  · simp only [first, second, third, fourth]
    cases decode r <;> rfl
  · simp [fourth']
  · simp [fourth']

/-! ### All groups -/

theorem isPadded_encode (bs : List UInt8) : IsPadded (encode bs) := by
  have octet (a : UInt8) : a.toNat < 256 := a.toNat_lt
  fun_induction encode bs with
  | case1 => exact .nil
  | case2 a =>
    have a_lt := octet a
    exact .two (isDigit_digit (by omega)) (isDigit_digit (by omega))
  | case3 a b =>
    have a_lt := octet a
    have b_lt := octet b
    exact .three (isDigit_digit (by omega)) (isDigit_digit (by omega)) (isDigit_digit (by omega))
  | case4 a b c r ih =>
    have a_lt := octet a
    have b_lt := octet b
    have c_lt := octet c
    exact .group (isDigit_digit (by omega)) (isDigit_digit (by omega)) (isDigit_digit (by omega))
      (isDigit_digit (by omega)) ih

theorem toUInt8_of_eq {a : UInt8} (same : n = a.toNat) : n.toUInt8 = a := by
  rw [same]
  exact UInt8.ofNat_toNat

/-- **Decoding inverts encoding.** -/
theorem decode_encode (bs : List UInt8) : decode (encode bs) = some bs := by
  have octet (a : UInt8) : a.toNat < 256 := a.toNat_lt
  fun_induction encode bs with
  | case1 => rfl
  | case2 a =>
    have a_lt := octet a
    rw [decode_two (value?_digit (by omega)) (value?_digit (by omega)) (by omega),
      toUInt8_of_eq (a := a) (by omega)]
  | case3 a b =>
    have a_lt := octet a
    have b_lt := octet b
    rw [decode_three (value?_digit (by omega)) (value?_digit (by omega)) (value?_digit (by omega))
      (by omega), toUInt8_of_eq (a := a) (by omega), toUInt8_of_eq (a := b) (by omega)]
  | case4 a b c r ih =>
    have a_lt := octet a
    have b_lt := octet b
    have c_lt := octet c
    rw [decode_group (value?_digit (by omega)) (value?_digit (by omega)) (value?_digit (by omega))
      (value?_digit (by omega)), ih]
    simp only [Option.map_some]
    rw [toUInt8_of_eq (a := a) (by omega), toUInt8_of_eq (a := b) (by omega),
      toUInt8_of_eq (a := c) (by omega)]

theorem encode_injective : Function.Injective encode := by
  intro bs bs' same
  have decoded := congrArg decode same
  rw [decode_encode, decode_encode] at decoded
  exact Option.some.inj decoded

end Base64

end ProxySelection
