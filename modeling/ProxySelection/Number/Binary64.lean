import ProxySelection.Number.Integer

/-!
Binary floating-point numbers of 64 bits, exactly.

A finite number is a mantissa below 2^53 times a power of two not below 2^-1074, with a sign.
`ofDecimal` rounds a decimal to the nearest one, a tie going to the even mantissa, and so do
`ofInt` and `add`; `text` writes the fewest decimal digits that round back, and of those the
nearest.
-/

namespace ProxySelection

/-- A binary floating-point number of 64 bits. -/
inductive Binary64 where
  /-- The number `± mantissa · 2 ^ exponent`. -/
  | finite (negative : Bool) (mantissa : Nat) (exponent : Int)
  | infinite (negative : Bool)
  | notANumber
  deriving DecidableEq

namespace Binary64

/-! ### Rounding a decimal -/

/-- The quotient rounded to the nearest natural number, a tie to the even one. -/
def roundedQuotient (num den : Nat) : Nat :=
  let q := num / den
  let twice := 2 * (num % den)
  if twice < den then q
  else if twice > den then q + 1
  else if q % 2 = 0 then q else q + 1

/-- The fraction `num / den · 2 ^ -e` as numerator and denominator. -/
def scaledBy (num den : Nat) (e : Int) : Nat × Nat :=
  if e < 0 then (num * Nat.pow 2 e.natAbs, den) else (num, den * Nat.pow 2 e.natAbs)

/-- The number nearest to `± num / den`, for a positive fraction. -/
def nearest (negative : Bool) (num den : Nat) : Binary64 :=
  let low : Int := (Nat.log2 num : Int) - Nat.log2 den - 53
  let (n, d) := scaledBy num den low
  let e := max (if n / d < Nat.pow 2 53 then low else low + 1) (-1074)
  let (n, d) := scaledBy num den e
  let m := roundedQuotient n d
  let (m, e) := if m = Nat.pow 2 53 then (Nat.pow 2 52, e + 1) else (m, e)
  if e > 971 then .infinite negative
  else if m = 0 then .finite negative 0 0
  else .finite negative m e

/-- The number nearest to `± digits · 10 ^ scale`. -/
def ofDecimal (negative : Bool) (digits : Nat) (scale : Int) : Binary64 :=
  let magnitude := (Decimal.ofNat digits).length + scale
  if digits = 0 ∨ magnitude < -400 then .finite negative 0 0
  else if magnitude > 400 then .infinite negative
  else if scale < 0 then nearest negative digits (Nat.pow 10 scale.natAbs)
  else nearest negative (digits * Nat.pow 10 scale.natAbs) 1

/-! ### Sums and order -/

/-- The number nearest to `n · 2 ^ e`. -/
def ofScaled (n e : Int) : Binary64 :=
  if n = 0 then .finite false 0 0
  else
    let (num, den) := scaledBy n.natAbs 1 (-e)
    nearest (n < 0) num den

/-- The number nearest to an integer. -/
def ofInt (n : Int) : Binary64 := ofScaled n 0

/-- The mantissa with the sign of its number, in steps of `2 ^ low` for a `low` not above the
exponent. -/
def stepsOf (negative : Bool) (mantissa : Nat) (exponent low : Int) : Int :=
  let size : Int := mantissa * Nat.pow 2 (exponent - low).natAbs
  if negative then -size else size

/-- The number nearest to the sum. -/
def add : Binary64 → Binary64 → Binary64
  | .finite n₁ m₁ e₁, .finite n₂ m₂ e₂ =>
    let low := min e₁ e₂
    ofScaled (stepsOf n₁ m₁ e₁ low + stepsOf n₂ m₂ e₂ low) low
  | .notANumber, _ => .notANumber
  | _, .notANumber => .notANumber
  | .infinite n₁, .infinite n₂ => if n₁ = n₂ then .infinite n₁ else .notANumber
  | .infinite n, _ => .infinite n
  | _, .infinite n => .infinite n

/-- Whether a number is less than another. -/
def isBelow : Binary64 → Binary64 → Bool
  | .finite n₁ m₁ e₁, .finite n₂ m₂ e₂ =>
    let low := min e₁ e₂
    stepsOf n₁ m₁ e₁ low < stepsOf n₂ m₂ e₂ low
  | .notANumber, _ => false
  | _, .notANumber => false
  | .infinite n₁, .infinite n₂ => n₁ && !n₂
  | .infinite n, _ => n
  | _, .infinite n => !n

/-- The value of a finite number. -/
def toRat? : Binary64 → Option Rat
  | .finite negative m e =>
    let size : Rat := if e < 0 then (m : Rat) / (Nat.pow 2 e.natAbs : Nat)
      else ((m * Nat.pow 2 e.natAbs : Nat) : Rat)
    some (if negative then -size else size)
  | _ => none

/-! ### Integers among them -/

/-- The integer that the number is, if it is one. -/
def toInt? : Binary64 → Option Int
  | .finite negative m e =>
    let size : Option Nat :=
      if e < 0 then
        if m % Nat.pow 2 e.natAbs = 0 then some (m / Nat.pow 2 e.natAbs) else none
      else some (m * Nat.pow 2 e.natAbs)
    size.map fun n => if negative then -(n : Int) else n
  | _ => none

/-- Whether the number is finite. -/
def isFinite : Binary64 → Bool
  | .finite .. => true
  | _ => false

/-- Whether the number is less than zero. -/
def isNegative : Binary64 → Bool
  | .finite negative m _ => negative && m != 0
  | .infinite negative => negative
  | .notANumber => false

/-- Whether the number is at most `n`. -/
def atMost (n : Nat) : Binary64 → Bool
  | .finite negative m e =>
    negative || (if e < 0 then m ≤ n * Nat.pow 2 e.natAbs else m * Nat.pow 2 e.natAbs ≤ n)
  | .infinite negative => negative
  | .notANumber => false

/-! ### Shortest decimal text -/

/-- The fraction `num / den · 10 ^ -s` as numerator and denominator. -/
def shiftedBy (num den : Nat) (s : Int) : Nat × Nat :=
  if s < 0 then (num * Nat.pow 10 s.natAbs, den) else (num, den * Nat.pow 10 s.natAbs)

/-- The exponent of the first decimal digit of a positive fraction. -/
def decimalExponent (num den : Nat) : Int :=
  if num ≥ den then ((Decimal.ofNat (num / den)).length : Int) - 1
  else
    let places := (Decimal.ofNat (den / num)).length
    if num * Nat.pow 10 (places - 1) ≥ den then 1 - (places : Int) else -(places : Int)

/-- The whole number of steps of size `10 ^ s` that stands for the fraction, if one of its two
neighbours on that grid rounds back to `x`; of two, the nearer one. -/
def onGrid (x : Binary64) (num den : Nat) (s : Int) : Option Nat :=
  let (n, d) := shiftedBy num den s
  let low := n / d
  let near := roundedQuotient n d
  let far := if near = low then low + 1 else low
  if ofDecimal false near s = x then some near
  else if ofDecimal false far s = x then some far
  else none

/-- The fewest digits, at most 17, that round back to `x`, and the exponent of the last one. -/
def shortest (x : Binary64) (num den : Nat) : Nat × Int :=
  let top := decimalExponent num den
  let tries := (List.range 17).filterMap fun (k : Nat) =>
    (onGrid x num den (top - k)).map fun n => (n, top - (k : Int))
  tries.headD (0, 0)

/-- The digits without the zeros at their end. -/
def significant (digits : Text) : Text := Text.dropEndWhile (· = '0') digits

/-- Digits with the decimal point after the first `point` of them, in positional notation
between 10^-4 and 10^16 and with an exponent outside. -/
def layOut (digits : Text) (point : Int) : Text :=
  if -4 < point ∧ point ≤ 16 then
    if point ≤ 0 then char '0' :: char '.' :: List.replicate point.natAbs '0' ++ digits
    else
      let n := point.natAbs
      if digits.length ≤ n then
        digits ++ List.replicate (n - digits.length) (char '0') ++ [char '.', char '0']
      else digits.take n ++ char '.' :: digits.drop n
  else
    let exponent := point - 1
    let places := Decimal.ofNat exponent.natAbs
    digits.take 1 ++ (if digits.length > 1 then char '.' :: digits.drop 1 else []) ++
      char 'e' :: (if exponent < 0 then '-' else '+') ::
      (if places.length < 2 then char '0' :: places else places)

/-- The decimal text of a number. -/
def text : Binary64 → Text
  | .notANumber => "nan".toText
  | .infinite negative => if negative then "-inf".toText else "inf".toText
  | .finite negative m e =>
    (if negative then [char '-'] else []) ++
      if m = 0 then "0.0".toText
      else
        let (num, den) := if e < 0 then (m, Nat.pow 2 e.natAbs) else (m * Nat.pow 2 e.natAbs, 1)
        let (n, s) := shortest (.finite false m e) num den
        let digits := Decimal.ofNat n
        layOut (significant digits) (digits.length + s)

end Binary64

end ProxySelection
