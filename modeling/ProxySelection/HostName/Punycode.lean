import ProxySelection.Text.Basic

/-!
Punycode: a label written in ASCII.

The ASCII characters come first, then, after a hyphen, the others as steps: each step says how
far on the next character is inserted, counted over all places of the text and all characters
in turn. A step is a number whose digits, the lowest first, end with one below a threshold, and
the thresholds follow the size of the steps before.
-/

namespace ProxySelection

namespace Punycode

/-! ### Digits -/

/-- The digit of a value below 36. -/
def digit (n : Nat) : CodePoint :=
  if n < 26 then Char.ofNat (0x61 + n) else Char.ofNat (0x30 + n - 26)

/-- The value of a digit. -/
def value? (c : CodePoint) : Option Nat :=
  if c.isLower then some (c.toNat - 0x61)
  else if c.isUpper then some (c.toNat - 0x41)
  else if c.isDigit then some (c.toNat - 0x30 + 26)
  else none

/-- A digit has the value it was written for. -/
theorem value?_digit {n : Nat} (h : n < 36) : value? (digit n) = some n :=
  (by decide : ∀ n < 36, value? (digit n) = some n) n h

/-- The threshold of a digit, which stands at the place `k / 36`. -/
def threshold (bias k : Nat) : Nat := min 26 (max 1 (k - bias))

/-- A threshold is positive. -/
theorem threshold_pos (bias k : Nat) : 0 < threshold bias k := by
  unfold threshold
  omega

/-- The bias after steps have been scaled down so often that `delta` is small. -/
def settle (delta k : Nat) : Nat :=
  if 455 < delta then settle (delta / 35) (k + 36) else k + 36 * delta / (delta + 38)

/-- The bias after a step of the size `delta`, when there are `size` characters. -/
def adapt (delta size : Nat) (first : Bool) : Nat :=
  let delta := if first then delta / 700 else delta / 2
  settle (delta + delta / size) 0

/-! ### Writing -/

/-- The digits of a number from the place of `k` on. -/
def digitsFrom (bias k n : Nat) : Text :=
  let t := threshold bias k
  if n < t then [digit n]
  else digit (t + (n - t) % (36 - t)) :: digitsFrom bias (k + 36) ((n - t) / (36 - t))
termination_by n
decreasing_by
  have := threshold_pos bias k
  exact Nat.lt_of_le_of_lt (Nat.div_le_self _ _) (by omega)

/-- What has been written: how many characters there are, the bias, and how far the next
character is from the last one. -/
structure Writing where
  size : Nat
  bias : Nat
  delta : Nat
  first : Bool
  written : Text

/-- One character of the text in the turn of the characters with code point `turn`. -/
def Writing.pass (turn : Nat) (w : Writing) (c : CodePoint) : Writing :=
  if c.toNat < turn then { w with delta := w.delta + 1 }
  else if c.toNat = turn then {
    size := w.size + 1
    bias := adapt w.delta (w.size + 1) w.first
    delta := 0
    first := false
    written := w.written ++ digitsFrom w.bias 36 w.delta }
  else w

/-- The turns of the characters with the given code points, from `turn` on. -/
def Writing.run (t : Text) (w : Writing) (turn : Nat) : List Nat → Writing
  | [] => w
  | n :: ns =>
    let w := { w with delta := w.delta + (n - turn) * (w.size + 1) }
    let w := t.foldl (Writing.pass n) w
    Writing.run t { w with delta := w.delta + 1 } (n + 1) ns

/-- Whether a character is one of ASCII. -/
def isBasic (c : CodePoint) : Bool := c.toNat < 0x80

/-- A text in ASCII. -/
def encode (t : Text) : Text :=
  let basic := t.filter isBasic
  let others := ((t.filter (!isBasic ·)).map CodePoint.toNat).mergeSort.eraseDups
  let start := if basic.isEmpty then [] else basic ++ [char '-']
  (Writing.run t ⟨basic.length, 72, 0, true, start⟩ 0x80 others).written

/-! ### Reading -/

/-- The number in front of a text, from the place of `k` on, where a digit counts `weight`
times its value, and what follows. -/
def number? (bias : Nat) : (k weight : Nat) → Text → Option (Nat × Text)
  | _, _, [] => none
  | k, weight, c :: rest => do
    let n ← value? c
    let t := threshold bias k
    if n < t then return (n * weight, rest)
    else
      let (more, rest) ← number? bias (k + 36) (weight * (36 - t)) rest
      return (n * weight + more, rest)

/-- The text with the characters of the steps put in, at most `limit` of them. The next one
comes at `place` or behind it, and has the code point `turn` or a higher one. -/
def insertAll : (limit : Nat) → (bias turn place : Nat) → Text → Text → Option Text
  | _, _, _, _, t, [] => some t
  | 0, _, _, _, _, _ => none
  | limit + 1, bias, turn, place, t, steps => do
    let (delta, rest) ← number? bias 36 1 steps
    let size := t.length + 1
    let turn := turn + (place + delta) / size
    let place := (place + delta) % size
    if !turn.isValidChar then none
    else
      insertAll limit (adapt delta size (t.all isBasic)) turn (place + 1)
        (t.insertIdx place (CodePoint.ofNat turn)) rest

/-- The text that a text in ASCII stands for. -/
def decode (t : Text) : Option Text :=
  match Text.cutLast '-' t with
  | (basic, steps) => insertAll steps.length 72 0x80 0 (basic.getD []) steps

end Punycode

end ProxySelection
