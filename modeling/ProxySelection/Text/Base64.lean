import ProxySelection.Text.Basic

/-!
Base64 with padding: three octets become four characters of an alphabet of sixty-four, and a
last group of one or two octets is filled up with `=`.
-/

namespace ProxySelection

namespace Base64

/-- The character of a number below sixty-four. -/
def digit (n : Nat) : CodePoint :=
  if n < 26 then Char.ofNat (0x41 + n)
  else if n < 52 then Char.ofNat (0x61 + (n - 26))
  else if n < 62 then Char.ofNat (0x30 + (n - 52))
  else if n = 62 then '+' else '/'

/-- The number of a character of the alphabet. -/
def value? (c : CodePoint) : Option Nat :=
  if c.isUpper then some (c.toNat - 0x41)
  else if c.isLower then some (c.toNat - 0x61 + 26)
  else if c.isDigit then some (c.toNat - 0x30 + 52)
  else if c = '+' then some 62
  else if c = '/' then some 63
  else none

/-- The characters of a sequence of octets. -/
def encode : List UInt8 → Text
  | [] => []
  | [a] => [digit (a.toNat / 4), digit (a.toNat % 4 * 16), char '=', char '=']
  | [a, b] =>
    [digit (a.toNat / 4), digit (a.toNat % 4 * 16 + b.toNat / 16), digit (b.toNat % 16 * 4),
      char '=']
  | a :: b :: c :: r =>
    digit (a.toNat / 4) :: digit (a.toNat % 4 * 16 + b.toNat / 16) ::
      digit (b.toNat % 16 * 4 + c.toNat / 64) :: digit (c.toNat % 64) :: encode r

/-- The octets of a padded text. Bits that padding leaves over have to be zero. -/
def decode : Text → Option (List UInt8)
  | [] => some []
  | [a, b, char '=', char '='] => do
    let x ← value? a
    let y ← value? b
    if y % 16 = 0 then some [(x * 4 + y / 16).toUInt8] else none
  | [a, b, c, char '='] => do
    let x ← value? a
    let y ← value? b
    let z ← value? c
    if z % 4 = 0 then some [(x * 4 + y / 16).toUInt8, (y % 16 * 16 + z / 4).toUInt8] else none
  | a :: b :: c :: d :: r => do
    let x ← value? a
    let y ← value? b
    let z ← value? c
    let w ← value? d
    let rest ← decode r
    some ((x * 4 + y / 16).toUInt8 :: (y % 16 * 16 + z / 4).toUInt8 ::
      (z % 4 * 64 + w).toUInt8 :: rest)
  | _ => none

end Base64

end ProxySelection
