import ProxySelection.Text.Basic

/-!
Digits of every script.

The ten decimal digits of a script follow its zero in order, so a table of zeros gives the
value of each. Superscripts, circled digits and the like are digits too, without being
decimal. The tables follow Unicode 14.
-/

namespace ProxySelection

namespace Digit

/-- The code points of the decimal zeros. -/
def zeros : List Nat := [
  0x30, 0x660, 0x6F0, 0x7C0, 0x966, 0x9E6, 0xA66, 0xAE6, 0xB66, 0xBE6, 0xC66, 0xCE6, 0xD66,
  0xDE6, 0xE50, 0xED0, 0xF20, 0x1040, 0x1090, 0x17E0, 0x1810, 0x1946, 0x19D0, 0x1A80, 0x1A90,
  0x1B50, 0x1BB0, 0x1C40, 0x1C50, 0xA620, 0xA8D0, 0xA900, 0xA9D0, 0xA9F0, 0xAA50, 0xABF0,
  0xFF10, 0x104A0, 0x10D30, 0x11066, 0x110F0, 0x11136, 0x111D0, 0x112F0, 0x11450, 0x114D0,
  0x11650, 0x116C0, 0x11730, 0x118E0, 0x11950, 0x11C50, 0x11D50, 0x11DA0, 0x16A60, 0x16AC0,
  0x16B50, 0x1D7CE, 0x1D7D8, 0x1D7E2, 0x1D7EC, 0x1D7F6, 0x1E140, 0x1E2F0, 0x1E950, 0x1FBF0]

/-- First and last code point of each run of digits that are not decimal. -/
def others : List (Nat × Nat) := [
  (0xB2, 0xB3), (0xB9, 0xB9), (0x1369, 0x1371), (0x19DA, 0x19DA), (0x2070, 0x2070),
  (0x2074, 0x2079), (0x2080, 0x2089), (0x2460, 0x2468), (0x2474, 0x247C), (0x2488, 0x2490),
  (0x24EA, 0x24EA), (0x24F5, 0x24FD), (0x24FF, 0x24FF), (0x2776, 0x277E), (0x2780, 0x2788),
  (0x278A, 0x2792), (0x10A40, 0x10A43), (0x10E60, 0x10E68), (0x11052, 0x1105A),
  (0x1F100, 0x1F10A)]

/-- The value of a hexadecimal digit. -/
def hexadecimal? (c : CodePoint) : Option Nat :=
  if c.isDigit then some (c.toNat - 0x30)
  else if 0x61 ≤ c.toNat ∧ c.toNat ≤ 0x66 then some (c.toNat - 0x57)
  else if 0x41 ≤ c.toNat ∧ c.toNat ≤ 0x46 then some (c.toNat - 0x37)
  else none

/-- The value of a decimal digit of any script. -/
def decimal? (c : CodePoint) : Option Nat :=
  if c.isDigit then some (c.toNat - 0x30)
  else (zeros.find? fun z => z ≤ c.toNat && c.toNat < z + 10).map (c.toNat - ·)

/-- A digit, decimal or not. -/
def isDigit (c : CodePoint) : Bool :=
  (decimal? c).isSome || others.any fun r => r.1 ≤ c.toNat && c.toNat ≤ r.2

/-- The character of a digit below ten. -/
def ofValue (n : Nat) : CodePoint := Char.ofNat (0x30 + n)

/-- An ASCII digit has the value that its place says. -/
@[simp] theorem decimal?_of_isDigit {c : CodePoint} (h : c.isDigit = true) :
    decimal? c = some (c.toNat - 0x30) := by simp [decimal?, h]

/-- A digit of any script is a character. -/
theorem isChar_of_isDigit {c : CodePoint} (h : isDigit c = true) : c.isChar = true := by
  cases c with
  | char c => rfl
  | surrogate index =>
    -- No run of digits reaches into the range of the surrogates.
    have zerosOutside : ∀ z ∈ zeros, z + 10 ≤ 0xD800 ∨ 0xE000 ≤ z := by decide
    have othersOutside : ∀ r ∈ others, r.2 < 0xD800 ∨ 0xE000 ≤ r.1 := by decide
    have least : 0xD800 ≤ (CodePoint.surrogate index).toNat := Nat.le_add_right _ _
    have most : (CodePoint.surrogate index).toNat < 0xE000 := Nat.add_lt_add_left index.isLt 0xD800
    have notAscii : (CodePoint.surrogate index).isDigit = false := rfl
    simp only [isDigit, decimal?, notAscii, Bool.false_eq_true, if_false, Option.isSome_map,
      Bool.or_eq_true, List.find?_isSome, List.any_eq_true, Bool.and_eq_true,
      decide_eq_true_eq] at h
    rcases h with ⟨z, mem, low, high⟩ | ⟨r, mem, low, high⟩
    · have := zerosOutside z mem
      omega
    · have := othersOutside r mem
      omega

/-- An ASCII digit is a digit. -/
theorem isDigit_of_ascii {c : CodePoint} (h : c.isDigit = true) : isDigit c = true := by
  simp [isDigit, h]

/-- The digit of a value is an ASCII digit. -/
theorem isDigit_ofValue {n : Nat} (h : n < 10) : (ofValue n).isDigit = true :=
  (by decide : ∀ n, n < 10 → (ofValue n).isDigit = true) n h

/-- The place of the digit of a value. -/
theorem toNat_ofValue {n : Nat} (h : n < 10) : (ofValue n).toNat = 0x30 + n :=
  (by decide : ∀ n, n < 10 → (ofValue n).toNat = 0x30 + n) n h

end Digit

/-- There is a character, and all are digits. -/
def Text.isDigits (t : Text) : Bool := !t.isEmpty && t.all Digit.isDigit

/-- There is a character, and all are ASCII digits. -/
def Text.isAsciiDigits (t : Text) : Bool := !t.isEmpty && t.all CodePoint.isDigit

end ProxySelection
