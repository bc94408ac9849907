/-!
Code points: characters and surrogates.

A surrogate is a number that UTF-16 keeps for halves of a character. By itself it is no
character and has no octets in UTF-8, but a text may hold one: a JSON text can name it by an
escape. A surrogate is no letter, digit or blank, and has no other case.
-/

namespace ProxySelection

/-- A Unicode code point. -/
inductive CodePoint where
  /-- A character. -/
  | char (c : Char)
  /-- The surrogate that lies so far behind U+D800. -/
  | surrogate (index : Fin 0x800)
  deriving DecidableEq

export CodePoint (char)

namespace CodePoint

instance : Coe Char CodePoint := ⟨char⟩

instance : Inhabited CodePoint := ⟨char default⟩

/-! ### Numbers -/

/-- The number of a code point. -/
def toNat : CodePoint → Nat
  | char c => c.toNat
  | surrogate index => 0xD800 + index

/-- The code point of a number; that of zero if it is none. -/
def ofNat (n : Nat) : CodePoint :=
  if h : 0xD800 ≤ n ∧ n < 0xE000 then surrogate ⟨n - 0xD800, by omega⟩ else char (Char.ofNat n)

@[simp] theorem toNat_char (c : Char) : (char c).toNat = c.toNat := rfl

/-- The number of a character is not that of a surrogate. -/
theorem toNat_char_bounds (c : Char) :
    c.toNat < 0xD800 ∨ 0xE000 ≤ c.toNat ∧ c.toNat < 0x110000 := by
  have valid : c.toNat.isValidChar := c.valid
  unfold Nat.isValidChar at valid
  omega

/-- A code point is that of its number. -/
@[simp] theorem ofNat_toNat (c : CodePoint) : ofNat c.toNat = c := by
  cases c with
  | char c =>
    have := toNat_char_bounds c
    rw [toNat_char, ofNat, dif_neg (by omega), Char.ofNat_toNat]
  | surrogate index =>
    rw [toNat, ofNat, dif_pos (by omega)]
    simp

/-! ### Characters among them -/

/-- Whether a code point is a character. -/
def isChar : CodePoint → Bool
  | char _ => true
  | surrogate _ => false

/-- Whether a code point is a surrogate. -/
def isSurrogate (c : CodePoint) : Bool := !c.isChar

/-- Whether a code point is a character of a class. -/
def isIn (p : Char → Bool) : CodePoint → Bool
  | char c => p c
  | surrogate _ => false

/-! ASCII letters and digits. -/

def isDigit : CodePoint → Bool := isIn Char.isDigit

def isUpper : CodePoint → Bool := isIn Char.isUpper

def isLower : CodePoint → Bool := isIn Char.isLower

def isAlpha : CodePoint → Bool := isIn Char.isAlpha

def isAlphanum : CodePoint → Bool := isIn Char.isAlphanum

/-- An ASCII letter in its small form, any other code point as it is. -/
def toLower : CodePoint → CodePoint
  | char c => char c.toLower
  | c => c

@[simp] theorem isDigit_char (c : Char) : (char c).isDigit = c.isDigit := rfl

@[simp] theorem isAlphanum_char (c : Char) : (char c).isAlphanum = c.isAlphanum := rfl

/-- What is in a class is a character. -/
theorem exists_of_isIn {p : Char → Bool} {c : CodePoint} (h : c.isIn p = true) :
    ∃ x, c = char x ∧ p x = true := by
  cases c with
  | char x => exact ⟨x, rfl, h⟩
  | surrogate index => exact absurd h Bool.false_ne_true

theorem isChar_of_isIn {p : Char → Bool} {c : CodePoint} (h : c.isIn p = true) :
    c.isChar = true := by
  obtain ⟨x, rfl, _⟩ := exists_of_isIn h
  rfl

end CodePoint

/-- A text: its code points in order. -/
abbrev Text := List CodePoint

end ProxySelection

/-- The text of a string, which has no surrogates. -/
def String.toText (s : String) : ProxySelection.Text := s.toList.map .char
