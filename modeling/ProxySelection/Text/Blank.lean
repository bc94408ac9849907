import ProxySelection.Text.Basic

/-!
Blank characters and trimming.

Two classes are in use. `isSpace` holds the characters with the Unicode property
White_Space; `isBlank` adds the four information separators U+001C to U+001F. A text is
trimmed of blanks at both ends; inside it they stay.
-/

namespace ProxySelection

/-- The Unicode property White_Space. -/
def isSpace (c : CodePoint) : Bool :=
  let n := c.toNat
  (0x09 ≤ n && n ≤ 0x0D) || n == 0x20 || n == 0x85 || n == 0xA0 || n == 0x1680 ||
    (0x2000 ≤ n && n ≤ 0x200A) || n == 0x2028 || n == 0x2029 || n == 0x202F ||
    n == 0x205F || n == 0x3000

/-- White space and the information separators. -/
def isBlank (c : CodePoint) : Bool :=
  isSpace c || (0x1C ≤ c.toNat && c.toNat ≤ 0x1F)

namespace Text

/-- The text without the characters at its end that satisfy `p`. -/
def dropEndWhile (p : CodePoint → Bool) (t : Text) : Text := (t.reverse.dropWhile p).reverse

/-- The text without the characters at either end that satisfy `p`. -/
def trimWhile (p : CodePoint → Bool) (t : Text) : Text := dropEndWhile p (t.dropWhile p)

/-- The text without the blanks at either end. -/
def trim (t : Text) : Text := trimWhile isBlank t

/-- There is nothing in the text but blanks. -/
def allBlank (t : Text) : Bool := t.all isBlank

end Text

end ProxySelection
