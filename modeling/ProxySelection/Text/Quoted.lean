import ProxySelection.Text.Printable

/-!
Quoted text, as shown in messages.

A text stands between apostrophes, or between double quotes if it holds an apostrophe and no
double quote. The mark in use and the backslash are escaped by a backslash; tab, line feed
and carriage return have short escapes; every other character that is not printable is
written by the hexadecimal digits of its code point, two, four or eight of them.
-/

namespace ProxySelection

namespace Text

/-- The lower-case hexadecimal digit of a number below sixteen. -/
def hexDigit (n : Nat) : CodePoint :=
  if n < 10 then Char.ofNat (0x30 + n) else Char.ofNat (0x57 + n)

/-- The last `width` hexadecimal digits of `n`. -/
def hex : (width : Nat) → (n : Nat) → Text
  | 0, _ => []
  | width + 1, n => hex width (n / 16) ++ [hexDigit (n % 16)]

/-- The shortest of the three numeric escapes that fits. -/
def numericEscape (n : Nat) : Text :=
  if n < 0x100 then char '\\' :: char 'x' :: hex 2 n
  else if n < 0x10000 then char '\\' :: char 'u' :: hex 4 n
  else char '\\' :: char 'U' :: hex 8 n

/-- A text as a string, which holds no surrogates: they stand in it by their numeric escapes. -/
def string (t : Text) : String :=
  let shown (c : CodePoint) : Text := if c.isChar then [c] else numericEscape c.toNat
  String.ofList ((t.flatMap shown).filterMap fun
    | char c => some c
    | .surrogate _ => none)

/-- A character as written between the marks `mark`. -/
def escape (mark : CodePoint) (c : CodePoint) : Text :=
  if c = mark ∨ c = '\\' then [char '\\', c]
  else if c = '\t' then [char '\\', char 't']
  else if c = '\n' then [char '\\', char 'n']
  else if c = '\r' then [char '\\', char 'r']
  else if isPrintable c then [c]
  else numericEscape c.toNat

/-- The mark a text is quoted with. -/
def quoteMark (t : Text) : CodePoint :=
  if t.contains '\x27' && !t.contains '\x22' then '\x22' else '\x27'

/-- The text between quotation marks. -/
def quoted (t : Text) : Text :=
  let mark := quoteMark t
  mark :: t.flatMap (escape mark) ++ [mark]

end Text

end ProxySelection
