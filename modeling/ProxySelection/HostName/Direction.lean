import ProxySelection.HostName.Marks

/-!
Directions of writing. A label with letters from right to left starts with a letter, ends with
a letter or a digit, marks apart, and does not mix the two directions or two kinds of digits.
The tables follow Unicode 14 as far as characters of host names go.
-/

namespace ProxySelection

namespace HostName

/-- The direction that a character is written in. -/
inductive Direction where
  | leftToRight
  | rightToLeft
  /-- A mark goes with the character before it. -/
  | mark
  /-- A digit that is used among letters of either direction. -/
  | digit
  /-- A digit that is used among Arabic letters. -/
  | arabicDigit
  | neutral
  deriving DecidableEq

/-- Letters that are written from right to left; marks among them are not told apart. -/
def rightToLeftLetters : CodeRuns := [
  (0x5D0, 0x64A), (0x66E, 0x6EF), (0x6FA, 0x8C9), (0xFE73, 0xFE73), (0x10800, 0x10D23),
  (0x10E80, 0x10FF6), (0x1E800, 0x1E959)]

/-- Digits that are used among letters of either direction. -/
def digits : CodeRuns := [
  (0x30, 0x39), (0x6F0, 0x6F9)]

/-- Digits that are used among Arabic letters. -/
def arabicDigits : CodeRuns := [
  (0x660, 0x669), (0x10D30, 0x10D39)]

/-- Characters without a direction. -/
def neutrals : CodeRuns := [
  (0x2D, 0x2D), (0xB7, 0xB7), (0x2B9, 0x2BA), (0x2C6, 0x2CF), (0x2EC, 0x2EC), (0x375, 0x375),
  (0x200C, 0x200D), (0x2E2F, 0x2E2F), (0x30FB, 0x30FB), (0xA67F, 0xA67F), (0xA717, 0xA71F),
  (0xA788, 0xA788)]

/-- The direction of a character. -/
def direction (c : CodePoint) : Direction :=
  if nonspacingMarks.holds c then .mark
  else if digits.holds c then .digit
  else if arabicDigits.holds c then .arabicDigit
  else if neutrals.holds c then .neutral
  else if rightToLeftLetters.holds c then .rightToLeft
  else .leftToRight

/-- Whether a character makes a label one with letters from right to left. -/
def Direction.isRightToLeft (d : Direction) : Bool := d = .rightToLeft || d = .arabicDigit

/-- The last direction that is not that of a mark. -/
def lastDirection? (ds : List Direction) : Option Direction :=
  (ds.filter (· ≠ .mark)).getLast?

/-- Whether the directions of a label go together. -/
def areInOrder (ds : List Direction) : Bool :=
  if !ds.any Direction.isRightToLeft then true
  else
    match ds.head? with
    | some .rightToLeft =>
      !ds.contains .leftToRight && !(ds.contains .digit && ds.contains .arabicDigit) &&
        (lastDirection? ds).any fun d => d.isRightToLeft || d = .digit
    | _ => false

end HostName

end ProxySelection
