import ProxySelection.Text.Utf8
import ProxySelection.Validation.Issue

/-!
Checks of single members: texts, integers and truth values, with the leniences of a
configuration file. A text may stand for an integer or a truth value, a number without a
fraction for an integer, and zero and one for truth values.
-/

namespace ProxySelection

namespace Checked

/-- A text. -/
def text : Json → Checked Text
  | .str t => .ok t
  | _ => fail .notText

/-- A text or null. -/
def optionalText : Json → Checked (Option Text)
  | .null => .ok none
  | v => (text v).map some

/-! ### Integers -/

/-- How many digits a text that stands for an integer may have. -/
def integerTextLimit : Nat := 4300

/-- The sign of a text, true for a minus sign in front, and what follows. -/
def cutMinus : Text → Bool × Text
  | char '-' :: t => (true, t)
  | t => (false, t)

/-- Whether a text is the plain form of an integer, up to the number of its digits: a minus
sign or none, and digits the first of which is zero only if there is one digit. -/
def isPlainInteger (t : Text) : Bool :=
  let digits := (cutMinus t).2
  digits.isAsciiDigits && (digits = [char '0'] || digits.head? ≠ some (char '0'))

/-- Whether a text starts with more digits than are read, behind a minus sign or none. Zeros in
front make it no number before they are counted. -/
def isTooLong (t : Text) : Bool :=
  let digits := (cutMinus t).2.takeWhile CodePoint.isDigit
  digits.length > integerTextLimit && digits.head? ≠ some (char '0')

/-- The integer that a text in plain form denotes. -/
def plainInteger? (t : Text) : Option Int :=
  if isPlainInteger t && !isTooLong t then
    match cutMinus t with
    | (true, digits) => some (-(Decimal.value digits : Int))
    | (false, digits) => some (Decimal.value digits)
  else none

/-- The text after one plus sign; a minus sign behind it leaves none. -/
def withoutPlus? : Text → Option Text
  | char '+' :: char '-' :: _ => none
  | char '+' :: t => some t
  | t => some t

/-- What is left of a text behind zeros, the last character of which is `last`: further zeros
and underscores go, and before a point or the end one character stays. Only a digit, a minus
sign or a point may follow. -/
def afterZeros? (last : CodePoint) : Text → Option Text
  | [] => some [last]
  | c :: t =>
    if c = '0' ∨ c = '_' then afterZeros? c t
    else if c.isDigit ∨ c = '-' then some (c :: t)
    else if c = '.' then some (last :: c :: t)
    else none

/-- The text without the zeros in front, if it starts with a digit. -/
def withoutZeros? : Text → Option Text
  | [] => none
  | c :: t =>
    if c = '0' then afterZeros? c t
    else if c.isDigit then some (c :: t)
    else none

/-- The text without the zeros behind its sign, if a digit follows the sign. -/
def withoutLeadingZeros? (t : Text) : Option Text :=
  match cutMinus t with
  | (true, t) => (withoutZeros? t).map (char '-' :: ·)
  | (false, t) => withoutZeros? t

/-- The text without a point and the zeros behind it, if there is at least one and nothing
else. -/
def withoutFraction (t : Text) : Text :=
  match Text.cut '.' t with
  | (whole, some zeros) => if !zeros.isEmpty && zeros.all (· = '0') then whole else t
  | (_, none) => t

/-- Whether every underscore of a text stands between two other characters. -/
def hasSingleUnderscores (t : Text) : Bool :=
  t.head? != some (char '_') && t.getLast? != some (char '_') && (Text.cutAt "__".toText t).2.isNone

/-- The text without its underscores, if each stands between two other characters. -/
def withoutUnderscores (t : Text) : Text :=
  if hasSingleUnderscores t then t.filter (· ≠ '_') else t

/-- What a text comes to when all that an integer may be written with besides its plain form is
taken away: blanks around it, a plus sign, zeros in front, a fraction of zeros and single
underscores. -/
def bareInteger? (t : Text) : Option Text := do
  let t ← withoutPlus? (Text.trimWhile isSpace t)
  return withoutUnderscores (withoutFraction (← withoutLeadingZeros? t))

/-- The integer that a text stands for. Only a text that is too long as it stands is told from
one that cannot be read. -/
def integerOfText (t : Text) : Checked Int :=
  if isTooLong t then fail .integerTooLong
  else
    match (plainInteger? t).or ((bareInteger? t).bind plainInteger?) with
    | some n => .ok n
    | none => fail .unreadableInteger

/-- Two to the power of 63, the bound of the integers of 64 bits with a sign. -/
def wordBound : Int := 9223372036854775808

/-- Whether an integer lies strictly between the bounds of the integers of 64 bits. A number
that is written with a fraction or an exponent stands for an integer only there. -/
def isInsideWord (n : Int) : Bool := -wordBound < n && n < wordBound

/-- Whether an integer is one of 64 bits with a sign. -/
def isWord (n : Int) : Bool := -wordBound ≤ n && n < wordBound

/-- An integer. -/
def integer : Json → Checked Int
  | .int n => .ok n
  | .bool b => .ok (if b then 1 else 0)
  | .float x =>
    match x.toInt? with
    | some n => if isInsideWord n then .ok n else fail .integerTooLong
    | none => if x.isFinite then fail .fractional else fail .notFinite
  | .str t => if Utf8.isEncodable t then integerOfText t else fail .surrogates
  | _ => fail .notInteger

/-- An integer or null. -/
def optionalInteger : Json → Checked (Option Int)
  | .null => .ok none
  | v => (integer v).map some

/-! ### Truth values -/

/-- The texts that stand for a truth value, in lower case. -/
def truthWords : List (Text × Bool) := [
  ("0".toText, false), ("off".toText, false), ("f".toText, false), ("false".toText, false),
  ("n".toText, false), ("no".toText, false), ("1".toText, true), ("on".toText, true),
  ("t".toText, true), ("true".toText, true), ("y".toText, true), ("yes".toText, true)]

/-- Zero is false and one is true. -/
def truthOfInt : Int → Checked Bool
  | 0 => .ok false
  | 1 => .ok true
  | _ => fail .unreadableBool

/-- The truth value that a text stands for, in letters of either case. -/
def truthOfText (t : Text) : Checked Bool :=
  match truthWords.lookup (t.map CodePoint.toLower) with
  | some b => .ok b
  | none => fail .unreadableBool

/-- A truth value. -/
def bool : Json → Checked Bool
  | .bool b => .ok b
  | .int n => if isWord n then truthOfInt n else fail .notBool
  | .float x =>
    match x.toInt? with
    | some n => if isInsideWord n then truthOfInt n else fail .notBool
    | none => fail .notBool
  | .str t => if Utf8.isEncodable t then truthOfText t else fail .surrogates
  | _ => fail .notBool

/-! ### Members -/

/-- The check of a member that may be left out. -/
def member {α : Type} (ms : Members) (name : Text) (absent : α) (check : Json → Checked α) :
    Checked α :=
  match ms.get? name with
  | some v => (check v).under name
  | none => .ok absent

/-- A member that may be left out is as it is for nothing, or what its value is checked to. -/
theorem member_eq_ok_iff {α : Type} {ms : Members} {name : Text} {absent a : α}
    {check : Json → Checked α} :
    member ms name absent check = .ok a ↔
      ms.get? name = none ∧ a = absent ∨ ∃ v, ms.get? name = some v ∧ check v = .ok a := by
  unfold member
  cases ms.get? name with
  | none => simp [eq_comm]
  | some v => cases checked : check v <;> simp [under, checked]

/-- The check of a member that has to be there. -/
def required {α : Type} (ms : Members) (name : Text) (check : Json → Checked α) : Checked α :=
  match ms.get? name with
  | some v => (check v).under name
  | none => (fail .missing).under name

end Checked

end ProxySelection
