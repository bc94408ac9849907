import ProxySelection.Json.Basic
import ProxySelection.Text.Encoding

/-!
The tokens of a JSON text, each with the offset at which it starts.

A text is cut into tokens without regard to where they stand: whether a token is in its place
is for the reader to say. The list ends with the token `finish`, or before it with the first
thing that is no token or a broken one. Besides numbers, `NaN`, `Infinity` and `-Infinity`
are values; a number stops where its grammar stops.
-/

namespace ProxySelection

namespace Json

/-- What is wrong with a text that is not JSON. -/
inductive Complaint where
  | expectingValue
  | expectingComma
  | expectingColon
  | expectingName
  | extraData
  | unterminatedString
  | controlCharacter
  | badEscape
  | badUnicodeEscape
  | byteOrderMark
  deriving DecidableEq

/-- The values that hold others. -/
inductive Container where
  | array
  | object
  deriving DecidableEq

/-- Why a text is not read: it is not JSON at some offset, an integer in it has too many
digits, or an array or object lies too deep inside others. -/
inductive Fault where
  | notJson (complaint : Complaint) (offset : Nat)
  | integer (fault : Decimal.Fault)
  | tooDeep (container : Container)
  deriving DecidableEq

/-- The smallest pieces of a JSON text. -/
inductive Lexeme where
  | openArray
  | closeArray
  | openObject
  | closeObject
  | comma
  | colon
  /-- A string. -/
  | string (t : Text)
  /-- Any other value that is not composed of others. -/
  | scalar (v : Json)
  /-- A value that breaks off or is out of bounds. -/
  | broken (fault : Fault)
  /-- A character that starts no token. -/
  | stray
  /-- The end of the text. -/
  | finish

/-- A token and where it starts. -/
structure Token where
  offset : Nat
  lexeme : Lexeme

/-! ### Strings -/

/-- The number of four hexadecimal digits. -/
def hexValue4? (a b c d : CodePoint) : Option Nat := do
  let a ← Digit.hexadecimal? a
  let b ← Digit.hexadecimal? b
  let c ← Digit.hexadecimal? c
  let d ← Digit.hexadecimal? d
  some (((a * 16 + b) * 16 + c) * 16 + d)

/-- The character that a one-letter escape stands for. -/
def simpleEscape? : CodePoint → Option CodePoint
  | char '\x22' => some (char '\x22')
  | char '\\' => some (char '\\')
  | char '/' => some (char '/')
  | char 'b' => some (char '\x08')
  | char 'f' => some (char '\x0c')
  | char 'n' => some (char '\n')
  | char 'r' => some (char '\r')
  | char 't' => some (char '\t')
  | _ => none

/-- The pieces of a string up to its closing quote, and how many characters of the text
they and the quote take. `start` is the offset of the opening quote, `offset` that of the
text. A four-digit escape has to be followed by a further character. -/
def stringPieces (start offset : Nat) : Text → Except Fault (List Text.Piece × Nat)
  | [] => .error (.notJson .unterminatedString start)
  | char '\x22' :: _ => .ok ([], 1)
  | char '\\' :: char 'u' :: a :: b :: c :: d :: e :: t =>
    match hexValue4? a b c d with
    | none => .error (.notJson .badUnicodeEscape (offset + 1))
    | some n => (stringPieces start (offset + 6) (e :: t)).map fun (ps, k) => (.unit n :: ps, k + 6)
  | char '\\' :: char 'u' :: _ => .error (.notJson .badUnicodeEscape (offset + 1))
  | [char '\\'] => .error (.notJson .unterminatedString start)
  | char '\\' :: c :: t =>
    match simpleEscape? c with
    | none => .error (.notJson .badEscape offset)
    | some x => (stringPieces start (offset + 2) t).map fun (ps, k) => (.whole x :: ps, k + 2)
  | c :: t =>
    if c.toNat < 0x20 then .error (.notJson .controlCharacter offset)
    else (stringPieces start (offset + 1) t).map fun (ps, k) => (.whole c :: ps, k + 1)

/-! ### Numbers -/

/-- The digits in front of a text, and what follows. -/
def digits (t : Text) : Text × Text :=
  (t.takeWhile CodePoint.isDigit, t.dropWhile CodePoint.isDigit)

/-- The whole part in front of a text, which is zero or starts with another digit. -/
def wholePart? (t : Text) : Option (Text × Text) :=
  match t with
  | char '0' :: r => some ([char '0'], r)
  | c :: _ => if c.isDigit then some (digits t) else none
  | [] => none

/-- The fraction in front of a text: a point and at least one digit. -/
def fraction (t : Text) : Text × Text :=
  match t with
  | char '.' :: r => if (digits r).1.isEmpty then ([], t) else digits r
  | _ => ([], t)

/-- The exponent in front of a text: the letter, a sign or none, and at least one digit. -/
def exponent (t : Text) : Option Int × Text :=
  match t with
  | c :: r =>
    if c = 'e' ∨ c = 'E' then
      let (negative, r') := Decimal.sign r
      let (ds, rest) := digits r'
      if ds.isEmpty then (none, t)
      else (some (if negative then -(Decimal.value ds : Int) else Decimal.value ds), rest)
    else (none, t)
  | [] => (none, t)

/-- The number in front of a text, and what follows. Without fraction and exponent it is an
integer. -/
def number? (t : Text) : Option (Lexeme × Text) := do
  let (negative, t) := match t with
    | char '-' :: r => (true, r)
    | _ => (false, t)
  let (whole, t) ← wholePart? t
  let (part, rest) := fraction t
  let (power, rest) := exponent rest
  if part.isEmpty ∧ power.isNone then
    if whole.length > Decimal.digitLimit then
      some (.broken (.integer (.tooLongToRead whole.length)), rest)
    else
      let n : Int := Decimal.value whole
      some (.scalar (.int (if negative then -n else n)), rest)
  else
    let x := Binary64.ofDecimal negative (Decimal.value (whole ++ part))
      (power.getD 0 - part.length)
    some (.scalar (.float x), rest)

/-! ### Cutting into tokens -/

/-- The values that are written as words. -/
def words : List (Text × Json) := [
  ("null".toText, .null), ("true".toText, .bool true), ("false".toText, .bool false),
  ("NaN".toText, .float .notANumber), ("Infinity".toText, .float (.infinite false)),
  ("-Infinity".toText, .float (.infinite true))]

/-- The lexeme at the front of a text that starts with `c` and goes on with `t`, and how many
characters it takes after `c`. -/
def lexemeAt (offset : Nat) (c : CodePoint) (t : Text) : Lexeme × Nat :=
  match c with
  | char '[' => (.openArray, 0)
  | char ']' => (.closeArray, 0)
  | char '\x7b' => (.openObject, 0)
  | char '\x7d' => (.closeObject, 0)
  | char ',' => (.comma, 0)
  | char ':' => (.colon, 0)
  | char '\x22' =>
    match stringPieces offset (offset + 1) t with
    | .ok (pieces, taken) => (.string (Text.ofPieces pieces), taken)
    | .error fault => (.broken fault, 0)
  | c =>
    match words.find? fun w => w.1.isPrefixOf (c :: t) with
    | some (word, v) => (.scalar v, word.length - 1)
    | none =>
      match number? (c :: t) with
      | some (lexeme, rest) => (lexeme, t.length - rest.length)
      | none => (.stray, 0)

/-- Whether tokens can go on after a lexeme. -/
def Lexeme.isSound : Lexeme → Bool
  | .broken _ => false
  | .stray => false
  | _ => true

/-- The blanks that may stand between tokens. -/
def isGap (c : CodePoint) : Bool := c = ' ' || c = '\t' || c = '\n' || c = '\r'

/-- The tokens of a text that starts at `offset`. -/
def tokens (offset : Nat) : Text → List Token
  | [] => [⟨offset, .finish⟩]
  | c :: t =>
    if isGap c then tokens (offset + 1) t
    else
      let (lexeme, taken) := lexemeAt offset c t
      if lexeme.isSound then ⟨offset, lexeme⟩ :: tokens (offset + 1 + taken) (t.drop taken)
      else [⟨offset, lexeme⟩]
  termination_by t => t.length
  decreasing_by all_goals simp +arith [List.length_drop]

end Json

end ProxySelection
