import ProxySelection.Number.Digit
import ProxySelection.Text.Blank
import ProxySelection.Text.Quoted

/-!
Integers as decimal text.

Written, an integer is its shortest decimal digits, after a minus sign if it is negative.
Read, it may have white space around it, a sign, digits of any script and single underscores
between digits. More than 4300 digits are refused both ways. `value_decimal` says that what is
written denotes the number.
-/

namespace ProxySelection

namespace Decimal

/-! ### Writing -/

/-- The decimal digits of a natural number. -/
def ofNat (n : Nat) : Text :=
  if n < 10 then [Digit.ofValue n] else ofNat (n / 10) ++ [Digit.ofValue (n % 10)]

/-- The decimal digits of an integer, with a sign if it is negative. -/
def ofInt : Int → Text
  | .ofNat n => ofNat n
  | .negSucc n => char '-' :: ofNat (n + 1)

/-- The number that a sequence of digit values denotes. -/
def valueOf (digits : List Nat) : Nat := digits.foldl (10 * · + ·) 0

/-- The number that a text of ASCII digits denotes. -/
def value (t : Text) : Nat := valueOf (t.map fun c => c.toNat - 0x30)

/-- One more digit multiplies by ten and adds its value. -/
theorem valueOf_append_one (ds : List Nat) (d : Nat) :
    valueOf (ds ++ [d]) = 10 * valueOf ds + d := by simp [valueOf]

/-- What is written denotes the number. -/
theorem value_ofNat (n : Nat) : value (ofNat n) = n := by
  induction n using Nat.strongRecOn with
  | _ n ih =>
    unfold ofNat
    split
    · rename_i h
      simp [value, valueOf, Digit.toNat_ofValue h]
    · rename_i h
      have smaller : n / 10 < n := by omega
      simp only [value, List.map_append, List.map_cons, List.map_nil, valueOf_append_one]
      have := ih (n / 10) smaller
      rw [value] at this
      rw [this, Digit.toNat_ofValue (by omega)]
      omega

/-- What is written is digits. -/
theorem isDigit_of_mem_ofNat {n : Nat} {c : CodePoint} (h : c ∈ ofNat n) : c.isDigit = true := by
  induction n using Nat.strongRecOn with
  | _ n ih =>
    unfold ofNat at h
    split at h
    · rename_i small
      simp only [List.mem_singleton] at h
      exact h ▸ Digit.isDigit_ofValue small
    · rename_i large
      simp only [List.mem_append, List.mem_singleton] at h
      rcases h with h | h
      · exact ih (n / 10) (by omega) h
      · exact h ▸ Digit.isDigit_ofValue (by omega)

/-! ### Limits and faults -/

/-- How many digits an integer may be read or written with. -/
def digitLimit : Nat := 4300

/-- Why an integer is not read or not written. -/
inductive Fault where
  /-- The text is no integer. -/
  | notInteger (t : Text)
  /-- The text has this many digits, more than the limit. -/
  | tooLongToRead (digits : Nat)
  /-- The number has more digits than the limit. -/
  | tooLongToWrite
  deriving DecidableEq

/-- The wording of a fault. Of a text that is no integer the first 200 characters are shown. -/
def Fault.message : Fault → Text
  | .notInteger t =>
    "invalid literal for int() with base 10: ".toText ++ (Text.quoted t).take 200
  | .tooLongToRead digits =>
    "Exceeds the limit (4300 digits) for integer string conversion: value has ".toText ++
      ofNat digits ++ " digits; use sys.set_int_max_str_digits() to increase the limit".toText
  | .tooLongToWrite =>
    ("Exceeds the limit (4300 digits) for integer string conversion; " ++
      "use sys.set_int_max_str_digits() to increase the limit").toText

/-- The decimal text of an integer within the limit. -/
def write (n : Int) : Except Fault Text :=
  if (ofNat n.natAbs).length ≤ digitLimit then .ok (ofInt n) else .error .tooLongToWrite

/-! ### Reading -/

/-- The values of the digits in front of a text, with single underscores between them, and
what follows; nothing if an underscore is not between digits. `due` says that a digit has to
come next. -/
def digitRun (due : Bool) : Text → Option (List Nat × Text)
  | [] => if due then none else some ([], [])
  | c :: t =>
    match Digit.decimal? c with
    | some d => (digitRun false t).map fun (ds, rest) => (d :: ds, rest)
    | none =>
      if due then none
      else if c = '_' then digitRun true t
      else some ([], c :: t)

/-- The sign in front of a text, true for minus, and what follows. -/
def sign : Text → Bool × Text
  | char '-' :: t => (true, t)
  | char '+' :: t => (false, t)
  | t => (false, t)

/-- The integer of a sign and digit values. -/
def signed (negative : Bool) (digits : List Nat) : Int :=
  if negative then -(valueOf digits : Int) else valueOf digits

/-- The integer that a text denotes. -/
def read (t : Text) : Except Fault Int :=
  let (negative, body) := sign (Text.trimWhile isSpace t)
  match digitRun true body with
  | none => .error (.notInteger t)
  | some (digits, rest) =>
    if digits.length > digitLimit then .error (.tooLongToRead digits.length)
    else if rest.isEmpty then .ok (signed negative digits)
    else .error (.notInteger t)

end Decimal

end ProxySelection
