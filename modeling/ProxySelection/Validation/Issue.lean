import ProxySelection.Text.Utf8
import ProxySelection.Url.Basic

/-!
Issues found in a value that is checked against a shape, and checks that report all of them.

An issue has a path of member names from the checked value down to the one at fault, and a
cause with a type and a wording. `Checked.also` keeps the issues of both sides, in order.
-/

namespace ProxySelection

/-- What is wrong with a value. -/
inductive Issue.Cause where
  | notText
  /-- A text with a surrogate from which something is to be read. -/
  | surrogates
  | notInteger
  | notFinite
  | fractional
  | unreadableInteger
  | integerTooLong
  | notBool
  | unreadableBool
  /-- The value is neither an object nor anything else that stands for the named shape. -/
  | notShape (shape : Text)
  /-- A text that is no URL. -/
  | notUrl (fault : Url.Fault)
  /-- A member that has to be there is missing. -/
  | missing
  /-- The value is no object. -/
  | notObject
  /-- The text is not JSON. -/
  | notJson

namespace Issue

/-- The type by which a cause is known. -/
def Cause.type : Cause → Text
  | .notText => "string_type".toText
  | .surrogates => "string_unicode".toText
  | .notInteger => "int_type".toText
  | .notFinite => "finite_number".toText
  | .fractional => "int_from_float".toText
  | .unreadableInteger => "int_parsing".toText
  | .integerTooLong => "int_parsing_size".toText
  | .notBool => "bool_type".toText
  | .unreadableBool => "bool_parsing".toText
  | .notShape _ => "model_type".toText
  | .notUrl _ => "value_error".toText
  | .missing => "missing".toText
  | .notObject => "model_attributes_type".toText
  | .notJson => "json_invalid".toText

/-- The wording of a cause. -/
def Cause.message : Cause → Text
  | .notText => "Input should be a valid string".toText
  | .surrogates =>
    "Input should be a valid string, unable to parse raw data as a unicode string".toText
  | .notInteger => "Input should be a valid integer".toText
  | .notFinite => "Input should be a finite number".toText
  | .fractional =>
    "Input should be a valid integer, got a number with a fractional part".toText
  | .unreadableInteger =>
    "Input should be a valid integer, unable to parse string as an integer".toText
  | .integerTooLong =>
    "Unable to parse input string as an integer, exceeded maximum size".toText
  | .notBool => "Input should be a valid boolean".toText
  | .unreadableBool => "Input should be a valid boolean, unable to interpret input".toText
  | .notShape shape => "Input should be a valid dictionary or instance of ".toText ++ shape
  | .notUrl fault => "Value error, ".toText ++ Utf8.lossy fault.message
  | .missing => "Field required".toText
  | .notObject =>
    "Input should be a valid dictionary or object to extract fields from".toText
  | .notJson => "JSON decode error".toText

/-- A step of a path: the name of a member, or an offset in a text. -/
inductive Step where
  | member (name : Text)
  | offset (n : Nat)
  deriving DecidableEq

end Issue

/-- Something wrong at a place of a checked value. -/
structure Issue where
  path : List Issue.Step
  cause : Issue.Cause

/-- The issue of a member, seen from the value that holds it. -/
def Issue.under (name : Text) (i : Issue) : Issue := { i with path := .member name :: i.path }

/-- A value, or the issues that kept it from being one. -/
abbrev Checked (α : Type) := Except (List Issue) α

namespace Checked

variable {α β : Type}

/-- A single issue with the checked value itself. -/
def fail (cause : Issue.Cause) : Checked α := .error [⟨[], cause⟩]

/-- A check that nothing fails. -/
def of (a : α) : Checked α := .ok a

/-- The check of a member, with its name put in front of the path of every issue. -/
def under (name : Text) : Checked α → Checked α
  | .ok a => .ok a
  | .error issues => .error (issues.map (·.under name))

/-- Both checks; if both fail, the issues of the first come before those of the second. -/
def also : Checked (α → β) → Checked α → Checked β
  | .ok f, .ok a => .ok (f a)
  | .ok _, .error issues => .error issues
  | .error issues, .ok _ => .error issues
  | .error issues, .error more => .error (issues ++ more)

/-- Both checks together hold exactly when each does. -/
theorem also_eq_ok_iff {f : Checked (α → β)} {a : Checked α} {b : β} :
    f.also a = .ok b ↔ ∃ g x, f = .ok g ∧ a = .ok x ∧ g x = b := by
  cases f <;> cases a <;> simp [also]

end Checked

end ProxySelection
