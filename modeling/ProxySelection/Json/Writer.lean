import ProxySelection.Json.Basic
import ProxySelection.Text.Utf8

/-!
JSON text of a value, without blanks. Inside a string the double quote, the backslash and the
control characters below the space are escaped, all else stands as it is. Two kinds of value are
told apart that others cannot read: `isFinite` holds of those without a number that is infinite
or none, `isEncodable` of those whose texts can be encoded.
-/

namespace ProxySelection

namespace Json

/-- A character as it stands inside a JSON string. -/
def escape (c : CodePoint) : Text :=
  if c = '\x22' ∨ c = '\\' then [char '\\', c]
  else if c = '\n' then [char '\\', char 'n']
  else if c = '\r' then [char '\\', char 'r']
  else if c = '\t' then [char '\\', char 't']
  else if c.toNat < 0x20 then char '\\' :: char 'u' :: Text.hex 4 c.toNat
  else [c]

/-- A text as a JSON string. -/
def quote (t : Text) : Text := char '\x22' :: t.flatMap escape ++ [char '\x22']

mutual

/-- The JSON text of a value. -/
def write : Json → Text
  | .null => "null".toText
  | .bool true => "true".toText
  | .bool false => "false".toText
  | .int n => Decimal.ofInt n
  | .float .notANumber => "NaN".toText
  | .float (.infinite negative) => if negative then "-Infinity".toText else "Infinity".toText
  | .float x => x.text
  | .str t => quote t
  | .arr items => char '[' :: writeItems items ++ [char ']']
  | .obj members => char '\x7b' :: writeMembers members ++ [char '\x7d']

/-- The items of an array, separated. -/
def writeItems : List Json → Text
  | [] => []
  | [v] => write v
  | v :: w :: vs => write v ++ char ',' :: writeItems (w :: vs)

/-- The members of an object, separated. -/
def writeMembers : List (Text × Json) → Text
  | [] => []
  | [(n, v)] => quote n ++ char ':' :: write v
  | (n, v) :: m :: ms => quote n ++ char ':' :: write v ++ char ',' :: writeMembers (m :: ms)

end

/-! ### Finite values -/

mutual

/-- Whether every number in a value is finite. -/
def isFinite : Json → Bool
  | .float x => x.isFinite
  | .arr items => areFinite items
  | .obj members => haveFinite members
  | _ => true

/-- Whether every number in the items is finite. -/
def areFinite : List Json → Bool
  | [] => true
  | v :: vs => isFinite v && areFinite vs

/-- Whether every number in the members is finite. -/
def haveFinite : List (Text × Json) → Bool
  | [] => true
  | (_, v) :: ms => isFinite v && haveFinite ms

end

/-! ### Values with octets -/

mutual

/-- The texts in a value, names of members included. -/
def texts : Json → List Text
  | .str t => [t]
  | .arr items => itemTexts items
  | .obj members => memberTexts members
  | _ => []

/-- The texts in the items of a list. -/
def itemTexts : List Json → List Text
  | [] => []
  | v :: vs => texts v ++ itemTexts vs

/-- The texts in the members of an object. -/
def memberTexts : List (Text × Json) → List Text
  | [] => []
  | (n, v) :: ms => n :: texts v ++ memberTexts ms

end

/-- Whether the texts in a value can be encoded. -/
def isEncodable (v : Json) : Bool := v.texts.all Utf8.isEncodable

end Json

end ProxySelection
