import ProxySelection.Json.Basic

/-!
Values as shown in messages: `None`, `True` and `False`, numbers in decimal, texts quoted,
lists and objects in brackets with a comma and a space between neighbours. A value with an
integer of too many digits in it cannot be shown.
-/

namespace ProxySelection

namespace Json

mutual

/-- A value as shown in messages. -/
def literal : Json → Text
  | .null => "None".toText
  | .bool true => "True".toText
  | .bool false => "False".toText
  | .int n => Decimal.ofInt n
  | .float x => x.text
  | .str t => Text.quoted t
  | .arr items => char '[' :: literalItems items ++ [char ']']
  | .obj members => char '\x7b' :: literalMembers members ++ [char '\x7d']

/-- The items of a list, separated. -/
def literalItems : List Json → Text
  | [] => []
  | [v] => literal v
  | v :: w :: vs => literal v ++ char ',' :: char ' ' :: literalItems (w :: vs)

/-- The members of an object, separated. -/
def literalMembers : List (Text × Json) → Text
  | [] => []
  | [(n, v)] => Text.quoted n ++ char ':' :: char ' ' :: literal v
  | (n, v) :: m :: ms =>
    Text.quoted n ++ char ':' :: char ' ' :: literal v ++ char ',' :: char ' ' ::
      literalMembers (m :: ms)

end

mutual

/-- The integers in a value, in order. -/
def integers : Json → List Int
  | .int n => [n]
  | .arr items => itemIntegers items
  | .obj members => memberIntegers members
  | _ => []

/-- The integers in the items of a list. -/
def itemIntegers : List Json → List Int
  | [] => []
  | v :: vs => integers v ++ itemIntegers vs

/-- The integers in the members of an object. -/
def memberIntegers : List (Text × Json) → List Int
  | [] => []
  | (_, v) :: ms => integers v ++ memberIntegers ms

end

/-- Whether a value can be shown: none of its integers has too many digits. -/
def isShowable (v : Json) : Bool :=
  v.integers.all fun n => (Decimal.ofNat n.natAbs).length ≤ Decimal.digitLimit

/-- A value as it stands in running text: a text as it is, anything else as in messages. -/
def shown : Json → Text
  | .str t => t
  | v => v.literal

end Json

end ProxySelection
