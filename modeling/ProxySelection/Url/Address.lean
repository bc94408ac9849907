import ProxySelection.Number.Integer

/-!
Literal addresses that may stand in brackets as a host.

An IPv6 address has eight groups of hexadecimal digits between colons, of which a run of at
least one may be left out as `::`; its last two groups may be written as an IPv4 address, and
a scope may follow after `%`. An address of a future version starts with `v`, hexadecimal
digits and a point.
-/

namespace ProxySelection

namespace Address

/-- A decimal octet: up to three ASCII digits, no leading zero, at most 255. -/
def isOctet (t : Text) : Bool :=
  t.isAsciiDigits && t.length ≤ 3 && (t == [char '0'] || t.head? != some (char '0')) &&
    Decimal.value t ≤ 255

/-- Four octets between points. -/
def isIPv4 (t : Text) : Bool :=
  let octets := Text.parts '.' t
  octets.length == 4 && octets.all isOctet

/-- One to four hexadecimal digits. -/
def isGroup (t : Text) : Bool :=
  1 ≤ t.length && t.length ≤ 4 && t.all fun c => (Digit.hexadecimal? c).isSome

/-- The groups on one side of `::`: none, which leaves an empty piece, or proper ones. -/
def isSide (groups : List Text) : Bool := groups == [[]] || groups.all isGroup

/-- How many groups stand on one side of `::`. -/
def sideSize (groups : List Text) : Nat := if groups == [[]] then 0 else groups.length

/-- The pieces between colons with an IPv4 address at the end replaced by two groups; nothing
if the last piece holds a point and is no IPv4 address. -/
def withoutIPv4Tail (pieces : List Text) : Option (List Text) :=
  let last := pieces.getLastD []
  if last.contains '.' then
    if isIPv4 last then some (pieces.dropLast ++ [[char '0'], [char '0']]) else none
  else some pieces

/-- Eight groups, or fewer around one empty piece that is neither the first nor the last. -/
def areGroups : List Text → Bool
  | [] => false
  | first :: others =>
    match others.span (· ≠ []) with
    | (before, [] :: next :: after) =>
      isSide (first :: before) && isSide (next :: after) &&
        sideSize (first :: before) + sideSize (next :: after) ≤ 7
    | _ => others.length == 7 && (first :: others).all isGroup

/-- A scope is absent, or not empty and without a further `%`. -/
def isScope : Option Text → Bool
  | none => true
  | some scope => !scope.isEmpty && !scope.contains '%' && !scope.contains '/'

/-- An IPv6 address with or without scope. -/
def isIPv6 (t : Text) : Bool :=
  let (address, scope) := Text.cut '%' t
  isScope scope && ((withoutIPv4Tail (Text.parts ':' address)).map areGroups).getD false

/-- `v`, hexadecimal digits, a point, and more. -/
def isFuture : Text → Bool
  | char 'v' :: t =>
    let isHex (c : CodePoint) := (Digit.hexadecimal? c).isSome
    !(t.takeWhile isHex).isEmpty &&
      match t.dropWhile isHex with
      | char '.' :: rest => !rest.isEmpty
      | _ => false
  | _ => false

end Address

end ProxySelection
