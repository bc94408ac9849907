import ProxySelection.HostName.Basic
import ProxySelection.Text.Utf8
import ProxySelection.Url.Address

/-!
The target of a request: a reference to a URL, of which the service sees the path.

A reference that names a protocol and a host keeps its path; the path of any other follows the
root of the service. The steps `.` and `..` are taken, and then escaped octets are replaced,
two times over. A host and a port are checked although the service is reached without them.
`path?` gives the path that the service sees, and `withoutDots_of_forall` says that a path
without such steps keeps all of its own.
-/

namespace ProxySelection

namespace Service

namespace Target

/-! ### Faults -/

/-- Why a target is refused. -/
inductive Fault where
  /-- It has too many characters. -/
  | tooLong
  /-- It has a control character at this place. -/
  | notPrintable (c : CodePoint) (place : Nat)
  /-- Its host has the form of an IPv4 address and is none. -/
  | notIPv4 (host : Text)
  /-- Its host stands in brackets and is no IPv6 address. -/
  | notIPv6 (host : Text)
  /-- Its host is not in ASCII and is no name that could be written so. -/
  | notName (host : Text)
  /-- Its port is no integer. -/
  | notPort (port : Text)
  /-- It names no host and its path starts with two slashes. -/
  | twoSlashes
  /-- It names no host and its path starts with a colon. -/
  | colonInFront
  /-- It has a surrogate, which cannot be escaped. -/
  | notEncoded (fault : Utf8.Fault)
  /-- Its path has too many characters when it is escaped. -/
  | pathTooLong
  /-- What it asks for has too many characters when it is escaped. -/
  | queryTooLong
  /-- It names a host by a protocol that the service is not reached by. -/
  | otherProtocol (protocol : Text)
  deriving DecidableEq

/-- The wording of a fault. -/
def Fault.message : Fault → Text
  | .tooLong => "URL too long".toText
  | .notPrintable c place =>
    "Invalid non-printable ASCII character in URL, ".toText ++ Text.quoted [c] ++
      " at position ".toText ++ Decimal.ofNat place ++ [char '.']
  | .notIPv4 host => "Invalid IPv4 address: ".toText ++ Text.quoted host
  | .notIPv6 host => "Invalid IPv6 address: ".toText ++ Text.quoted host
  | .notName host => "Invalid IDNA hostname: ".toText ++ Text.quoted host
  | .notPort port => "Invalid port: ".toText ++ Text.quoted port
  | .twoSlashes => "Relative URLs cannot have a path starting with '//'".toText
  | .colonInFront => "Relative URLs cannot have a path starting with ':'".toText
  | .notEncoded fault => fault.message
  | .pathTooLong => "URL component 'path' too long".toText
  | .queryTooLong => "URL component 'query' too long".toText
  | .otherProtocol protocol => Text.quoted protocol

/-- How many characters a target may have, and its path and what it asks for when they are
escaped. -/
def lengthLimit : Nat := 65536

/-- A control character of ASCII. -/
def isControl (c : CodePoint) : Bool := c.toNat < 0x20 || c.toNat = 0x7F

/-! ### Parts of a reference -/

/-- The parts of a reference to a URL. -/
structure Reference where
  /-- The protocol in small letters, empty if there is none. -/
  protocol : Text
  /-- The user part, empty if there is none. -/
  user : Text
  /-- The host, empty if there is none. -/
  host : Text
  /-- The port as it is written, empty if there is none. -/
  port : Text
  path : Text
  /-- What stands between the question mark and the number sign. -/
  query : Option Text
  /-- What stands behind the number sign. -/
  fragment : Option Text

/-- A character of a protocol. -/
def isProtocolChar (c : CodePoint) : Bool :=
  c.isAlpha || c.isDigit || c = '+' || c = '.' || c = '-'

/-- The protocol in front of a reference, which may be empty, and what follows its colon. -/
def cutProtocol (t : Text) : Text × Text :=
  let name := t.takeWhile isProtocolChar
  match t.dropWhile isProtocolChar with
  | char ':' :: rest =>
    if (name.head?.map CodePoint.isAlpha).getD true then (name, rest) else ([], t)
  | _ => ([], t)

/-- The authority in front of a reference, and what follows. -/
def cutAuthority : Text → Text × Text
  | char '/' :: char '/' :: t =>
    let inside (c : CodePoint) := c != '/' && c != '?' && c != '#'
    (t.takeWhile inside, t.dropWhile inside)
  | t => ([], t)

/-- The host in front of a text, and what follows. A host in brackets ends at the last closing
one, any other before a colon. -/
def cutHost (t : Text) : Text × Text :=
  match t.head?, Text.cutLast ']' t with
  | some (char '['), (some inside, after) => (inside ++ [char ']'], after)
  | _, _ => (t.takeWhile (· != ':'), t.dropWhile (· != ':'))

/-- The text without a colon in front. -/
def withoutColon : Text → Text
  | char ':' :: t => t
  | t => t

/-- The parts of a reference. -/
def reference (t : Text) : Reference :=
  let (protocol, rest) := cutProtocol t
  let (authority, rest) := cutAuthority rest
  let (user, address) := Text.cutLast '@' authority
  let (host, after) := cutHost address
  let (rest, fragment) := Text.cut '#' rest
  let (path, query) := Text.cut '?' rest
  ⟨protocol.map CodePoint.toLower, user.getD [], host, withoutColon after, path, query, fragment⟩

/-- Whether a reference says where its path belongs. -/
def Reference.isPlaced (r : Reference) : Bool :=
  !(r.protocol.isEmpty && r.user.isEmpty && r.host.isEmpty && r.port.isEmpty)

/-- Whether a reference is a whole URL. -/
def Reference.isWhole (r : Reference) : Bool := !r.protocol.isEmpty && !r.host.isEmpty

/-! ### Hosts and ports -/

/-- Whether a text has groups of digits with `n` single characters between them. -/
def hasGroups : Nat → Text → Bool
  | 0, t => t.isAsciiDigits
  | n + 1, c :: between :: t =>
    c.isDigit && (hasGroups (n + 1) (between :: t) || hasGroups n t)
  | _ + 1, _ => false

/-- Whether a host has the form of an IPv4 address: four groups of digits, whatever is between
them. -/
def hasIPv4Form (host : Text) : Bool := hasGroups 3 host

/-- What is wrong with a host. -/
def hostFault? (host : Text) : Option Fault :=
  if hasIPv4Form host then
    if Address.isIPv4 host then none else some (.notIPv4 host)
  else if host.head? = some (char '[') && host.getLast? = some (char ']') then
    if Address.isIPv6 (host.drop 1).dropLast then none else some (.notIPv6 host)
  else if host.all Punycode.isBasic || HostName.isName host then none
  else some (.notName host)

/-- What is wrong with a port. -/
def portFault? (port : Text) : Option Fault :=
  if port.isEmpty then none
  else
    match Decimal.read port with
    | .ok _ => none
    | .error _ => some (.notPort port)

/-! ### Steps of a path -/

/-- One more step of a path after others. -/
def walk (taken : List Text) (step : Text) : List Text :=
  if step = [char '.'] then taken
  else if step = [char '.', char '.'] then
    if taken = [[]] then taken else taken.dropLast
  else taken ++ [step]

/-- The path with its steps taken. -/
def withoutDots (path : Text) : Text :=
  Text.joinWith '/' ((Text.parts '/' path).foldl walk [])

/-- Steps that lead on are all taken. -/
theorem foldl_walk {steps : List Text}
    (h : ∀ s ∈ steps, s ≠ [char '.'] ∧ s ≠ [char '.', char '.']) (taken : List Text) :
    steps.foldl walk taken = taken ++ steps := by
  induction steps generalizing taken with
  | nil => simp
  | cons s steps ih =>
    have here := h s (by simp)
    rw [List.foldl_cons, ih fun s' m => h s' (by simp [m])]
    simp [walk, here.1, here.2]

/-- A path whose steps all lead on stays as it is. -/
theorem withoutDots_of_forall {path : Text}
    (h : ∀ s ∈ Text.parts '/' path, s ≠ [char '.'] ∧ s ≠ [char '.', char '.']) :
    withoutDots path = path := by
  rw [withoutDots, foldl_walk h, List.nil_append, Text.joinWith_parts]

/-! ### Escaped octets -/

/-- The octets of a text in which `%` and two hexadecimal digits stand for one. -/
def octets : Text → List UInt8
  | char '%' :: a :: b :: t =>
    match Digit.hexadecimal? a, Digit.hexadecimal? b with
    | some high, some low => (high * 16 + low).toUInt8 :: octets t
    | _, _ => 0x25 :: octets (a :: b :: t)
  | c :: t => Utf8.octetsOf c ++ octets t
  | [] => []

/-- The text with its escaped octets replaced, if they are UTF-8. -/
def unescape? (t : Text) : Option Text := Utf8.decode (octets t)

/-! ### Escaped characters -/

/-- What is wrong with a text some of whose characters are escaped, each by itself. -/
def codingFault? (t : Text) : Option Fault :=
  (t.find? CodePoint.isSurrogate).map fun c => .notEncoded ⟨0, [c]⟩

/-- Characters of ASCII that are escaped in what is asked for. -/
def escapedInQuery : Text := " \x22#<>".toText

/-- Characters of ASCII that are escaped in a path. -/
def escapedInPath : Text := escapedInQuery ++ "?\x60\x7b\x7d".toText

/-- How many characters a character takes, if the given ones and those that are not in ASCII
are escaped, octet by octet. -/
def escapedSize (escaped : Text) (c : CodePoint) : Nat :=
  if c.toNat < 0x80 && !escaped.contains c then 1 else 3 * (Utf8.octetsOf c).length

/-- The length of a text with the given characters escaped. -/
def escapedLength (escaped : Text) (t : Text) : Nat :=
  t.foldl (fun length c => length + escapedSize escaped c) 0

/-! ### The path -/

/-- The path of a reference with its steps taken if it says where the path belongs. -/
def Reference.ownPath (r : Reference) : Text := if r.isPlaced then withoutDots r.path else r.path

/-- The path of a reference from the root of the service. -/
def Reference.rootedPath (r : Reference) : Text := char '/' :: r.ownPath.dropWhile (· = '/')

/-- The path of a reference where it belongs. -/
def Reference.placedPath (r : Reference) : Text :=
  if r.isWhole then r.ownPath else withoutDots r.rootedPath

/-- What is wrong with the path of a reference. -/
def Reference.pathFault? (r : Reference) : Option Fault :=
  if !r.isPlaced && "//".toText.isPrefixOf r.path then some .twoSlashes
  else if !r.isPlaced && r.path.head? = some (char ':') then some .colonInFront
  else none

/-- What is wrong with a reference whose parts are to be escaped. -/
def Reference.codingFault? (r : Reference) : Option Fault :=
  (Target.codingFault? r.ownPath).or <|
    (r.query.bind Target.codingFault?).or <| r.fragment.bind Target.codingFault?

/-- What is wrong with the length of a reference that is not a whole URL. -/
def Reference.lengthFault? (r : Reference) : Option Fault :=
  if r.isWhole then none
  else if escapedLength escapedInPath r.rootedPath > lengthLimit then some .pathTooLong
  else if r.query.any (escapedLength escapedInQuery · > lengthLimit) then some .queryTooLong
  else none

/-- The protocols by which the service is reached. -/
def protocols : List Text := ["http".toText, "https".toText]

/-- What is wrong with the protocol of a whole URL. -/
def Reference.protocolFault? (r : Reference) : Option Fault :=
  if r.isWhole && !protocols.contains r.protocol then some (.otherProtocol r.protocol) else none

/-- What is wrong with the characters of a target. -/
def textFault? (t : Text) : Option Fault :=
  if t.length > lengthLimit then some .tooLong
  else (t.find? isControl).map fun c => .notPrintable c (t.idxOf c)

/-- What is wrong with a target that has the given parts: its first fault. -/
def fault? (t : Text) (r : Reference) : Option Fault :=
  (textFault? t).or <| (codingFault? r.user).or <| (hostFault? r.host).or <|
    (portFault? r.port).or <| r.pathFault?.or <| r.codingFault?.or <|
      r.lengthFault?.or r.protocolFault?

/-- The path that the service sees of a target, if it is text. -/
def path? (t : Text) : Except Fault (Option Text) :=
  let r := reference t
  match fault? t r with
  | some fault => .error fault
  | none => .ok ((unescape? r.placedPath).bind unescape?)

end Target

end Service

end ProxySelection
