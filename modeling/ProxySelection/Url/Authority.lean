import ProxySelection.Url.Address

/-!
The authority of a URL: `user:password@host:port`.

The user part ends at the last `@` and its name at the first `:`. A host in brackets ends at
the first `]`, any other at the first `:`. `read` checks brackets first, then characters that
fold to separators, then the port. Whether the host is usable is for the URL to say.
-/

namespace ProxySelection

/-- The parts of an authority. The port is kept as a number and as it was written. -/
structure Authority where
  username : Option Text
  password : Option Text
  host : Text
  port : Option (Nat × Text)
  deriving DecidableEq

namespace Authority

/-- Why a text is no authority. -/
inductive Fault where
  /-- Brackets without a partner, or with something around them. -/
  | brackets
  /-- An address of a future version that is malformed. -/
  | futureAddress
  /-- An IPv4 address in brackets. -/
  | ipv4InBrackets
  /-- A name in brackets that is no address. -/
  | notAddress (name : Text)
  /-- A character that compatibility normalization turns into a separator. -/
  | foldsToSeparator (authority : Text)
  /-- A port that is no sequence of ASCII digits. -/
  | portNotNumber (t : Text)
  /-- A port with more digits than can be read. -/
  | portUnreadable (fault : Decimal.Fault)
  /-- A port above 65535. -/
  | portOutOfRange
  deriving DecidableEq

/-- The wording of a fault. -/
def Fault.message : Fault → Text
  | .brackets => "Invalid IPv6 URL".toText
  | .futureAddress => "IPvFuture address is invalid".toText
  | .ipv4InBrackets => "An IPv4 address cannot be in brackets".toText
  | .notAddress name =>
    Text.quoted name ++ " does not appear to be an IPv4 or IPv6 address".toText
  | .foldsToSeparator authority =>
    "netloc '".toText ++ authority ++
      "' contains invalid characters under NFKC normalization".toText
  | .portNotNumber t => "Port could not be cast to integer value as ".toText ++ Text.quoted t
  | .portUnreadable fault => fault.message
  | .portOutOfRange => "Port out of range 0-65535".toText

/-! ### Brackets -/

/-- The name to check in an authority with brackets: what stands between the brackets after
the user part, or what precedes the port there if no bracket opens. -/
def bracketedName (hostPart : Text) : Except Fault Text :=
  match Text.cut '[' hostPart with
  | (before, some inside) =>
    let (name, after) := Text.cut ']' inside
    let tail := after.getD []
    if !before.isEmpty then .error .brackets
    else if tail.isEmpty ∨ tail.head? = some (char ':') then .ok name
    else .error .brackets
  | (_, none) => .ok (Text.cut ':' hostPart).1

/-- An address that may stand in brackets. -/
def checkName (name : Text) : Except Fault Unit :=
  if name.head? = some (char 'v') then
    if Address.isFuture name then .ok () else .error .futureAddress
  else if Address.isIPv4 name then .error .ipv4InBrackets
  else if Address.isIPv6 name then .ok ()
  else .error (.notAddress name)

/-- The part after the last `@`. -/
def hostPart (t : Text) : Text := (Text.cutLast '@' t).2

/-- Brackets come in both kinds or not at all, and then around an address. -/
def checkBrackets (t : Text) : Except Fault Unit :=
  if t.contains '[' != t.contains ']' then .error .brackets
  else if t.contains '[' then do checkName (← bracketedName (hostPart t))
  else .ok ()

/-! ### Characters that fold to separators -/

/-- The characters whose compatibility normalization holds one of `/ ? # @ :`. -/
def foldingCharacters : List Nat := [
  0x2047, 0x2048, 0x2049, 0x2100, 0x2101, 0x2105, 0x2106, 0x2A74, 0xFE13, 0xFE16, 0xFE55,
  0xFE56, 0xFE5F, 0xFE6B, 0xFF03, 0xFF0F, 0xFF1A, 0xFF1F, 0xFF20]

/-- No character folds to a separator. -/
def checkFolding (t : Text) : Except Fault Unit :=
  if t.any fun c => foldingCharacters.contains c.toNat then .error (.foldsToSeparator t)
  else .ok ()

/-! ### Host and port -/

/-- The host and the text of the port of what follows the user part. A bracket that opens and
does not close leaves no host. -/
def splitHost (t : Text) : Text × Text :=
  match t with
  | char '[' :: inside =>
    match Text.cut ']' inside with
    | (name, some after) => (char '[' :: name ++ [char ']'], after.drop 1)
    | (_, none) => ([], [])
  | _ =>
    let (host, port) := Text.cut ':' t
    (host, port.getD [])

/-- The port of its text: none of an empty one. -/
def readPort (t : Text) : Except Fault (Option (Nat × Text)) :=
  if t.isEmpty then .ok none
  else if !t.isAsciiDigits then .error (.portNotNumber t)
  else if t.length > Decimal.digitLimit then
    .error (.portUnreadable (.tooLongToRead t.length))
  else if Decimal.value t > 65535 then .error .portOutOfRange
  else .ok (some (Decimal.value t, t))

/-- The user name and password of a user part, which need not be there. -/
def splitUser : Option Text → Option Text × Option Text
  | none => (none, none)
  | some t =>
    let (name, password) := Text.cut ':' t
    (some name, password)

/-- The parts of an authority. -/
def read (t : Text) : Except Fault Authority := do
  checkBrackets t
  checkFolding t
  let (userPart, hostPart) := Text.cutLast '@' t
  let (username, password) := splitUser userPart
  let (host, portText) := splitHost hostPart
  let port ← readPort portText
  return { username, password, host, port }

end Authority

end ProxySelection
