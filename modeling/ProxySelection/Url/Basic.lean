import ProxySelection.Url.Authority
import ProxySelection.Json.Literal

/-!
URLs as far as routing looks at them: protocol, credentials, host, port and path.

`parse` reads a text, `render` writes one. A port is kept as a number and as it was written,
so that `remote`, the unit in which hosts are compared, shows it in the way it was written
for as long as that denotes the number. Query and fragment are dropped.
-/

namespace ProxySelection

/-- A URL, or the empty one, which has no host. -/
structure Url where
  protocol : Option Text := none
  username : Option Text := none
  password : Option Text := none
  host : Option Text := none
  port : Option Int := none
  path : Text := [char '/']
  /-- The port as it was written. -/
  portText : Option Text := none
  deriving DecidableEq

namespace Url

/-- The URL without a host. -/
def empty : Url := {}

/-- Whether there is no host. -/
def isEmpty (u : Url) : Bool := u.host.isNone

/-! ### Reading -/

/-- Why a value is no URL. -/
inductive Fault where
  /-- The value is no text, or a blank one. -/
  | notUrl (raw : Json)
  /-- The authority is malformed. -/
  | invalid (raw : Text) (fault : Authority.Fault)
  /-- There is no host, or a blank in the authority. -/
  | badHost (raw : Text)

/-- The wording of a fault. -/
def Fault.message : Fault → Text
  | .notUrl raw => "Not a URL: ".toText ++ raw.literal
  | .invalid raw fault =>
    "Invalid URL ".toText ++ Text.quoted raw ++ ": ".toText ++ fault.message
  | .badHost raw => "Invalid host in URL ".toText ++ Text.quoted raw

/-- A character of a protocol name after its first one. -/
def isProtocolChar (c : CodePoint) : Bool := c.isAlphanum || c = '+' || c = '.' || c = '-'

/-- The mark between the protocol and the rest. -/
def protocolMark : Text := "://".toText

/-- The protocol in front of a text, in lower case, and what follows its mark. -/
def cutProtocol (t : Text) : Option Text × Text :=
  match t with
  | c :: r =>
    if c.isAlpha then
      match protocolMark.isPrefixOf? (r.dropWhile isProtocolChar) with
      | some rest => (some ((c :: r.takeWhile isProtocolChar).map CodePoint.toLower), rest)
      | none => (none, t)
    else (none, t)
  | [] => (none, t)

/-- The characters that vanish from a URL wherever they stand. -/
def isBreak (c : CodePoint) : Bool := c = '\t' || c = '\n' || c = '\r'

/-- The characters that end the authority. -/
def endsAuthority (c : CodePoint) : Bool := c = '/' || c = '?' || c = '#'

/-- The characters that end the path. -/
def endsPath (c : CodePoint) : Bool := c = '?' || c = '#'

/-- The text of the authority of what follows the protocol. -/
def authorityText (rest : Text) : Text := rest.takeWhile fun c => !endsAuthority c

/-- The text of the path of what follows the protocol. -/
def pathText (rest : Text) : Text :=
  (rest.dropWhile fun c => !endsAuthority c).takeWhile fun c => !endsPath c

/-- The URL of a text without blanks around it. -/
def parseTrimmed (t : Text) : Except Fault Url :=
  let (protocol, rest) := cutProtocol t
  let rest := rest.filter fun c => !isBreak c
  match Authority.read (authorityText rest) with
  | .error fault => .error (.invalid t fault)
  | .ok a =>
    if a.host.isEmpty || (authorityText rest).any isBlank then .error (.badHost t)
    else
      .ok {
        protocol
        username := a.username
        password := a.password
        host := some a.host
        port := a.port.map fun p => (p.1 : Int)
        path := if (pathText rest).isEmpty then [char '/'] else pathText rest
        portText := a.port.map (·.2) }

/-- The URL that a text denotes. -/
def parse (t : Text) : Except Fault Url :=
  if t.allBlank then .error (.notUrl (.str t)) else parseTrimmed t.trim

/-- The URL that a value denotes, which has to be a text. That another value is none is said by
showing it, and not every value can be shown. -/
def ofJson (v : Json) : Except Decimal.Fault (Except Fault Url) :=
  match v with
  | .str t => .ok (parse t)
  | v => if v.isShowable then .ok (.error (.notUrl v)) else .error .tooLongToWrite

/-! ### Writing -/

/-- The written port if it denotes the number, and else the number in decimal. -/
def portShown (written : Option Text) (port : Int) : Except Decimal.Fault Text := do
  let canonical ← Decimal.write port
  match written with
  | none => return canonical
  | some t =>
    if t.isDigits then
      if (← Decimal.read t) = port then return t else return canonical
    else return canonical

/-- Host and port, which is how hosts are compared. -/
def remote (u : Url) : Except Decimal.Fault Text :=
  match u.host, u.port with
  | none, _ => .ok []
  | some host, none => .ok host
  | some host, some port => do
    let shown ← portShown u.portText port
    return host ++ char ':' :: shown

/-- Whether an optional text is there and not empty. -/
def isGiven : Option Text → Bool
  | some (_ :: _) => true
  | _ => false

/-- The user part as written in front of the host, with `password` in the place of the URL's
own if that is not empty. -/
def userShown (u : Url) (password : Option Text) : Text :=
  match u.username with
  | some (c :: name) =>
    c :: name ++ (if isGiven u.password then char ':' :: password.getD [] else []) ++ [char '@']
  | _ => []

/-- The protocol with its mark, unless it is absent or empty. -/
def protocolShown (u : Url) : Text :=
  match u.protocol with
  | some (c :: name) => c :: name ++ protocolMark
  | _ => []

/-- The path, unless it is the root. -/
def pathShown (u : Url) : Text := if u.path = [char '/'] then [] else u.path

/-- The text of a URL that shows `password` in the place of its own. -/
def renderWith (u : Url) (password : Option Text) : Except Decimal.Fault Text :=
  if u.isEmpty then .ok []
  else do
    let remote ← u.remote
    return u.protocolShown ++ u.userShown password ++ remote ++ u.pathShown

/-- The text of a URL. -/
def render (u : Url) : Except Decimal.Fault Text := u.renderWith u.password

/-- What stands in the place of a password that is not to be seen. -/
def mask : Text := "***".toText

/-- The text of a URL with its password masked. -/
def redacted (u : Url) : Except Decimal.Fault Text := u.renderWith (some mask)

end Url

end ProxySelection
