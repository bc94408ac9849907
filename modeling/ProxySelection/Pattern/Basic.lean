import ProxySelection.Pattern.Glob
import ProxySelection.Pattern.Host

/-!
Match patterns: which URLs a route is for.

A pattern is `<all_urls>`, or a scheme, `://`, a host, `/` and a glob. The scheme is `http`,
`https` or `*` for both; the host is `*`, or a text without `*`, in front of which `*.` may
stand. `parse` reads a pattern, and tells which half is at fault in one that is none;
`Pattern.Grammar` states the texts that it reads.
-/

namespace ProxySelection

/-- The protocols that routing knows. -/
inductive WebProtocol where
  | http
  | https
  deriving DecidableEq

/-- The name of a protocol. -/
def WebProtocol.name : WebProtocol → Text
  | .http => "http".toText
  | .https => "https".toText

/-- The protocol of a name. -/
def WebProtocol.ofName? (t : Text) : Option WebProtocol :=
  if t = WebProtocol.http.name then some .http
  else if t = WebProtocol.https.name then some .https
  else none

/-- Which protocols a pattern is for. -/
inductive SchemeRule where
  | any
  | only (p : WebProtocol)
  deriving DecidableEq

namespace SchemeRule

/-- The protocols that a rule is for, in alphabetical order. -/
def protocols : SchemeRule → List WebProtocol
  | .any => [.http, .https]
  | .only p => [p]

/-- The rule that the scheme of a pattern stands for. -/
def ofText? (t : Text) : Option SchemeRule :=
  if t = [char '*'] then some .any else (WebProtocol.ofName? t).map .only

/-- Whether a rule is for a protocol. -/
def covers (r : SchemeRule) (protocol : Option Text) : Bool :=
  match protocol.bind WebProtocol.ofName? with
  | some p => r.protocols.contains p
  | none => false

end SchemeRule

/-- A pattern that has been read: its source, and what its parts are for. -/
structure Pattern where
  source : Text
  schemes : SchemeRule
  host : Text
  path : Glob
  deriving DecidableEq

namespace Pattern

/-- The pattern that is for every URL, and for texts that are no URL too. -/
def allUrls : Text := "<all_urls>".toText

/-- The pattern of that source. -/
def everything : Pattern where
  source := allUrls
  schemes := .any
  host := [char '*']
  path := Glob.ofText [char '*']

/-- Whether this is the pattern for every URL. -/
def isEverything (p : Pattern) : Bool := p.source == allUrls

/-- The rule of the host. -/
def hostRule (p : Pattern) : HostRule := .ofText p.host

/-- The mark between scheme and host. -/
def schemeMark : Text := "://".toText

/-- A host of a pattern is `*`, or is not empty and holds no `*` once a leading `*.` is taken
off. -/
def isHost (host : Text) : Bool :=
  host == [char '*'] ||
    let domain := (HostRule.suffixMark.isPrefixOf? host).getD host
    !domain.isEmpty && !domain.contains '*'

/-- Why a text is no pattern. -/
inductive Fault where
  | empty
  /-- There is no mark, or an unknown scheme in front of it. -/
  | scheme
  /-- There is no `/` after the mark, or no host in front of it. -/
  | host
  deriving DecidableEq

/-- The pattern that a text denotes. -/
def parse (t : Text) : Except Fault Pattern :=
  if t.isEmpty then .error .empty
  else if t = allUrls then .ok everything
  else
    match Text.cutAt schemeMark t with
    | (_, none) => .error .scheme
    | (scheme, some rest) =>
      match SchemeRule.ofText? scheme with
      | none => .error .scheme
      | some schemes =>
        match Text.cut '/' rest with
        | (_, none) => .error .host
        | (host, some path) =>
          if isHost host then
            .ok { source := t, schemes, host, path := Glob.ofText (char '/' :: path) }
          else .error .host

/-- The pattern that a text denotes, if it is one. -/
def compile (t : Text) : Option Pattern := (parse t).toOption

/-! ### Grammar -/

/-- The domains of patterns. -/
def IsDomain (d : Text) : Prop := d ≠ [] ∧ char '*' ∉ d

/-- The hosts of patterns. -/
inductive IsHost : Text → Prop where
  | any : IsHost [char '*']
  | below {d : Text} : IsDomain d → char '/' ∉ d → IsHost (char '*' :: char '.' :: d)
  | exact {d : Text} : IsDomain d → char '/' ∉ d → IsHost d

/-- The schemes of patterns and what they are for. -/
inductive IsScheme : Text → SchemeRule → Prop where
  | any : IsScheme [char '*'] .any
  | only (p : WebProtocol) : IsScheme p.name (.only p)

/-- `Grammar t s h g`: the text `t` is a pattern of scheme rule `s`, host `h` and a glob that
is `/` and `g`. -/
inductive Grammar : Text → SchemeRule → Text → Text → Prop where
  | mk {scheme host : Text} {rule : SchemeRule} (glob : Text) :
      IsScheme scheme rule → IsHost host →
      Grammar (scheme ++ schemeMark ++ host ++ char '/' :: glob) rule host glob

end Pattern

end ProxySelection
