import ProxySelection.Text.Basic

/-!
Host rules: which remote hosts, written `host` or `host:port`, a pattern is for.

`*` is for every host, `*.` and a domain for the domain and all hosts below it, and anything
else for itself. `HostRule.Covers` states the second case by labels, the pieces between
points: the labels of the domain are the last ones of the host.
-/

namespace ProxySelection

/-- Which hosts a pattern is for. -/
inductive HostRule where
  /-- Every host. -/
  | any
  /-- The domain and all hosts below it. -/
  | suffix (domain : Text)
  /-- The host itself. -/
  | exact (remote : Text)
  deriving DecidableEq

namespace HostRule

/-- What a rule for a domain and the hosts below it starts with. -/
def suffixMark : Text := "*.".toText

/-- The rule that the host of a pattern stands for. -/
def ofText (host : Text) : HostRule :=
  if host = [char '*'] then .any
  else match suffixMark.isPrefixOf? host with
    | some domain => .suffix domain
    | none => .exact host

/-- Whether a rule is for a host. -/
def covers : HostRule → Text → Bool
  | .any, _ => true
  | .suffix domain, remote => remote == domain || (char '.' :: domain).isSuffixOf remote
  | .exact host, remote => remote == host

/-- The pieces of a host between its points. -/
def labels (host : Text) : List Text := Text.parts '.' host

/-- The hosts that a rule is for, a domain being compared label by label. -/
def Covers : HostRule → Text → Prop
  | .any, _ => True
  | .suffix domain, remote => labels domain <:+ labels remote
  | .exact host, remote => remote = host

end HostRule

end ProxySelection
