import ProxySelection.Session
import ProxySelection.Url.Basic

/-!
Matching: whether a pattern is for a URL.

Protocol, host and path of a pattern have each to be for that of the URL; a value that is no
URL is matched by nothing but `<all_urls>`. `Pattern.covers` judges a read pattern,
`Pattern.test` a value that may be one, by way of the cache. Showing the remote host of a URL
could fail in general, and so can showing a value that is no URL; both carry these failures.
-/

namespace ProxySelection

namespace Pattern

/-- Whether a pattern is for a URL that has been read. -/
def coversUrl (p : Pattern) (u : Url) : Except Decimal.Fault Bool :=
  if p.schemes.covers u.protocol then do
    let remote ← u.remote
    return p.hostRule.covers remote && p.path.accepts u.path
  else .ok false

/-- Whether a pattern is for a value. -/
def covers (p : Pattern) (url : Json) : Except Decimal.Fault Bool :=
  if p.isEverything then .ok true
  else do
    match ← Url.ofJson url with
    | .ok u => p.coversUrl u
    | .error _ => return false

/-- The pattern that a value denotes. -/
def ofJson? : Json → Option Pattern
  | .str t => compile t
  | _ => none

/-- Whether a value is a pattern that is for another value, the cache put aside. -/
def testFresh (pattern url : Json) : Except Decimal.Fault Bool :=
  match ofJson? pattern with
  | some p => p.covers url
  | none => .ok false

/-- What a value gives as a pattern, by way of the cache. -/
def look (pattern : Json) : Run (Option Compiled) :=
  match pattern with
  | .str t => Run.compile t
  | _ => pure none

/-- Whether a value is a pattern that is for another value. -/
def test (pattern url : Json) : Attempt Decimal.Fault Bool := do
  match pattern with
  | .str t =>
    if t = allUrls then return true
    else
      match ← Run.compile t with
      | some c => Attempt.ofExcept (c.pattern.covers url)
      | none => return false
  | _ => return false

end Pattern

end ProxySelection
