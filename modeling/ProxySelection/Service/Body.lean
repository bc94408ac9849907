import ProxySelection.Json.Reader
import ProxySelection.Json.Writer
import ProxySelection.Service.Basic

/-!
The bodies of requests.

A body is a JSON object in any encoding of Unicode, and its members are checked. Where one does
not fit, the answer names every issue and shows the value it was found in: the value of the
member, or the whole body for a member that is missing. So the answer cannot be given if that
value has a number that is not finite, or a text with a surrogate.
-/

namespace ProxySelection

namespace Service

/-- Why a question is not taken from a body. -/
inductive Rejection where
  /-- The request is answered by a refusal. -/
  | refused (reply : Reply)
  /-- The request is not answered. -/
  | failed (fault : Fault)

/-- Issues found in a value, with what the answer shows of it. -/
def rejectFor (shown : List Json) (issues : List Issue) : Rejection :=
  if !shown.all Json.isFinite then .failed .notFinite
  else if shown.all Json.isEncodable then .refused (issuesReply issues)
  else .failed .notEncodable

/-- The members of a body, in which at most `depth` arrays and objects lie inside each other. -/
def members (depth : Nat) (body : List UInt8) : Except Rejection Members :=
  if body.isEmpty then .error (rejectFor [] [⟨[], .missing⟩])
  else
    match Encoding.read body with
    | none => .error (.refused unreadable)
    | some t =>
      match Json.read depth t with
      | .error (.notJson _ offset) => .error (rejectFor [] [⟨[.offset offset], .notJson⟩])
      | .error (.integer _) | .error (.tooDeep _) => .error (.refused unreadable)
      | .ok (.obj ms) => .ok ms
      | .ok v => .error (rejectFor [v] [⟨[], .notObject⟩])

/-- What an answer shows of a body with an issue. -/
def shownFor (ms : Members) (i : Issue) : Json :=
  match i.cause, i.path with
  | .missing, _ => .obj ms
  | _, .member name :: _ => Members.getD name ms
  | _, _ => .obj ms

/-- What a request asks about. -/
def question {α : Type} (depth : Nat) (check : Members → Checked α) (body : List UInt8) :
    Except Rejection α := do
  let ms ← members depth body
  match check ms with
  | .ok a => return a
  | .error issues => throw (rejectFor (issues.map (shownFor ms)) issues)

/-- The URL that a request asks about. -/
def urlOf (ms : Members) : Checked Text := .required ms "url".toText .text

/-- The pattern and the URL that a request asks about. -/
def patternAndUrlOf (ms : Members) : Checked (Text × Text) :=
  ((Checked.of Prod.mk).also (.required ms "pattern".toText .text)).also (urlOf ms)

end Service

end ProxySelection
