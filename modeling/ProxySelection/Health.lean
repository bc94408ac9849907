import ProxySelection.Json.Literal

/-!
Waiting for the service to come up.

The service is asked for its state again and again until it answers with status 200 or the time
is over. An answer with another status is followed by the next question at once, a refused
connection by a pause of half a second. Asking takes time too. The clock counts in numbers of
64 bits, so that time is added up with rounding.
-/

namespace ProxySelection

namespace Health

/-- What asking the service comes to. -/
inductive Response where
  | status (code : Int)
  | refused
  deriving DecidableEq

/-- What is done while waiting. -/
inductive Action where
  | ask
  | pause
  deriving DecidableEq

/-- What waiting comes to: whether the service came up, and what was done until then. -/
structure Outcome where
  up : Bool
  actions : List Action
  deriving DecidableEq

/-- The outcome with actions before it. -/
def Outcome.after (actions : List Action) (o : Outcome) : Outcome :=
  { o with actions := actions ++ o.actions }

/-- The URL by which the service is asked for its state on a port. -/
def url (port : Json) : Text := "http://127.0.0.1:".toText ++ port.shown ++ "/health".toText

/-- How many seconds a question may take. -/
def askTimeout : Int := 1

/-- How many seconds are waited if nothing else is said. -/
def defaultTimeout : Int := 10

/-- How long a pause is, in seconds. -/
def pauseLength : Binary64 := .ofScaled 1 (-1)

/-- The actions while every further question is refused, at most `limit` of them. -/
def refusals (timeout cost : Binary64) : (limit : Nat) → (elapsed : Binary64) → List Action
  | 0, _ => []
  | limit + 1, elapsed =>
    if elapsed.isBelow timeout then
      .ask :: .pause :: refusals timeout cost limit ((elapsed.add cost).add pauseLength)
    else []

/-- How many questions with a pause after each fit into the time that is left. Rounding takes
away less than half of a step, so twice as many as without rounding are enough; if a question
and a pause take no time, there is no such number. -/
def questionsLeft (timeout cost elapsed : Binary64) : Nat :=
  match timeout.toRat?, cost.toRat?, elapsed.toRat? with
  | some timeout, some cost, some elapsed =>
    let step := cost + 1 / 2
    if 0 < step then 2 * ((timeout - elapsed) / step).ceil.toNat + 1 else 0
  | _, _, _ => 1

/-- Waiting until `timeout` seconds have passed, if the service answers as given and afterwards
not at all. Every question takes `cost` seconds. -/
def waitFrom (timeout cost : Binary64) : (elapsed : Binary64) → List Response → Outcome
  | elapsed, [] => ⟨false, refusals timeout cost (questionsLeft timeout cost elapsed) elapsed⟩
  | elapsed, r :: rs =>
    if elapsed.isBelow timeout then
      match r with
      | .status 200 => ⟨true, [.ask]⟩
      | .status _ => (waitFrom timeout cost (elapsed.add cost) rs).after [.ask]
      | .refused =>
        (waitFrom timeout cost ((elapsed.add cost).add pauseLength) rs).after [.ask, .pause]
    else ⟨false, []⟩

/-- Why waiting breaks off. -/
inductive Fault where
  /-- A time is no number. -/
  | notNumber
  deriving DecidableEq

/-- Waiting with times as they are given. How long a question takes is only seen when one is
asked. -/
def wait (timeout cost : Json) (responses : List Response) : Except Fault Outcome :=
  let start := Binary64.ofInt 0
  match timeout.toBinary64?, cost.toBinary64? with
  | none, _ => .error .notNumber
  | some timeout, some cost => .ok (waitFrom timeout cost start responses)
  | some timeout, none => if start.isBelow timeout then .error .notNumber else .ok ⟨false, []⟩

end Health

end ProxySelection
