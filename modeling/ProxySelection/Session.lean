import ProxySelection.Pattern.Cache

/-!
Sessions: what lasts from one operation to the next, which is the cache of patterns and the
notices given so far.

An operation is a `Run`; one that may fail is an `Attempt`, and what a failed attempt has done
to the session stays done.
-/

namespace ProxySelection

/-- What lasts from one operation to the next. -/
structure Session where
  cache : PatternCache
  /-- The notices, the first one first. -/
  notices : List Notice
  deriving DecidableEq

/-- The capacity of a cache that nothing else is said about. -/
def Session.defaultCapacity : Int := 256

/-- The start of a session. -/
def Session.start : Session := ⟨.ofCapacity Session.defaultCapacity, []⟩

/-- An operation within a session. -/
abbrev Run := StateM Session

/-- An operation within a session that may fail. -/
abbrev Attempt (ε : Type) := ExceptT ε Run

namespace Run

/-- Gives a notice. -/
def note (n : Notice) : Run Unit := modify fun s => { s with notices := s.notices ++ [n] }

/-- What a text gives as a pattern, by way of the cache. -/
def compile (t : Text) : Run (Option Compiled) := do
  let s ← get
  let (value, cache, notices) := s.cache.get t
  set { s with cache, notices := s.notices ++ notices : Session }
  return value

/-- The cache with another capacity, and empty. -/
def resizeCache (capacity : Int) : Run Unit :=
  modify fun s => { s with cache := s.cache.resize capacity }

end Run

namespace Attempt

/-- An attempt whose outcome is known. -/
def ofExcept {ε α : Type} : Except ε α → Attempt ε α
  | .ok a => pure a
  | .error e => throw e

/-- The outcome of an attempt as a value. -/
def outcome {ε α : Type} (a : Attempt ε α) : Run (Except ε α) := a.run

end Attempt

end ProxySelection
