import ProxySelection.Pattern.Basic
import ProxySelection.Notice

/-!
A cache of read patterns.

The cache holds up to `capacity` texts in the order in which they came, each with what
reading it gave, texts that are no pattern included. A new text drives out the oldest one;
reading a text again changes nothing. With a capacity of zero or less nothing is held.

A pattern that has been read is a value of its own, told apart by a serial number, so that a
later look-up can be seen to give the same value again and not only an equal one. The pattern
for every URL is always the same value.
-/

namespace ProxySelection

/-- What tells one compiled pattern from another with equal contents. -/
inductive Compiled.Identity where
  /-- The one pattern for every URL. -/
  | everything
  /-- A pattern that was read, and the how manyth it was. -/
  | made (serial : Nat)
  deriving DecidableEq

/-- A pattern ready for use. -/
structure Compiled where
  identity : Compiled.Identity
  pattern : Pattern
  deriving DecidableEq

/-- The pattern for every URL. -/
def Compiled.everything : Compiled := ⟨.everything, .everything⟩

/-- A cache of read patterns. -/
structure PatternCache where
  capacity : Int
  /-- The texts held, the oldest first, and what each gave. -/
  held : List (Text × Option Compiled)
  /-- How many patterns have been made so far. -/
  made : Nat
  deriving DecidableEq

namespace PatternCache

/-- An empty cache. -/
def ofCapacity (capacity : Int) : PatternCache := ⟨capacity, [], 0⟩

/-- The texts held, the oldest first. -/
def keys (c : PatternCache) : List Text := c.held.map (·.1)

/-- How many texts are held. -/
def size (c : PatternCache) : Nat := c.held.length

/-- Whether a text is held. -/
def contains (c : PatternCache) (t : Text) : Bool := c.keys.contains t

/-- The notices that reading a text gives. -/
def noticesOf (t : Text) : List Notice :=
  match Pattern.parse t with
  | .error .scheme => [.badScheme t]
  | .error .host => [.badHost t]
  | _ => []

/-- Reads a text anew. -/
def make (c : PatternCache) (t : Text) : Option Compiled × PatternCache :=
  match Pattern.compile t with
  | none => (none, c)
  | some p =>
    if p.isEverything then (some .everything, c)
    else (some ⟨.made c.made, p⟩, { c with made := c.made + 1 })

/-- Puts what a text gave at the end, in the place of the oldest text if the cache is full. -/
def insert (c : PatternCache) (t : Text) (value : Option Compiled) : PatternCache :=
  let held := if (c.held.length : Int) ≥ c.capacity then c.held.drop 1 else c.held
  { c with held := held ++ [(t, value)] }

/-- What a text gives, from the cache if it is held there, and the notices of reading it if it
is not. -/
def get (c : PatternCache) (t : Text) : Option Compiled × PatternCache × List Notice :=
  if c.capacity ≤ 0 then
    let (value, c) := c.make t
    (value, c, noticesOf t)
  else
    match c.held.lookup t with
    | some value => (value, c, [])
    | none =>
      let (value, c) := c.make t
      (value, c.insert t value, noticesOf t)

/-- The cache with another capacity, and empty. -/
def resize (c : PatternCache) (capacity : Int) : PatternCache :=
  { c with capacity, held := [] }

/-- The cache without the texts held. -/
def clear (c : PatternCache) : PatternCache := { c with held := [] }

end PatternCache

end ProxySelection
