import ProxySelection.Route.Basic

/-!
Route tables: routes in order, of which the first that is enabled and matches a URL is selected.

Taking a route in, and changing the pattern of one, warns if the pattern is none. An operation
that fails leaves the table as it was.
-/

namespace ProxySelection

/-- Routes in order. -/
structure RouteTable where
  routes : List Route
  deriving DecidableEq

namespace RouteTable

/-- The table without routes. -/
def empty : RouteTable := ⟨[]⟩

/-- How many routes there are. -/
def size (t : RouteTable) : Nat := t.routes.length

/-- The patterns of the routes, in order. -/
def patterns (t : RouteTable) : List Text := t.routes.map (·.pattern)

/-- Why a table is not made of a value. -/
inductive Fault where
  /-- The value has no items to go through. -/
  | notIterable
  /-- An item is no route. -/
  | notRoute (issues : List Issue)

/-! ### Taking routes in -/

/-- Warns if the pattern of a route is none. -/
def announce (r : Route) : Run Unit := do
  if (← Run.compile r.pattern).isNone then Run.note (.neverMatches r.pattern)

/-- The table with a route at its end. -/
def append (t : RouteTable) (r : Route) : Run RouteTable := do
  announce r
  return ⟨t.routes ++ [r]⟩

/-- The route of a value, and the table with it at its end. -/
def add (t : RouteTable) (v : Json) : Attempt (List Issue) (Route × RouteTable) := do
  let r ← Attempt.ofExcept (Route.check v)
  return (r, ← t.append r)

/-- The table with the routes of values at its end. -/
def addAll (t : RouteTable) : List Json → Attempt (List Issue) RouteTable
  | [] => return t
  | v :: vs => do
    let (_, t) ← t.add v
    t.addAll vs

/-- The table with routes at its end. -/
def appendAll (t : RouteTable) : List Route → Run RouteTable
  | [] => return t
  | r :: rs => do (← t.append r).appendAll rs

/-- Whether a value counts as nothing. -/
def isNothing : Json → Bool
  | .null => true
  | .bool b => !b
  | .int n => n == 0
  | .float x => x.toInt? == some 0
  | .str t => t.isEmpty
  | .arr items => items.isEmpty
  | .obj ms => ms.isEmpty

/-- The items of a value: those of a list, the characters of a text, the names of an object.
A value that counts as nothing has none. -/
def items? : Json → Option (List Json)
  | .arr items => some items
  | .str t => some (t.map fun c => .str [c])
  | .obj ms => some (ms.map fun m => .str m.1)
  | v => if isNothing v then some [] else none

/-- The table of the items of a value. -/
def ofJson (v : Json) : Attempt Fault RouteTable :=
  match items? v with
  | none => throw .notIterable
  | some items => (empty.addAll items).adapt .notRoute

/-- The table of routes. -/
def ofRoutes (rs : List Route) : Run RouteTable := empty.appendAll rs

/-! ### Finding, changing and removing -/

/-- The first route of a pattern. -/
def find? (t : RouteTable) (pattern : Text) : Option Route :=
  t.routes.find? (·.pattern == pattern)

/-- How many routes have a pattern, and the table without them. -/
def remove (t : RouteTable) (pattern : Text) : Nat × RouteTable :=
  (t.routes.countP (·.pattern == pattern), ⟨t.routes.filter (·.pattern != pattern)⟩)

/-- The routes with the first one of a pattern replaced. -/
def replaceFirst (pattern : Text) (new : Route) : List Route → List Route
  | [] => []
  | r :: rs => if r.pattern = pattern then new :: rs else r :: replaceFirst pattern new rs

/-- The first route of a pattern as options change it, if there is one, and the table with it
in its place. -/
def update (t : RouteTable) (pattern : Text) (options : Json) :
    Attempt Url.OverlayFault (Option Route × RouteTable) := do
  match t.find? pattern with
  | none => return (none, t)
  | some r =>
    let new ← Attempt.ofExcept (r.update options)
    if new.pattern ≠ pattern then announce new
    return (some new, ⟨replaceFirst pattern new t.routes⟩)

/-! ### Selecting -/

/-- The first route among some that is enabled and matches a value. -/
def selectAmong (url : Json) : List Route → Attempt Decimal.Fault (Option Route)
  | [] => return none
  | r :: rs => do
    if r.disabled then selectAmong url rs
    else if ← r.test url then return some r
    else selectAmong url rs

/-- The first route that is enabled and matches a value. -/
def select (t : RouteTable) (url : Json) : Attempt Decimal.Fault (Option Route) :=
  selectAmong url t.routes

/-! ### Showing -/

/-- The routes as objects. -/
def describe (t : RouteTable) (redact : Bool) : Except Decimal.Fault (List Json) :=
  t.routes.mapM (·.describe redact)

end RouteTable

end ProxySelection
