import ProxySelection.Table.Basic
import ProxySelection.Json.Reader
import ProxySelection.Text.Lines
import ProxySelection.Text.Native

/-!
Route tables in files.

A file holds UTF-8 text in JSON: a list of routes, or an object whose member `proxies` is one.
Items that are no route are reported and left out. A file that cannot be read as JSON, or holds
something else, gives no table. How deep arrays and objects may lie inside each other is not for
the file to say: `depth` is what the reader has room for where it is called.
-/

namespace ProxySelection

namespace RouteTable

/-- What is found under the path of a file. -/
inductive File where
  | missing
  | directory
  | octets (contents : List UInt8)

/-- Why a file gives no table. -/
inductive LoadFault where
  /-- The path is not taken by the operating system. -/
  | notPath (fault : Text.NativeFault)
  /-- There is nothing under the path. -/
  | missing (path : Text)
  /-- There is a directory under the path. -/
  | directory (path : Text)
  /-- The contents are not JSON. -/
  | notJson (path : Text) (contents : Text) (complaint : Json.Complaint) (offset : Nat)
  /-- The contents are JSON of another form. -/
  | notTable (path : Text)
  /-- The contents are not UTF-8. -/
  | notText
  /-- An integer in the contents has too many digits. -/
  | integer (fault : Decimal.Fault)
  /-- An array or object in the contents lies too deep inside others. -/
  | tooDeep (container : Json.Container)

/-- That the file under a path cannot be loaded, and why. -/
def cannotLoad (path reason : Text) : Text :=
  "Cannot load proxy list ".toText ++ path ++ ": ".toText ++ reason

/-- The wording of a fault. -/
def LoadFault.message : LoadFault → Text
  | .notPath fault => fault.message
  | .missing path =>
    cannotLoad path ("[Errno 2] No such file or directory: ".toText ++ Text.quoted path)
  | .directory path => cannotLoad path ("[Errno 21] Is a directory: ".toText ++ Text.quoted path)
  | .notJson path contents complaint offset =>
    cannotLoad path ((Json.Fault.notJson complaint offset).message contents)
  | .notTable path =>
    "Proxy list ".toText ++ path ++
      " must be a JSON array or \x7b\"proxies\": [...]\x7d".toText
  | .notText => "the contents are not UTF-8".toText
  | .integer fault => fault.message
  | .tooDeep container => (Json.Fault.tooDeep container).message []

/-- The name of the member that may hold the list. -/
def listName : Text := "proxies".toText

/-- The list of a file's value. -/
def listOf : Json → Option (List Json)
  | .arr items => some items
  | .obj ms =>
    match Members.get? listName ms with
    | none => some []
    | some (.arr items) => some items
    | some _ => none
  | _ => none

/-- The items in a file's contents. -/
def itemsOf (depth : Nat) (path : Text) (contents : List UInt8) :
    Except LoadFault (List Json) :=
  match Utf8.decode contents with
  | none => .error .notText
  | some t =>
    let t := t.withLineFeeds
    match Json.read depth t with
    | .error (.notJson complaint offset) => .error (.notJson path t complaint offset)
    | .error (.integer fault) => .error (.integer fault)
    | .error (.tooDeep container) => .error (.tooDeep container)
    | .ok v =>
      match listOf v with
      | some items => .ok items
      | none => .error (.notTable path)

/-- The table with those of the items that are routes at its end. `index` counts the items
before them. -/
def addValid (path : Text) (t : RouteTable) (index : Nat) : List Json → Run RouteTable
  | [] => return t
  | v :: vs => do
    match Route.check v with
    | .ok r =>
      let t ← t.append r
      addValid path t (index + 1) vs
    | .error issues =>
      Run.note (.rejectedItem index path issues.length)
      addValid path t (index + 1) vs

/-- The table of the items that are routes. -/
def ofItems (path : Text) (items : List Json) : Run RouteTable := do
  let t ← addValid path empty 0 items
  Run.note (.loaded t.size path)
  return t

/-- The table of a file. -/
def load (depth : Nat) (path : Text) (file : File) : Attempt LoadFault RouteTable := do
  match Text.nativeFault? path, file with
  | some fault, _ => throw (.notPath fault)
  | none, .missing => throw (.missing path)
  | none, .directory => throw (.directory path)
  | none, .octets contents =>
    let items ← Attempt.ofExcept (itemsOf depth path contents)
    ofItems path items

/-- Whether there is something under a path. -/
def isThere (path : Text) (file : File) : Bool :=
  (Text.nativeFault? path).isNone && file matches .directory | .octets _

/-- The table of a file, and an empty one with a warning if there is nothing under the path. -/
def loadOrEmpty (depth : Nat) (path : Text) (file : File) : Attempt LoadFault RouteTable := do
  if isThere path file then load depth path file
  else
    Run.note (.noTable path)
    return empty

end RouteTable

end ProxySelection
