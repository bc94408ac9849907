import ProxySelection.CommandLine.Run

/-!
The program: takes the variables, the file of variables and the file of routes from where it
runs, and prints what a run comes to.

No socket is opened here, so a run that would serve ends as one whose service does not come up.
-/

namespace ProxySelection

namespace Program

/-- How deep arrays and objects may lie inside each other in the file of routes. -/
def depth : Nat := 991

/-- The variables of the program and their values, those of the file `.env` included. -/
def environment : IO (Except Settings.Fault Settings.Environment) := do
  let mut env := []
  for name in Settings.variableNames do
    if let some value ← IO.getEnv (Text.string name) then
      env := env ++ [(name, value.toText)]
  match ← (IO.FS.readFile ".env").toBaseIO with
  | .ok file => return Settings.environment env (some file.toText)
  | .error _ => return Settings.environment env none

/-- What is found under a path. -/
def find (path : Text) : IO RouteTable.File := do
  match ← (IO.FS.readBinFile (Text.string path)).toBaseIO with
  | .ok contents => return .octets contents.toList
  | .error (.inappropriateType ..) => return .directory
  | .error _ => return .missing

/-- Where a run takes place that looks for its routes under `path`. -/
def world (path : Option Text) : IO CommandLine.World := do
  match path with
  | none => return ⟨depth, fun _ => .missing, false⟩
  | some path =>
    let file ← find path
    return ⟨depth, fun p => if p = path then file else .missing, false⟩

/-- Shows the notices from a level up. -/
def showNotices (least : Level) (notices : List Notice) : IO Unit :=
  notices.forM fun n => do
    if least.rank ≤ n.level.rank then
      IO.eprintln (Text.string (char '[' :: n.level.name ++ "] ".toText ++ n.message))

/-- Shows how a run ends and gives its exit code. -/
def conclude : Except CommandLine.Fault CommandLine.Ending → IO UInt32
  | .ok (.stopped stop) => do
    IO.eprintln (Text.string Options.usage)
    return stop.code.toUInt32
  | .ok (.finished report) => do
    IO.print (Text.string report.output)
    return report.code.toUInt32
  | .error fault => do
    IO.eprintln (Text.string fault.message)
    return 1

/-- A run in an environment. -/
def runIn (env : Settings.Environment) (arguments : List Text) : IO UInt32 := do
  let world ← world (CommandLine.routesPath env arguments)
  let (ending, session) := (CommandLine.run world env arguments).outcome.run .start
  let least := ((Settings.ofEnvironment env).toOption.map (·.level)).getD .info
  showNotices least session.notices
  conclude ending

end Program

end ProxySelection

open ProxySelection Program in
/-- The program. -/
def main (arguments : List String) : IO UInt32 := do
  match ← environment with
  | .ok env => runIn env (arguments.map String.toText)
  | .error fault => conclude (.error (.settings fault))
