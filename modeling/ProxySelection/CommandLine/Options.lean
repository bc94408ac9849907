import ProxySelection.Number.Integer
import ProxySelection.Text.Lines

/-!
Options of the command line.

Every argument is first sorted into options and values; a long option may be shortened as long
as only one option starts so, and a shortening that fits several is refused before anything
else. Then the options are taken in order. `--help` ends this at once; a value that is missing
or is no integer, and a value for an option that takes none, refuse the command line; unknown
options and values without an option do so at the end. The mark `--` as the value after an
equals sign takes the value of the option away.
-/

namespace ProxySelection

/-- What the command line asks for. A value is none if it was taken away. -/
structure Options where
  config : Option Text
  apiPort : Option Int
  proxyPort : Option Int
  noProxy : Bool
  check : Option Text
  deriving DecidableEq

namespace Options

/-- How a command line ends that asks for nothing to be done. -/
inductive Stop where
  /-- The help was asked for. -/
  | help
  /-- The command line is refused. -/
  | usage
  deriving DecidableEq

/-- The exit code of a stop. -/
def Stop.code : Stop → Nat
  | .help => 0
  | .usage => 2

/-- The options. -/
inductive Name where
  | help
  | config
  | apiPort
  | proxyPort
  | noProxy
  | check
  deriving DecidableEq

/-- The options by their long names. -/
def longNames : List (Text × Name) := [
  ("--help".toText, .help), ("--config".toText, .config), ("--api-port".toText, .apiPort),
  ("--proxy-port".toText, .proxyPort), ("--no-proxy".toText, .noProxy),
  ("--check".toText, .check)]

/-- The short name of the help. -/
def shortHelp : Text := "-h".toText

/-- The mark after which no more options come. -/
def mark : Text := "--".toText

/-- How the program is called. -/
def usage : Text :=
  ("usage: [-h] [--config CONFIG] [--api-port API_PORT] [--proxy-port PROXY_PORT] " ++
    "[--no-proxy] [--check URL]").toText

/-! ### Sorting arguments -/

/-- What an argument is. -/
inductive Argument where
  /-- An option, with a value after `=` if there is one. -/
  | option (name : Name) (value : Option Text)
  /-- The short help with letters after it. -/
  | helpAndMore (letters : Text)
  /-- An option that is not known. -/
  | unknown
  /-- Something that may be the value of an option. -/
  | value (t : Text)
  /-- The mark after which no more options come, or something behind it. -/
  | afterMark

/-- Whether a text is written as a negative number. A line feed at its end does not count. -/
def isNegativeNumber (t : Text) : Bool :=
  match t.withoutFinalLineFeed with
  | char '-' :: r =>
    let isDecimal (c : CodePoint) := (Digit.decimal? c).isSome
    (!r.isEmpty && r.all isDecimal) ||
      match r.dropWhile isDecimal with
      | char '.' :: places => !places.isEmpty && places.all isDecimal
      | _ => false
  | _ => false

/-- The options that a shortened long name fits. -/
def fitting (name : Text) : List Name :=
  (longNames.filter fun n => name.isPrefixOf n.1).map (·.2)

/-- What an argument is that starts like an option and is not known in full. -/
def sortOther (t : Text) : Argument :=
  if isNegativeNumber t || t.contains ' ' then .value t else .unknown

/-- What an argument is. -/
def sort (t : Text) : Except Stop Argument :=
  let (name, value) := Text.cut '=' t
  if t.head? ≠ some (char '-') ∨ t.length = 1 then .ok (.value t)
  else
    match longNames.lookup name with
    | some n => .ok (.option n value)
    | none =>
      match shortHelp.isPrefixOf? t with
      | some [] => .ok (.option .help none)
      | some (char '=' :: letters) => .ok (.helpAndMore letters)
      | some letters => .ok (.helpAndMore letters)
      | none =>
        if "--".toText.isPrefixOf t then
          match fitting name with
          | [] => .ok (sortOther t)
          | [n] => .ok (.option n value)
          | _ => .error .usage
        else .ok (sortOther t)

/-- What the arguments are. -/
def sortAll : List Text → Except Stop (List Argument)
  | [] => .ok []
  | t :: ts =>
    if t = mark then .ok (.afterMark :: ts.map fun _ => .afterMark)
    else do
      let a ← sort t
      let rest ← sortAll ts
      return a :: rest

/-! ### Taking options -/

/-- What letters after the short help lead to. Each `h` asks for the help again, and no other
letter is an option. -/
def stopAfterHelp (letters : Text) : Stop :=
  if !letters.isEmpty && letters.all (· = 'h') then .help else .usage

/-- The integer that a text is, if the command line is not refused for it. -/
def integer (t : Text) : Except Stop Int := (Decimal.read t).mapError fun _ => .usage

/-- The options with a value for one that takes a value. -/
def withValue (o : Options) (n : Name) (t : Text) : Except Stop Options :=
  match n with
  | .config => .ok { o with config := some t }
  | .check => .ok { o with check := some t }
  | .apiPort => do return { o with apiPort := some (← integer t) }
  | .proxyPort => do return { o with proxyPort := some (← integer t) }
  | .help | .noProxy => .error .usage

/-- The options with the value of one taken away. -/
def withoutValue (o : Options) (n : Name) : Except Stop Options :=
  match n with
  | .config => .ok { o with config := none }
  | .check => .ok { o with check := none }
  | .apiPort => .ok { o with apiPort := none }
  | .proxyPort => .ok { o with proxyPort := none }
  | .help | .noProxy => .error .usage

/-- The options with what stands after the equals sign for one. -/
def withExplicit (o : Options) (n : Name) (t : Text) : Except Stop Options :=
  if t = mark then o.withoutValue n else o.withValue n t

/-- The options after the arguments. `strange` says that there has been one that belongs to
no option. -/
def take (o : Options) (strange : Bool) : List Argument → Except Stop Options
  | [] => if strange then .error .usage else .ok o
  | .option n (some t) :: rest => do take (← o.withExplicit n t) strange rest
  | .option .help none :: _ => .error .help
  | .option .noProxy none :: rest => take { o with noProxy := true } strange rest
  | .option n none :: .value t :: rest => do take (← o.withValue n t) strange rest
  | .option _ none :: _ => .error .usage
  | .helpAndMore letters :: _ => .error (stopAfterHelp letters)
  | .unknown :: rest => take o true rest
  | .value _ :: rest => take o true rest
  | .afterMark :: rest => take o true rest

/-- The options of a command line, with those of `defaults` where it names none. -/
def read (defaults : Options) (arguments : List Text) : Except Stop Options := do
  take defaults false (← sortAll arguments)

end Options

end ProxySelection
