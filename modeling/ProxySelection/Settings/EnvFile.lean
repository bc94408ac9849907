import ProxySelection.Text.Blank
import ProxySelection.Text.Native

/-!
Environment files: lines of the form `NAME=value`.

A binding may be introduced by `export`; the name and the value may stand in apostrophes, the
value also in double quotes, and then it may go over several lines. A comment starts with `#`
at the beginning of a line or after a blank. Inside quotes a backslash escapes. A line of
another form is left out. Values may refer to others as `${NAME}` or, with a default, as
`${NAME:-default}`. Of a name that comes twice the last value counts. A variable that cannot
be set makes the file faulty.
-/

namespace ProxySelection

namespace EnvFile

/-- A name, and its value if it is given one. -/
abbrev Binding := Text × Option Text

/-- A blank that does not end a line. -/
def isInlineBlank (c : CodePoint) : Bool := isBlank c && c != '\n' && c != '\r'

/-- A line end. -/
def endsLine (c : CodePoint) : Bool := c = '\n' || c = '\r'

/-- The text after blanks that do not end a line. -/
def skipInline (t : Text) : Text := t.dropWhile isInlineBlank

/-- The text after `export` and blanks, if it starts so. -/
def skipExport (t : Text) : Text :=
  match "export".toText.isPrefixOf? t with
  | some rest => if (rest.takeWhile isInlineBlank).isEmpty then t else skipInline rest
  | none => t

/-! ### Names -/

/-- A character of a name without quotes. -/
def isNameChar (c : CodePoint) : Bool := !(c = '=' || c = '#' || isBlank c)

/-- The name in front of a text and what follows: none where a comment stands. -/
def name? (t : Text) : Option (Option Text × Text) :=
  match t with
  | char '#' :: _ => some (none, t)
  | char '\x27' :: r =>
    match Text.cut '\x27' r with
    | (name, some rest) => if name.isEmpty then none else some (some name, rest)
    | (_, none) => none
  | _ =>
    let name := t.takeWhile isNameChar
    if name.isEmpty then none else some (some name, t.dropWhile isNameChar)

/-! ### Values -/

/-- The quoted value in front of a text that follows its opening mark, escapes left as they
are, and what follows the closing mark. A backslash goes together with the character after
it. -/
def cutQuoted (mark : CodePoint) : Text → Option (Text × Text)
  | char '\\' :: c :: t =>
    (cutQuoted mark t).map fun (value, rest) => (char '\\' :: c :: value, rest)
  | c :: t =>
    if c = mark then some ([], t)
    else if c = '\\' then none
    else (cutQuoted mark t).map fun (value, rest) => (c :: value, rest)
  | [] => none

/-- What a backslash and a character stand for between double quotes. -/
def doubleEscape? : CodePoint → Option CodePoint
  | char '\\' => some (char '\\')
  | char '\x27' => some (char '\x27')
  | char '\x22' => some (char '\x22')
  | char 'a' => some (char '\x07')
  | char 'b' => some (char '\x08')
  | char 'f' => some (char '\x0c')
  | char 'n' => some (char '\n')
  | char 'r' => some (char '\r')
  | char 't' => some (char '\t')
  | char 'v' => some (char '\x0b')
  | _ => none

/-- What a backslash and a character stand for between apostrophes. -/
def singleEscape? : CodePoint → Option CodePoint
  | char '\\' => some (char '\\')
  | char '\x27' => some (char '\x27')
  | _ => none

/-- The text with its escapes replaced. -/
def unescape (escape? : CodePoint → Option CodePoint) : Text → Text
  | char '\\' :: c :: t =>
    match escape? c with
    | some x => x :: unescape escape? t
    | none => char '\\' :: unescape escape? (c :: t)
  | c :: t => c :: unescape escape? t
  | [] => []

/-- The text before the first blanks that `#` follows. -/
def beforeComment : Text → Text
  | [] => []
  | c :: t =>
    if isBlank c && (t.dropWhile isBlank).head? == some (char '#') then []
    else c :: beforeComment t

/-- The value in front of a text that follows an equals sign, and what follows. After blanks
a comment may stand in the place of a value, which is empty then. -/
def value? (t : Text) : Option (Text × Text) :=
  match skipInline t with
  | char '\x27' :: r => (cutQuoted '\x27' r).map fun (v, rest) => (unescape singleEscape? v, rest)
  | char '\x22' :: r => (cutQuoted '\x22' r).map fun (v, rest) => (unescape doubleEscape? v, rest)
  | start =>
    let line := t.takeWhile (!endsLine ·)
    some (Text.trim (beforeComment line), start.dropWhile (!endsLine ·))

/-! ### Bindings -/

/-- The text after a comment, if there is one. -/
def skipComment (t : Text) : Text :=
  match skipInline t with
  | char '#' :: r => r.dropWhile (!endsLine ·)
  | _ => t

/-- The text after a line end, which the end of the text is too. -/
def lineEnd? (t : Text) : Option Text :=
  match skipInline t with
  | [] => some []
  | c :: r => if endsLine c then some r else none

/-- The text after the rest of the line. -/
def skipLine (t : Text) : Text := (t.dropWhile (!endsLine ·)).drop 1

/-- The name in front of a text with its value, none in the place of a comment or of a line of
another form, and what follows. -/
def binding (t : Text) : Option Binding × Text :=
  let start := skipExport t
  match name? start with
  | none => (none, skipLine start)
  | some (name, rest) =>
    let rest := skipInline rest
    let (value, rest, sound) : Option Text × Text × Bool := match rest with
      | char '=' :: r =>
        match value? r with
        | some (v, rest) => (some v, rest, true)
        | none => (none, skipInline r, false)
      | _ => (none, rest, true)
    if sound then
      match lineEnd? (skipComment rest) with
      | some rest => (name.map (·, value), rest)
      | none => (none, skipLine (skipComment rest))
    else (none, skipLine rest)

/-- The bindings of a text, at most `limit` of them. -/
def bindingsUpTo : (limit : Nat) → Text → List Binding
  | 0, _ => []
  | limit + 1, t =>
    match t.dropWhile isBlank with
    | [] => []
    | start =>
      let (b, rest) := binding start
      b.toList ++ bindingsUpTo limit rest

/-- The bindings of a text, every one of which takes at least one character. -/
def bindings (t : Text) : List Binding := bindingsUpTo t.length t

/-! ### References -/

/-- The name and the default of a reference whose text follows `${`, and what follows it. -/
def reference? (t : Text) : Option (Text × Text × Text) :=
  let inside (c : CodePoint) := c != '\x7d' && c != ':'
  let name := t.takeWhile inside
  match t.dropWhile inside with
  | char '\x7d' :: rest => some (name, [], rest)
  | char ':' :: char '-' :: r =>
    match Text.cut '\x7d' r with
    | (fallback, some rest) => some (name, fallback, rest)
    | (_, none) => none
  | _ => none

/-- The text with its references replaced by what `look` gives, at most `limit` characters
far. -/
def resolveUpTo (look : Text → Option (Option Text)) : (limit : Nat) → Text → Text
  | 0, t => t
  | _ + 1, [] => []
  | limit + 1, char '$' :: char '\x7b' :: t =>
    match reference? t with
    | some (name, fallback, rest) =>
      (match look name with
        | some value => value.getD []
        | none => fallback) ++ resolveUpTo look limit rest
    | none => char '$' :: resolveUpTo look limit (char '\x7b' :: t)
  | limit + 1, c :: t => c :: resolveUpTo look limit t

/-- The bindings with a further one, which takes the place of an earlier one of its name. -/
def bind (bs : List Binding) (b : Binding) : List Binding :=
  if bs.any (·.1 == b.1) then bs.map fun earlier => if earlier.1 = b.1 then b else earlier
  else bs ++ [b]

/-- The bindings with their references replaced, by the variables that are set already and
then by the bindings before. -/
def resolveAll (isSet : Text → Option Text) : (before : List Binding) → List Binding →
    List Binding
  | before, [] => before
  | before, (name, value) :: bs =>
    let look (n : Text) : Option (Option Text) :=
      match isSet n with
      | some v => some (some v)
      | none => before.lookup n
    let value := value.map fun v => resolveUpTo look v.length v
    resolveAll isSet (bind before (name, value)) bs

/-! ### Setting variables -/

/-- Why a variable cannot be set. -/
inductive Fault where
  /-- Its name or its value is not taken by the operating system. -/
  | notNative (fault : Text.NativeFault)
  /-- Its name holds an equals sign. -/
  | equalsInName
  deriving DecidableEq

/-- The wording of a fault. -/
def Fault.message : Fault → Text
  | .notNative fault => fault.message
  | .equalsInName => "illegal environment variable name".toText

/-- A variable and its value, if it can be set. Both are encoded before either is looked at for
null characters. -/
def settable (b : Text × Text) : Except Fault (Text × Text) :=
  match Text.encodingFault? b.1 <|> Text.encodingFault? b.2 <|> Text.nullFault? b.1 <|>
      Text.nullFault? b.2 with
  | some fault => .error (.notNative fault)
  | none => if b.1.contains '=' then .error .equalsInName else .ok b

/-- The text without a byte order mark in front. -/
def withoutMark : Text → Text
  | char '\uFEFF' :: t => t
  | t => t

/-- The variables that a file sets besides those that are set already. -/
def read (isSet : Text → Option Text) (t : Text) : Except Fault (List (Text × Text)) :=
  let unset := (resolveAll isSet [] (bindings (withoutMark t))).filterMap fun b =>
    if (isSet b.1).isSome then none else b.2.map (b.1, ·)
  unset.mapM settable

end EnvFile

end ProxySelection
