import ProxySelection.Json.Token

/-!
Reading JSON: the value of a text, or the first complaint about it.

The reader goes through the tokens once and keeps the arrays and objects that are still open,
of which there may only be so many. Of a name that comes twice in an object the last value
stays.
-/

namespace ProxySelection

namespace Json

/-- An array or object that is still open. -/
inductive Frame where
  /-- The items so far, the last one first. -/
  | array (items : List Json)
  /-- The members so far and the name whose value is being read. -/
  | object (members : Members) (name : Text)

/-- What may come next. -/
inductive Expectation where
  | value
  | firstItem
  | firstName (outer : Members)
  | name (members : Members)
  | colon (members : Members) (name : Text)
  | separator

/-- How far reading has come: what may come next, inside which arrays and objects, or the
whole value. -/
inductive Progress where
  | inside (next : Expectation) (opened : List Frame)
  | complete (v : Json)

/-- A value takes its place in the innermost open array or object. -/
def Progress.supply (v : Json) : List Frame → Progress
  | [] => .complete v
  | .array items :: opened => .inside .separator (.array (v :: items) :: opened)
  | .object members name :: opened =>
    .inside .separator (.object (members.put name v) name :: opened)

/-- Opens an array or object, if there are fewer than `depth` open ones. -/
def Progress.enter (depth : Nat) (container : Container) (opened : List Frame) :
    Except Fault Progress :=
  if opened.length < depth then
    match container with
    | .array => .ok (.inside .firstItem (.array [] :: opened))
    | .object => .ok (.inside (.firstName []) opened)
  else .error (.tooDeep container)

/-- Reading where a value is expected. -/
def Progress.value (depth : Nat) (opened : List Frame) (token : Token) :
    Except Fault Progress :=
  match token.lexeme with
  | .openArray => Progress.enter depth .array opened
  | .openObject => Progress.enter depth .object opened
  | .string t => .ok (.supply (.str t) opened)
  | .scalar v => .ok (.supply v opened)
  | .broken fault => .error fault
  | _ => .error (.notJson .expectingValue token.offset)

/-- Reading where the name of a member is expected. -/
def Progress.name (members : Members) (opened : List Frame) (token : Token) :
    Except Fault Progress :=
  match token.lexeme with
  | .string t => .ok (.inside (.colon members t) opened)
  | .broken (.notJson complaint offset) => .error (.notJson complaint offset)
  | _ => .error (.notJson .expectingName token.offset)

/-- One token further. -/
def Progress.step (depth : Nat) (token : Token) : Progress → Except Fault Progress
  | .complete v =>
    match token.lexeme with
    | .finish => .ok (.complete v)
    | _ => .error (.notJson .extraData token.offset)
  | .inside .value opened => Progress.value depth opened token
  | .inside .firstItem opened =>
    match token.lexeme, opened with
    | .closeArray, .array _ :: outer => .ok (.supply (.arr []) outer)
    | _, _ => Progress.value depth opened token
  | .inside (.firstName members) opened =>
    match token.lexeme with
    | .closeObject => .ok (.supply (.obj []) opened)
    | _ => Progress.name members opened token
  | .inside (.name members) opened => Progress.name members opened token
  | .inside (.colon members name) opened =>
    match token.lexeme with
    | .colon => .ok (.inside .value (.object members name :: opened))
    | _ => .error (.notJson .expectingColon token.offset)
  | .inside .separator opened =>
    match token.lexeme, opened with
    | .comma, .array _ :: _ => .ok (.inside .value opened)
    | .comma, .object members _ :: outer => .ok (.inside (.name members) outer)
    | .closeArray, .array items :: outer => .ok (.supply (.arr items.reverse) outer)
    | .closeObject, .object members _ :: outer => .ok (.supply (.obj members) outer)
    | _, _ => .error (.notJson .expectingComma token.offset)

/-- Through all tokens. -/
def Progress.run (depth : Nat) : Progress → List Token → Except Fault Json
  | .complete v, [] => .ok v
  | .inside .., [] => .error (.notJson .expectingValue 0)
  | progress, token :: rest =>
    match progress.step depth token with
    | .ok next => next.run depth rest
    | .error fault => .error fault

/-- The value of a JSON text in which at most `depth` arrays and objects lie inside each
other. -/
def read (depth : Nat) (t : Text) : Except Fault Json :=
  if t.head? = some (char '\uFEFF') then .error (.notJson .byteOrderMark 0)
  else Progress.run depth (.inside .value []) (tokens 0 t)

/-! ### Wording of complaints -/

/-- A complaint in words, up to its place. -/
def Complaint.words : Complaint → Text
  | .expectingValue => "Expecting value: ".toText
  | .expectingComma => "Expecting ',' delimiter: ".toText
  | .expectingColon => "Expecting ':' delimiter: ".toText
  | .expectingName => "Expecting property name enclosed in double quotes: ".toText
  | .extraData => "Extra data: ".toText
  | .unterminatedString => "Unterminated string starting at: ".toText
  | .controlCharacter => "Invalid control character at: ".toText
  | .badEscape => "Invalid \\escape: ".toText
  | .badUnicodeEscape => "Invalid \\uXXXX escape: ".toText
  | .byteOrderMark => "Unexpected UTF-8 BOM (decode using utf-8-sig): ".toText

/-- A container in words. -/
def Container.name : Container → Text
  | .array => "array".toText
  | .object => "object".toText

/-- The line and column of an offset, both counted from one. -/
def place (t : Text) (offset : Nat) : Nat × Nat :=
  let before := t.take offset
  (before.count (char '\n') + 1, (before.reverse.takeWhile (· ≠ char '\n')).length + 1)

/-- The wording of a fault found in the text `t`. -/
def Fault.message (t : Text) : Fault → Text
  | .notJson complaint offset =>
    let (line, column) := place t offset
    complaint.words ++ "line ".toText ++ Decimal.ofNat line ++ " column ".toText ++
      Decimal.ofNat column ++ " (char ".toText ++ Decimal.ofNat offset ++ [char ')']
  | .integer fault => fault.message
  | .tooDeep container =>
    "maximum recursion depth exceeded while decoding a JSON ".toText ++ container.name ++
      " from a unicode string".toText

end Json

end ProxySelection
