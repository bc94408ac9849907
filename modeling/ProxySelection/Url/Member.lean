import ProxySelection.Validation.Scalar

/-!
URLs as objects with members, and overlays.

A URL is checked from an object member by member, or from a text by parsing it. `members`
lists the members of a URL the other way round. `overlay` gives a URL a new value: nothing or
an empty text clears it, a text replaces it, and an object changes the members that it names.
-/

namespace ProxySelection

namespace Url

/-- The name of the member that holds the protocol. -/
def protocolName : Text := "protocol".toText

/-- The name of the member that holds the user name. -/
def usernameName : Text := "username".toText

/-- The name of the member that holds the password. -/
def passwordName : Text := "password".toText

/-- The name of the member that holds the host. -/
def hostName : Text := "host".toText

/-- The name of the member that holds the port as a number. -/
def portName : Text := "port".toText

/-- The name of the member that holds the path. -/
def pathName : Text := "path".toText

/-- The name of the member that holds the port as it was written. -/
def portTextName : Text := "raw_port".toText

/-- The members of a URL. -/
def members (u : Url) : Members := [
  (protocolName, Json.ofText? u.protocol), (usernameName, Json.ofText? u.username),
  (passwordName, Json.ofText? u.password), (hostName, Json.ofText? u.host),
  (portName, Json.ofInt? u.port), (pathName, .str u.path),
  (portTextName, Json.ofText? u.portText)]

/-- The URL with the given members; those that are left out are as in the empty URL. -/
def ofMembers (ms : Members) : Checked Url :=
  (((((((Checked.of Url.mk).also
    (.member ms protocolName none .optionalText)).also
    (.member ms usernameName none .optionalText)).also
    (.member ms passwordName none .optionalText)).also
    (.member ms hostName none .optionalText)).also
    (.member ms portName none .optionalInteger)).also
    (.member ms pathName [char '/'] .text)).also
    (.member ms portTextName none .optionalText)

/-- The URL of a value: a text is parsed, an object checked member by member. -/
def check : Json → Checked Url
  | .str t =>
    match parse t with
    | .ok u => .ok u
    | .error fault => Checked.fail (.notUrl fault)
  | .obj ms => ofMembers ms
  | _ => Checked.fail (.notShape "Url".toText)

/-! ### Overlays -/

/-- Why a value does not change a URL. -/
inductive OverlayFault where
  /-- A text that is no URL. -/
  | text (fault : Fault)
  /-- An object with members that do not fit. -/
  | members (given : Members) (issues : List Issue)
  /-- An object with members that do not fit, which cannot be shown. -/
  | unshowable (fault : Decimal.Fault)
  /-- A value of another kind. -/
  | kind (k : Json.Kind)

/-- The wording of a fault. Of members that do not fit the issues are told apart from it. -/
def OverlayFault.message : OverlayFault → Text
  | .text fault => fault.message
  | .members given _ => "Invalid server fields ".toText ++ (Json.obj given).literal
  | .unshowable fault => fault.message
  | .kind k => "Cannot merge ".toText ++ k.name ++ " into Url".toText

/-- The fault of members that do not fit, which is worded by showing them. How deep they lie inside
each other is taken not to matter for that. -/
def OverlayFault.ofIssues (given : Members) (issues : List Issue) : OverlayFault :=
  if (Json.obj given).isShowable then .members given issues else .unshowable .tooLongToWrite

/-- The URL that results from `u` by a new value. -/
def overlay (u : Url) : Json → Except OverlayFault Url
  | .null => .ok empty
  | .str [] => .ok empty
  | .str t =>
    match parse t with
    | .ok w => .ok w
    | .error fault => .error (.text fault)
  | .obj ms =>
    match ofMembers (u.members.overlay ms) with
    | .ok w => .ok w
    | .error issues => .error (.ofIssues ms issues)
  | v => .error (.kind v.kind)

/-- What a URL may be changed by: a value, or another URL that takes its place. -/
inductive Change where
  | value (v : Json)
  | whole (u : Url)

/-- The URL that results from `u` by a change. -/
def apply (u : Url) : Change → Except OverlayFault Url
  | .value v => u.overlay v
  | .whole w => .ok w

end Url

end ProxySelection
