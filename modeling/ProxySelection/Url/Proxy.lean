import ProxySelection.Url.Basic
import ProxySelection.Text.Base64
import ProxySelection.Text.Utf8

/-!
URLs as proxy servers: the address to connect to, and the credentials to show there.
-/

namespace ProxySelection

/-- A network address: host and port, and what further numbers some addresses have. -/
structure Endpoint where
  host : Text
  port : Int
  more : List Int := []
  deriving DecidableEq

namespace Url

/-- The port of a protocol that a URL without port stands for. -/
def defaultPort (protocol : Option Text) : Int :=
  if protocol = some "https".toText then 443 else 80

/-- A square bracket. -/
def isBracket (c : CodePoint) : Bool := c = '[' || c = ']'

/-- The address of a proxy server, which an empty URL does not have: the host without its
brackets, and the port, or that of the protocol if the port is missing or zero. -/
def endpoint (u : Url) : Option Endpoint :=
  u.host.map fun host => {
    host := host.trimWhile isBracket
    port := match u.port with
      | none => defaultPort u.protocol
      | some n => if n = 0 then defaultPort u.protocol else n }

@[simp] theorem endpoint_eq_none_iff {u : Url} : u.endpoint = none ↔ u.isEmpty = true := by
  simp [endpoint, isEmpty]

/-- Exactly a URL that is not empty has an address. -/
theorem isEmpty_eq_false_iff {u : Url} :
    u.isEmpty = false ↔ ∃ address, u.endpoint = some address := by
  rw [← Bool.not_eq_true, ← endpoint_eq_none_iff, ← ne_eq, Option.ne_none_iff_exists']

/-- The text of user name and password that credentials encode. -/
def userPass (name : Text) (password : Option Text) : Text := name ++ char ':' :: password.getD []

/-- The credentials to show to a proxy server, if the URL has a user name. There are none to be
had if user name and password cannot be encoded. -/
def authorization (u : Url) : Except Utf8.Fault (Option Text) :=
  match u.username with
  | some (c :: name) => do
    let octets ← Utf8.encode (userPass (c :: name) u.password)
    return some ("Basic ".toText ++ Base64.encode octets)
  | _ => .ok none

theorem authorization_of_not_given {u : Url} (unnamed : isGiven u.username = false) :
    u.authorization = .ok none := by
  unfold authorization
  split
  · rename_i named
    rw [named] at unnamed
    cases unnamed
  · rfl

theorem authorization_of_given {u : Url} (named : isGiven u.username = true) :
    u.authorization = (Utf8.encode (userPass (u.username.getD []) u.password)).map fun octets =>
      some ("Basic ".toText ++ Base64.encode octets) := by
  unfold authorization
  split
  · rename_i name
    rw [name]
    rfl
  · rename_i other
    cases username : u.username with
    | none =>
      rw [username] at named
      cases named
    | some t =>
      cases t with
      | nil =>
        rw [username] at named
        cases named
      | cons c name => exact absurd username (other c name)

/-- There is no user name, or there are only characters in it and in the password. -/
def HasEncodableUser (u : Url) : Prop :=
  isGiven u.username = true →
    Utf8.isEncodable (u.username.getD []) = true ∧ Utf8.isEncodable (u.password.getD []) = true

theorem isEncodable_userPass (name : Text) (password : Option Text) :
    Utf8.isEncodable (userPass name password) = true ↔
      Utf8.isEncodable name = true ∧ Utf8.isEncodable (password.getD []) = true := by
  simp [userPass, CodePoint.isChar]

/-- That is when user name and password can be encoded. -/
theorem authorization_isOk_iff {u : Url} :
    (∃ given, u.authorization = .ok given) ↔ u.HasEncodableUser := by
  unfold HasEncodableUser
  cases named : isGiven u.username with
  | false => simp [authorization_of_not_given named]
  | true =>
    rw [authorization_of_given named, ← isEncodable_userPass, Utf8.encode]
    split
    · rename_i encodable
      exact iff_of_true ⟨_, rfl⟩ fun _ => encodable
    · rename_i other
      exact iff_of_false nofun fun encodable => other (encodable rfl)

theorem authorization_isError_iff {u : Url} :
    (∃ fault, u.authorization = .error fault) ↔ ¬ u.HasEncodableUser := by
  rw [← authorization_isOk_iff]
  cases u.authorization <;> simp

/-- There are credentials exactly with a user name. -/
theorem isSome_of_authorization {u : Url} {given : Option Text} (h : u.authorization = .ok given) :
    given.isSome = isGiven u.username := by
  cases named : isGiven u.username with
  | false =>
    rw [authorization_of_not_given named] at h
    cases h
    rfl
  | true =>
    rw [authorization_of_given named] at h
    cases encoded : Utf8.encode (userPass (u.username.getD []) u.password) with
    | ok octets =>
      rw [encoded] at h
      cases h
      rfl
    | error fault =>
      rw [encoded] at h
      cases h

end Url

end ProxySelection
