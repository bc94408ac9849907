import ProxySelection.Url.Proxy
import ProxySelection.Proofs.Text.Base64
import ProxySelection.Proofs.Text.Utf8
import ProxySelection.Proofs.Url.WellFormed

/-!
Credentials read back.

What is shown to a proxy server is a user name and a password with a colon between them, in UTF-8
and in Base64. Both encodings are read back, and a user name that was parsed holds no colon, so the
first colon of what is read is the one between the two. Hence the credentials of servers that were
parsed tell user name and password, where a password that is missing is an empty one. There are none
if a surrogate stands in one of the two, which has no place in UTF-8
(`authorization_decodes_unless`).
-/

namespace ProxySelection

namespace Url

variable {u u' : Url} {name name' : Text} {password password' : Option Text}

/-! ### User name and password -/

/-- The first colon stands between user name and password. -/
theorem cut_userPass (free : char ':' ∉ name) (password : Option Text) :
    Text.cut ':' (userPass name password) = (name, some (password.getD [])) :=
  Text.cut_append free _

theorem userPass_eq_iff (free : char ':' ∉ name) (free' : char ':' ∉ name') :
    userPass name password = userPass name' password' ↔
      name = name' ∧ password.getD [] = password'.getD [] := by
  constructor
  · intro same
    have cut := congrArg (Text.cut ':') same
    rw [cut_userPass free, cut_userPass free'] at cut
    simpa using cut
  · rintro ⟨rfl, same⟩
    rw [userPass, userPass, same]

/-! ### Credentials -/

theorem authorization_eq (named : u.username = some name) (nonempty : name ≠ []) :
    u.authorization = (Utf8.encode (userPass name u.password)).map fun octets =>
      some ("Basic ".toText ++ Base64.encode octets) := by
  have given : isGiven u.username = true := by
    rw [named]
    cases name with
    | nil => exact absurd rfl nonempty
    | cons c name => rfl
  rw [authorization_of_given given, named, Option.getD_some]

/-- Credentials that can be had are in UTF-8 and in Base64. -/
theorem exists_octets (named : u.username = some name) (nonempty : name ≠ [])
    (encodable : u.HasEncodableUser) :
    ∃ octets, Utf8.encode (userPass name u.password) = .ok octets ∧
      u.authorization = .ok (some ("Basic ".toText ++ Base64.encode octets)) := by
  obtain ⟨given, had⟩ := authorization_isOk_iff.mpr encodable
  have whole := authorization_eq named nonempty
  cases encoded : Utf8.encode (userPass name u.password) with
  | error fault =>
    rw [encoded, had] at whole
    cases whole
  | ok octets =>
    rw [encoded] at whole
    exact ⟨octets, rfl, whole⟩

/-- Credentials tell the text that they encode. -/
theorem userPass_eq_of_authorization (named : u.username = some name) (nonempty : name ≠ [])
    (named' : u'.username = some name') (nonempty' : name' ≠ [])
    (encodable : u.HasEncodableUser) (same : u.authorization = u'.authorization) :
    userPass name u.password = userPass name' u'.password := by
  obtain ⟨octets, encoded, had⟩ := exists_octets named nonempty encodable
  have encodable' : u'.HasEncodableUser := authorization_isOk_iff.mp ⟨_, same.symm.trans had⟩
  obtain ⟨octets', encoded', had'⟩ := exists_octets named' nonempty' encodable'
  rw [had, had', Except.ok.injEq, Option.some.injEq, List.append_right_inj] at same
  obtain rfl := Base64.encode_injective same
  exact Utf8.encode_inj encoded encoded'

/-- **Credentials are decoded to user name and password.** For a server that was parsed and has a
user name that is not empty, they are `Basic` and padded Base64 of a text in UTF-8, of which the
part in front of the first colon is the user name and the part behind it the password, or nothing if
there is none, unless there is a surrogate in one of them: then there are no credentials to be had.
So with another such server it has the same credentials, if it has any, exactly if they have the
same user name and, but for whether an empty one is there, the same password. -/
theorem authorization_decodes_unless {t : Text} (parsed : parse t = .ok u)
    (named : u.username = some name) (nonempty : name ≠ []) :
    (u.HasEncodableUser → ∃ token octets text,
      u.authorization = .ok (some ("Basic ".toText ++ token)) ∧
        Base64.IsPadded token ∧ Base64.decode token = some octets ∧
        Utf8.decode octets = some text ∧
        Text.cut ':' text = (name, some (u.password.getD []))) ∧
    (¬ u.HasEncodableUser → ∃ fault, u.authorization = .error fault) ∧
    ∀ t' u' name', parse t' = .ok u' → u'.username = some name' → name' ≠ [] →
      u.HasEncodableUser →
      (u.authorization = u'.authorization ↔
        name = name' ∧ u.password.getD [] = u'.password.getD []) := by
  have free := colon_not_mem_username parsed named
  refine ⟨?_, authorization_isError_iff.mpr, ?_⟩
  · intro encodable
    obtain ⟨octets, encoded, had⟩ := exists_octets named nonempty encodable
    exact ⟨_, octets, _, had, Base64.isPadded_encode _, Base64.decode_encode _,
      Utf8.decode_eq_some_iff.mpr encoded, cut_userPass free u.password⟩
  · intro t' u' name' parsed' named' nonempty' encodable
    have free' := colon_not_mem_username parsed' named'
    rw [← userPass_eq_iff free free']
    constructor
    · exact userPass_eq_of_authorization named nonempty named' nonempty' encodable
    · intro same
      rw [authorization_eq named nonempty, authorization_eq named' nonempty', same]

/-- A user name of characters of one octet up to four, with a password that holds a colon; a
password that is missing beside one that is empty; and a password that is a surrogate. -/
theorem authorization_decodes_unless_of_marks :
    let u : Url := {
      username := some "aé€😀".toText, password := some ":p".toText, host := some [char 'h'] }
    let v : Url := { username := some [char 'u'], host := some [char 'h'] }
    let v' : Url := { username := some [char 'u'], password := some [], host := some [char 'k'] }
    let w : Url := { v with password := some [.surrogate 0] }
    (∃ token octets text, u.authorization = .ok (some ("Basic ".toText ++ token)) ∧
      Base64.IsPadded token ∧ Base64.decode token = some octets ∧ Utf8.decode octets = some text ∧
      Text.cut ':' text = ("aé€😀".toText, some ":p".toText)) ∧
    v.authorization = v'.authorization ∧ ∃ fault, w.authorization = .error fault := by
  intro u v v' w
  have parsed : parse "aé€😀::p@h".toText = .ok u := rfl
  have missing : parse "u@h".toText = .ok v := rfl
  have empty : parse "u:@k".toText = .ok v' := rfl
  have halved : parse ("u:".toText ++ .surrogate 0 :: "@h".toText) = .ok w := rfl
  have encodable : u.HasEncodableUser := fun _ => by decide
  have encodable' : v.HasEncodableUser := fun _ => by decide
  have surrogates : ¬ w.HasEncodableUser := fun h => absurd (h rfl).2 Bool.false_ne_true
  obtain ⟨decoded, _⟩ := authorization_decodes_unless parsed rfl (by decide)
  obtain ⟨_, _, alike⟩ := authorization_decodes_unless missing rfl (by decide)
  obtain ⟨_, failed, _⟩ := authorization_decodes_unless halved rfl (by decide)
  refine ⟨decoded encodable, ?_, failed surrogates⟩
  exact (alike _ v' _ empty rfl (by decide) encodable').mpr ⟨rfl, rfl⟩

end Url

end ProxySelection
