import ProxySelection.Url.Proxy
import ProxySelection.Proofs.Url.Pieces
import ProxySelection.Proofs.Url.WellFormed

/-!
Addresses of servers and the texts that they are written in.

Behind the protocol of a text that is parsed, its host and the digits of its port stand in one place
(`HasAddress`, `hasAddress_iff`). The address of the server is taken from them, and it is the one
that is written there but for two cases. All brackets at the end of a host go, not only the one that
closes it; only its beginning is safe, because what stands in brackets was checked to be an address
(`trimWhile_host`). And a port that is written as zero counts as none.
`endpoint_as_written_iff` says what the address is, and that it is the one written unless one of
these is the case.
-/

namespace ProxySelection

/-! ### Addresses in brackets -/

namespace Address

variable {c : CodePoint} {r : Text} {first : Text} {others : List Text}

/-- The first of the groups is one, unless it is empty. -/
theorem areGroups_cons (given : first ≠ []) (noGroup : isGroup first = false) :
    areGroups (first :: others) = false := by
  have noSide (before : List Text) : isSide (first :: before) = false := by
    simp [isSide, given, noGroup]
  unfold areGroups
  dsimp only
  split <;> simp [noSide, noGroup]

/-- An address starts with a digit or a colon. -/
theorem isIPv6_cons (noDigit : Digit.hexadecimal? c = none) (noColon : c ≠ ':')
    (noScope : c ≠ '%') : isIPv6 (c :: r) = false := by
  have noGroup (p : Text) : isGroup (c :: p) = false := by simp [isGroup, noDigit]
  have noGroups (p : Text) (ps : List Text) : areGroups ((c :: p) :: ps) = false :=
    areGroups_cons (by simp) (noGroup p)
  have cut : Text.cut '%' (c :: r) = (c :: (Text.cut '%' r).1, (Text.cut '%' r).2) := by
    simp [Text.cut, noScope]
  obtain ⟨p, ps, pieces⟩ : ∃ p ps, Text.parts ':' (c :: (Text.cut '%' r).1) = (c :: p) :: ps := by
    simp only [Text.parts, if_neg noColon]
    split
    · exact ⟨[], [], rfl⟩
    · exact ⟨_, _, rfl⟩
  have noAddress : ((withoutIPv4Tail ((c :: p) :: ps)).map areGroups).getD false = false := by
    unfold withoutIPv4Tail
    dsimp only
    split
    · split
      · -- The first piece is in front of what an IPv4 address stands for, or is that address.
        cases ps with
        | nil => rfl
        | cons q ps => exact noGroups _ _
      · rfl
    · exact noGroups _ _
  rw [isIPv6, cut]
  simp only [pieces, noAddress, Bool.and_false]

end Address

namespace Url

/-- A host without the brackets around it, if there are some. -/
def unbracketed (host : Text) : Text :=
  match host with
  | char '[' :: inside => if inside.getLast? = some (char ']') then inside.dropLast else host
  | _ => host

variable {host name : Text} {c : CodePoint}

theorem unbracketed_bracketed (name : Text) :
    unbracketed (char '[' :: (name ++ [char ']'])) = name := by
  simp [unbracketed]

theorem unbracketed_of_not_mem (free : char '[' ∉ host) : unbracketed host = host := by
  unfold unbracketed
  split
  · simp at free
  · rfl

theorem isBracket_iff : isBracket c = true ↔ c = '[' ∨ c = ']' := by simp [isBracket]

/-- It does not start with a bracket. -/
def StartsBare (t : Text) : Prop := ∃ c r, t = c :: r ∧ isBracket c = false

end Url

namespace Authority

open Url (unbracketed StartsBare isBracket)

variable {t host name : Text} {a : Authority}

theorem startsBare_of_checkName (checked : checkName name = .ok ()) : StartsBare name := by
  unfold checkName at checked
  split at checked
  · rename_i future
    obtain ⟨r, rfl⟩ := List.head?_eq_some_iff.mp future
    exact ⟨'v', r, rfl, rfl⟩
  · split at checked
    · cases checked
    · split at checked
      · rename_i address
        cases name with
        | nil => cases address
        | cons c r =>
          refine ⟨c, r, rfl, Bool.eq_false_iff.mpr fun bracket => ?_⟩
          rcases Url.isBracket_iff.mp bracket with rfl | rfl
          · rw [Address.isIPv6_cons rfl (by decide) (by decide)] at address
            cases address
          · rw [Address.isIPv6_cons rfl (by decide) (by decide)] at address
            cases address
      · cases checked

/-- The name that is checked is the host without its brackets. -/
theorem IsHostText.bracketedName_eq (h : IsHostText host) :
    bracketedName host = .ok (unbracketed host) := by
  cases h with
  | @bracketed name free =>
    have cut : Text.cut ']' (name ++ [char ']']) = (name, some []) := Text.cut_append free []
    rw [Url.unbracketed_bracketed]
    simp [bracketedName, Text.cut, cut]
  | plain unopened colonless =>
    rw [Url.unbracketed_of_not_mem unopened, bracketedName, Text.cut_of_not_mem unopened]
    simp only [Text.cut_of_not_mem colonless]

theorem bracketedName_of_read (read : Authority.read t = .ok a) (hosted : a.host ≠ []) :
    bracketedName (hostPart t) = .ok (unbracketed a.host) := by
  obtain ⟨isHost, behind⟩ := hostPart_of_read read hosted
  rw [← isHost.bracketedName_eq]
  rcases behind with same | ⟨_, colon⟩
  · rw [same]
    cases found : a.port with
    | none => rw [portPart, List.append_nil]
    | some p =>
      refine isHost.bracketedName_append fun mem => ?_
      exact absurd ((digits_of_read read found).2 _ mem) (by decide)
  · rw [colon]
    exact isHost.bracketedName_append (by simp)

/-- Without its brackets a host does not start with one: there are none in the text, or what stands
in them was checked. -/
theorem startsBare_of_read (read : Authority.read t = .ok a) (hosted : a.host ≠ []) :
    StartsBare (unbracketed a.host) := by
  have checked := (read_eq_ok_iff.mp read).1
  rw [checkBrackets, bracketedName_of_read read hosted] at checked
  split at checked
  · cases checked
  · rename_i paired
    split at checked
    · exact startsBare_of_checkName checked
    · rename_i unopened
      have unopened : char '[' ∉ t := by simpa using unopened
      have unclosed : char ']' ∉ t := by simpa [unopened] using paired
      have inside : ∀ c ∈ a.host, c ∈ t := fun c mem =>
        mem_of_mem_written read hosted (by simp [written, mem])
      rw [Url.unbracketed_of_not_mem fun mem => unopened (inside _ mem)]
      obtain ⟨c, r, whole⟩ := List.exists_cons_of_ne_nil hosted
      refine ⟨c, r, whole, Bool.eq_false_iff.mpr fun bracket => ?_⟩
      have mem : c ∈ t := inside c (by simp [whole])
      rcases Url.isBracket_iff.mp bracket with rfl | rfl
      · exact unopened mem
      · exact unclosed mem

theorem trimWhile_of_startsBare (bare : StartsBare name) :
    Text.trimWhile isBracket name = Text.dropEndWhile isBracket name := by
  obtain ⟨c, r, rfl, kept⟩ := bare
  simp [Text.trimWhile, kept]

/-- Of a host go its brackets, and then those at the end of what is left. -/
theorem IsHostText.trimWhile_host (h : IsHostText host) (bare : StartsBare (unbracketed host)) :
    Text.trimWhile isBracket host = Text.dropEndWhile isBracket (unbracketed host) := by
  rw [← trimWhile_of_startsBare bare]
  cases h with
  | @bracketed name _ =>
    have opened : ∀ c ∈ [char '['], isBracket c = true := by simp [isBracket]
    have closed : ∀ c ∈ [char ']'], isBracket c = true := by simp [isBracket]
    have surrounded := Text.trimWhile_surrounded opened closed name
    rw [Url.unbracketed_bracketed, ← surrounded]
    simp
  | plain unopened _ => rw [Url.unbracketed_of_not_mem unopened]

end Authority

/-! ### Where host and port stand -/

namespace Url

variable {t body host digits : Text} {u : Url} {a : Authority}

/-- `HasAddress body host digits`: behind the protocol of a text, without breaks, a host and the
digits of a port stand between a user part, if there is one, and the path, the query or the
fragment. A colon may stand there without digits. -/
structure HasAddress (body host digits : Text) : Prop where
  whole : ∃ user colon tail,
    body = Authority.userFront user ++ (host ++ (colon ++ digits)) ++ tail ∧
      (∀ c ∈ Authority.userFront user, endsAuthority c = false) ∧
      (colon = [char ':'] ∨ colon = [] ∧ digits = []) ∧
      ∀ c, tail.head? = some c → endsAuthority c = true
  hosted : host ≠ []
  isHost : Authority.IsHostText host
  plain : ∀ c ∈ host, endsAuthority c = false ∧ c ≠ '@'
  digits : ∀ c ∈ digits, c.isDigit = true

theorem HasAddress.hostPart_eq (h : HasAddress body host digits) :
    ∃ colon, Authority.hostPart (authorityText body) = host ++ (colon ++ digits) ∧
      (colon = [char ':'] ∨ colon = [] ∧ digits = []) := by
  obtain ⟨user, colon, tail, rfl, front, marked, ends⟩ := h.whole
  have colonPlain : ∀ c ∈ colon, c = ':' := by
    rcases marked with rfl | ⟨rfl, _⟩ <;> simp
  have plain : ∀ c ∈ host ++ (colon ++ digits), endsAuthority c = false ∧ c ≠ '@' := by
    intro c mem
    rcases List.mem_append.mp mem with mem | mem
    · exact h.plain c mem
    · rcases List.mem_append.mp mem with mem | mem
      · obtain rfl := colonPlain c mem
        decide
      · have digit := h.digits c mem
        constructor
        · refine endsAuthority_eq_false_iff.mpr ⟨?_, ?_, ?_⟩ <;>
            · rintro rfl
              exact absurd digit (by decide)
        · rintro rfl
          exact absurd digit (by decide)
  have text : authorityText (Authority.userFront user ++ (host ++ (colon ++ digits)) ++ tail) =
      Authority.userFront user ++ (host ++ (colon ++ digits)) := by
    refine Text.takeWhile_append_stop (fun c mem => ?_) (fun c first => by simp [ends c first])
    rcases List.mem_append.mp mem with mem | mem
    · simp [front c mem]
    · simp [(plain c mem).1]
  refine ⟨colon, ?_, marked⟩
  rw [text, Authority.hostPart_userFront user fun mem => (plain _ mem).2 rfl]

theorem splitHost_colon {colon : Text} (isHost : Authority.IsHostText host)
    (marked : colon = [char ':'] ∨ colon = [] ∧ digits = []) :
    Authority.splitHost (host ++ (colon ++ digits)) = (host, digits) := by
  rcases marked with rfl | ⟨rfl, rfl⟩
  · exact isHost.splitHost_append digits
  · simpa using isHost.splitHost_eq

/-- Behind the user part of a text that is read stand the host and the digits of the port. -/
theorem hostPart_of_read (read : Authority.read t = .ok a) (hosted : a.host ≠ []) :
    ∃ colon, Authority.hostPart t = a.host ++ (colon ++ (a.port.map (·.2)).getD []) ∧
      (colon = [char ':'] ∨ colon = [] ∧ (a.port.map (·.2)).getD [] = []) := by
  rcases (Authority.hostPart_of_read read hosted).2 with same | ⟨none, colon⟩
  · cases found : a.port with
    | none => exact ⟨[], by simp [same, found, Authority.portPart], .inr ⟨rfl, rfl⟩⟩
    | some p => exact ⟨[char ':'], by simp [same, found, Authority.portPart], .inl rfl⟩
  · exact ⟨[char ':'], by simp [colon, none], .inl rfl⟩

theorem hasAddress_of_read (read : Authority.read (authorityText body) = .ok a)
    (hosted : a.host ≠ []) : HasAddress body a.host ((a.port.map (·.2)).getD []) := by
  obtain ⟨colon, behind, marked⟩ := hostPart_of_read read hosted
  have text := (Authority.eq_userFront_append (authorityText body)).1
  have markless := Authority.mark_not_mem_hostAndPort read hosted
  refine ⟨⟨(Text.cutLast '@' (authorityText body)).1, colon,
    body.dropWhile fun c => !endsAuthority c, ?_, ?_, marked, ?_⟩, hosted,
    (Authority.hostPart_of_read read hosted).1, ?_, ?_⟩
  · rw [← behind, ← text]
    exact List.takeWhile_append_dropWhile.symm
  · intro c mem
    have inside : c ∈ authorityText body := by
      rw [text]
      exact List.mem_append_left _ mem
    exact (mem_authorityText inside).2
  · intro c first
    have stopped := List.head?_dropWhile_not (fun c => !endsAuthority c) body
    rw [first] at stopped
    simpa using stopped
  · intro c mem
    have written : c ∈ a.written := by simp [Authority.written, mem]
    refine ⟨(mem_authorityText (Authority.mem_of_mem_written read hosted written)).2, ?_⟩
    rintro rfl
    exact markless (List.mem_append_left _ mem)
  · intro c mem
    cases found : a.port with
    | none => simp [found] at mem
    | some p => exact (Authority.digits_of_read read found).2 c (by simpa [found] using mem)

/-- In a text that is parsed stands one address, with the host and the digits of the URL. -/
theorem hasAddress_iff (parsed : parse t = .ok u) :
    HasAddress (bodyOf t.trim) host digits ↔ u.host = some host ∧ u.portText.getD [] = digits := by
  obtain ⟨_, a, read, nonempty, _, rfl⟩ := parse_eq_ok_iff.mp parsed
  have hosted : a.host ≠ [] := by simpa using nonempty
  constructor
  · intro h
    obtain ⟨colon, behind, marked⟩ := h.hostPart_eq
    obtain ⟨colon', behind', marked'⟩ := hostPart_of_read read hosted
    -- Host and digits are found again in what they are part of.
    have split := splitHost_colon h.isHost marked
    have split' := splitHost_colon (Authority.hostPart_of_read read hosted).1 marked'
    rw [← behind] at split
    rw [← behind', split] at split'
    obtain ⟨rfl, same⟩ := Prod.mk.inj split'
    exact ⟨rfl, same.symm⟩
  · rintro ⟨same, rfl⟩
    obtain rfl : a.host = host := Option.some.inj same
    exact hasAddress_of_read read hosted

/-! ### The address of a server -/

/-- The port that is meant by its digits: without any, that of the protocol. -/
def portMeant (protocol : Option Text) (digits : Text) : Int :=
  if digits = [] then defaultPort protocol else Decimal.value digits

theorem defaultPort_ne_zero (protocol : Option Text) : defaultPort protocol ≠ 0 := by
  unfold defaultPort
  split <;> decide

/-- The address of a server that was parsed, by its host and the digits of its port. -/
theorem endpoint_of_parse (parsed : parse t = .ok u) (hosted : u.host = some host)
    (written : u.portText.getD [] = digits) :
    u.endpoint = some {
      host := Text.dropEndWhile isBracket (unbracketed host)
      port :=
        if Decimal.value digits = 0 then defaultPort u.protocol else Decimal.value digits } := by
  have hostText : Text.trimWhile isBracket host =
      Text.dropEndWhile isBracket (unbracketed host) := by
    obtain ⟨_, a, read, nonempty, _, rfl⟩ := parse_eq_ok_iff.mp parsed
    obtain rfl : a.host = host := Option.some.inj hosted
    have given : a.host ≠ [] := by simpa using nonempty
    exact (Authority.hostPart_of_read read given).1.trimWhile_host
      (Authority.startsBare_of_read read given)
  rw [endpoint, hosted, Option.map_some, hostText]
  rcases port_of_parse parsed with ⟨port, text⟩ | ⟨digits', text, port, _⟩
  · rw [text] at written
    obtain rfl : [] = digits := written
    rw [port]
    rfl
  · rw [text] at written
    obtain rfl : digits' = digits := written
    rw [port]
    simp only [Int.natCast_eq_zero]

theorem dropEndWhile_eq_self_iff {p : CodePoint → Bool} {x : Text} :
    Text.dropEndWhile p x = x ↔ ∀ c, x.getLast? = some c → p c = false := by
  refine ⟨fun same c last => ?_, Text.dropEndWhile_eq_self⟩
  rw [← same] at last
  exact Text.getLast?_dropEndWhile last

theorem port_eq_portMeant_iff (protocol : Option Text) (digits : Text) :
    (if Decimal.value digits = 0 then defaultPort protocol else (Decimal.value digits : Int)) =
        portMeant protocol digits ↔
      digits = [] ∨ Decimal.value digits ≠ 0 := by
  unfold portMeant
  by_cases none : digits = []
  · subst none
    exact iff_of_true rfl (.inl rfl)
  · by_cases zero : Decimal.value digits = 0
    · simp [none, zero, defaultPort_ne_zero]
    · simp [none, zero]

/-- **The address of a server is the one that is written, but for zero and for brackets.** In the
text of a server one host and one port stand behind the protocol. The host of its address is that
one without the brackets around it, and without those that are then at its end; the port is the
number of its digits, or that of the protocol if it is zero or if there are no digits. So the host
is the one written unless there is a bracket at the end of what stands in brackets, or of a host
that does not, and the port is the one written, or that of the protocol where none is, unless it is
written as zero. -/
theorem endpoint_as_written_iff (parsed : parse t = .ok u) :
    ∃ front rest host digits address,
      (∀ f r, IsDivided t.trim f r ↔ f = front ∧ r = rest) ∧
      front.map CodePoint.toLower = protocolText u.protocol ∧
      (∀ h d, HasAddress (rest.filter fun c => !isBreak c) h d ↔ h = host ∧ d = digits) ∧
      u.endpoint = some address ∧ address.more = [] ∧
      address.host = Text.dropEndWhile isBracket (unbracketed host) ∧
      (address.host = unbracketed host ↔
        ∀ c, (unbracketed host).getLast? = some c → isBracket c = false) ∧
      address.port =
        (if Decimal.value digits = 0 then defaultPort u.protocol else Decimal.value digits) ∧
      (address.port = portMeant u.protocol digits ↔ digits = [] ∨ Decimal.value digits ≠ 0) := by
  obtain ⟨front, divided, lowered⟩ := isDivided_iff t.trim
  obtain ⟨host, hosted, _⟩ := host_of_parse parsed
  have protocol : (cutProtocol t.trim).1 = u.protocol := by
    obtain ⟨_, _, _, _, _, rfl⟩ := parse_eq_ok_iff.mp parsed
    rfl
  refine ⟨front, _, host, u.portText.getD [], _, divided, protocol ▸ lowered, fun h d => ?_,
    endpoint_of_parse parsed hosted rfl, rfl, rfl, dropEndWhile_eq_self_iff, rfl,
    port_eq_portMeant_iff _ _⟩
  refine (hasAddress_iff parsed).trans ?_
  rw [hosted, Option.some.injEq]
  exact and_congr eq_comm eq_comm

/-- A bracket at the end of what stands in brackets, and a port of two zeros. -/
theorem endpoint_as_written_iff_of_zero :
    let u : Url := {
      protocol := some "https".toText, host := some "[fe80::1%[]".toText, port := some 0
      portText := some "00".toText }
    ∃ address, parse "HTTPS://[fe80::1%[]:00".toText = .ok u ∧ u.endpoint = some address ∧
      address.host = "fe80::1%".toText ∧ address.host ≠ unbracketed "[fe80::1%[]".toText ∧
      address.port = 443 ∧ address.port ≠ portMeant u.protocol "00".toText := by
  intro u
  have parsed : parse "HTTPS://[fe80::1%[]:00".toText = .ok u := rfl
  obtain ⟨front, rest, host, digits, address, divided, _, stands, located, _, name, asWritten, port,
    meant⟩ := endpoint_as_written_iff parsed
  have isName : IsProtocolName "HTTPS".toText :=
    ⟨'H', "TTPS".toText, rfl, rfl, by decide⟩
  have whole : IsDivided "HTTPS://[fe80::1%[]:00".toText "HTTPS://".toText
      "[fe80::1%[]:00".toText :=
    ⟨rfl, .inl ⟨_, isName, rfl⟩⟩
  obtain ⟨rfl, rfl⟩ := (divided _ _).mp whole
  have there : HasAddress (bodyOf (Text.trim "HTTPS://[fe80::1%[]:00".toText))
      "[fe80::1%[]".toText "00".toText := (hasAddress_iff parsed).mpr ⟨rfl, rfl⟩
  obtain ⟨rfl, rfl⟩ := (stands _ _).mp there
  refine ⟨address, parsed, located, name, ?_, port, ?_⟩
  · rw [Ne, asWritten]
    intro none
    exact absurd (none '[' rfl) (by decide)
  · rw [Ne, meant]
    decide

end Url

end ProxySelection
