import ProxySelection.Proofs.Pattern.Matching
import ProxySelection.Proofs.Url.RoundTrip
import Mathlib.Logic.Relation

/-!
What matching sees of a URL.

Matching looks at protocol, host, port and path. `Url.seen` is the URL that a text denotes, if any,
without the credentials, and matching depends on nothing else (`Pattern.testFresh_congr`). What is
seen comes from two pieces of the text, the protocol and the body behind it (`Url.seen_eq`), and of
the body it is the path and the address, which is the host with the port
(`Authority.address?`).

`Url.Variant` lists what may be changed about a text: a query or fragment, a user part, and blanks,
breaks and capitals. Each of these leaves both pieces as they are, or changes the body where it is
not looked at, whether or not the text is a URL. So all texts that come from each other by such
changes are matched by the same patterns: `Pattern.test_variant`.
-/

namespace ProxySelection

/-! ### Addresses -/

namespace Authority

variable {t w host : Text} {port : Option (Nat × Text)}

/-- Host and port of the text of an authority, if it can be read and has a host. -/
def address? (t : Text) : Option (Text × Option (Nat × Text)) :=
  match read t with
  | .error _ => none
  | .ok a => if a.host.isEmpty then none else some (a.host, a.port)

theorem address?_eq_some_iff :
    address? t = some (host, port) ↔
      checkBrackets t = .ok () ∧ checkFolding t = .ok () ∧ host ≠ [] ∧
        host = (splitHost (hostPart t)).1 ∧ readPort (splitHost (hostPart t)).2 = .ok port := by
  constructor
  · intro found
    unfold address? at found
    split at found
    · cases found
    · rename_i a read
      split at found
      · cases found
      · rename_i hosted
        cases found
        obtain ⟨brackets, folding, _, host, port⟩ := read_eq_ok_iff.mp read
        exact ⟨brackets, folding, by simpa using hosted, host, port⟩
  · rintro ⟨brackets, folding, hosted, host_eq, port_eq⟩
    let user := splitUser (Text.cutLast '@' t).1
    have read : read t = .ok ⟨user.1, user.2, host, port⟩ :=
      read_eq_ok_iff.mpr ⟨brackets, folding, rfl, host_eq, port_eq⟩
    simp [address?, read, hosted]

/-- Another user part in front does not change what follows the last one. -/
theorem hostPart_append (w t : Text) : hostPart (w ++ char '@' :: t) = hostPart t := by
  have free := (eq_userFront_append t).2
  have whole : w ++ char '@' :: t =
      w ++ char '@' :: (userFront (Text.cutLast '@' t).1 ++ hostPart t) :=
    congrArg (fun t => w ++ char '@' :: t) (eq_userFront_append t).1
  rw [whole]
  cases (Text.cutLast '@' t).1 with
  | none =>
    have front : w ++ char '@' :: (userFront none ++ hostPart t) =
        userFront (some w) ++ hostPart t := by
      simp [userFront]
    rw [front, hostPart_userFront _ free]
  | some user =>
    have front : w ++ char '@' :: (userFront (some user) ++ hostPart t) =
        userFront (some (w ++ char '@' :: user)) ++ hostPart t := by
      simp [userFront]
    rw [front, hostPart_userFront _ free]

/-- A character that may stand in a user part without changing how the text around it is read: an
ASCII character that is neither blank nor a bracket and does not end the authority. -/
structure IsUserChar (c : CodePoint) : Prop where
  ascii : c.toNat < 0x80
  visible : isBlank c = false
  plain : c ≠ '/' ∧ c ≠ '?' ∧ c ≠ '#'
  bracketless : c ≠ '[' ∧ c ≠ ']'

/-- No ASCII character folds to a separator. -/
theorem IsUserChar.not_folding {c : CodePoint} (h : IsUserChar c) :
    c.toNat ∉ foldingCharacters := by
  have above : ∀ n ∈ foldingCharacters, 0x80 ≤ n := by decide
  intro mem
  exact absurd h.ascii (Nat.not_lt.mpr (above _ mem))

/-- The mark behind a user part may stand in one too. -/
theorem isUserChar_append_mark (isUser : ∀ c ∈ w, IsUserChar c) :
    ∀ c ∈ w ++ [char '@'], IsUserChar c := by
  intro c mem
  rcases List.mem_append.mp mem with mem | mem
  · exact isUser c mem
  · obtain rfl := List.mem_singleton.mp mem
    exact ⟨by decide, rfl, by decide, by decide⟩

/-- With a user part in front, host and port are the same. -/
theorem address?_append (isUser : ∀ c ∈ w, IsUserChar c) (t : Text) :
    address? (w ++ char '@' :: t) = address? t := by
  have brackets : checkBrackets (w ++ char '@' :: t) = checkBrackets t := by
    have opened : char '[' ∉ w := fun mem => (isUser _ mem).bracketless.1 rfl
    have closed : char ']' ∉ w := fun mem => (isUser _ mem).bracketless.2 rfl
    exact checkBrackets_congr (by simp [opened]) (by simp [closed]) (by rw [hostPart_append])
  have folding : checkFolding (w ++ char '@' :: t) = .ok () ↔ checkFolding t = .ok () := by
    have front : ∀ c ∈ w ++ [char '@'], c.toNat ∉ foldingCharacters :=
      fun c mem => (isUserChar_append_mark isUser c mem).not_folding
    rw [List.append_cons, checkFolding_eq_ok_iff, checkFolding_eq_ok_iff, List.forall_mem_append]
    exact ⟨And.right, fun behind => ⟨front, behind⟩⟩
  refine Option.ext fun ⟨host, port⟩ => ?_
  rw [address?_eq_some_iff, address?_eq_some_iff, brackets, folding, hostPart_append]

end Authority

namespace Url

variable {t u v v' w name name' r body : Text} {c : CodePoint}

/-! ### What is seen -/

/-- The URL without credentials. -/
def withoutUser (u : Url) : Url := { u with username := none, password := none }

/-- What is seen of a text: the URL that it denotes, if any, without credentials. -/
def seen (t : Text) : Option Url := (parse t).toOption.map withoutUser

/-- What is seen of a protocol and the body behind it. -/
def seenIn (protocol : Option Text) (body : Text) : Option Url :=
  if (authorityText body).any isBlank then none
  else (Authority.address? (authorityText body)).map fun (host, port) =>
    ofParts protocol ⟨none, none, host, port⟩ (pathText body)

/-- Trimming first makes no difference, since a blank text is no URL anyway. -/
theorem toOption_parse (t : Text) : (parse t).toOption = (parseTrimmed t.trim).toOption := by
  unfold parse
  split
  · rename_i blank
    have gone : t.trim = [] := by
      have all : t.dropWhile isBlank = [] :=
        List.dropWhile_eq_nil_iff.mpr (List.all_eq_true.mp blank)
      rw [Text.trim, Text.trimWhile, all]
      rfl
    rw [gone]
    rfl
  · rfl

theorem seen_eq (t : Text) : seen t = seenIn (cutProtocol t.trim).1 (bodyOf t.trim) := by
  rw [seen, toOption_parse, parseTrimmed_eq, seenIn, Authority.address?]
  cases Authority.read (authorityText (bodyOf t.trim)) with
  | error fault => simp [Except.toOption]
  | ok a =>
    cases (authorityText (bodyOf t.trim)).any isBlank with
    | true => simp [Except.toOption]
    | false =>
      cases hosted : a.host.isEmpty with
      | true => simp [Except.toOption, hosted]
      | false =>
        simp only [hosted, Bool.or_self, Bool.false_eq_true, if_false]
        rfl

/-- What ends the path ends all that stands in front of it, and stays in a text. -/
theorem plain_of_endsPath (ends : endsPath c = true) :
    endsAuthority c = true ∧ isBreak c = false ∧ isBlank c = false ∧ isProtocolChar c = false ∧
      c ∉ protocolMark := by
  simp only [endsPath, Bool.or_eq_true, decide_eq_true_eq] at ends
  rcases ends with rfl | rfl <;> decide

/-- A query or a fragment is not seen. -/
theorem seenIn_tail (protocol : Option Text) (body : Text) (ends : endsPath c = true) (r : Text) :
    seenIn protocol (body ++ c :: r) = seenIn protocol body := by
  have stops : (!endsAuthority c) = false := by simp [plain_of_endsPath ends]
  have authority : authorityText (body ++ c :: r) = authorityText body :=
    Text.takeWhile_append_cons stops r
  have path : pathText (body ++ c :: r) = pathText body := by
    rw [pathText, Text.dropWhile_append_cons stops, Text.takeWhile_append_cons (by simp [ends])]
    rfl
  rw [seenIn, authority, path]
  rfl

/-- Nor is a user part. -/
theorem seenIn_user (protocol : Option Text) (isUser : ∀ c ∈ w, Authority.IsUserChar c)
    (body : Text) : seenIn protocol (w ++ char '@' :: body) = seenIn protocol body := by
  have isFront := Authority.isUserChar_append_mark isUser
  have inside : ∀ c ∈ w ++ [char '@'], (!endsAuthority c) = true :=
    fun c mem => by simp [endsAuthority, (isFront c mem).plain]
  have visible : (w ++ [char '@']).any isBlank = false :=
    List.any_eq_false.mpr fun c mem => by simp [(isFront c mem).visible]
  have authority : authorityText (w ++ char '@' :: body) = w ++ char '@' :: authorityText body := by
    rw [List.append_cons, authorityText, List.takeWhile_append_of_pos inside, ← List.append_cons]
    rfl
  have path : pathText (w ++ char '@' :: body) = pathText body := by
    rw [List.append_cons, pathText, List.dropWhile_append_of_pos inside]
    rfl
  have blanks : (w ++ char '@' :: authorityText body).any isBlank =
      (authorityText body).any isBlank := by
    rw [List.append_cons, List.any_append, visible, Bool.false_or]
  rw [seenIn, authority, path, blanks, Authority.address?_append isUser]
  rfl

/-! ### Pieces of a text -/

/-- A query or a fragment is not part of a protocol, and so it is behind in the rest. -/
theorem cutProtocol_tail (ends : endsPath c = true) (t r : Text) :
    cutProtocol (t ++ c :: r) = ((cutProtocol t).1, (cutProtocol t).2 ++ c :: r) := by
  cases found : cutProtocol t with
  | mk protocol rest =>
    cases protocol with
    | some q =>
      obtain ⟨name, isName, lowered, rfl⟩ := cutProtocol_eq_some_iff.mp found
      exact cutProtocol_eq_some_iff.mpr ⟨name, isName, lowered, by simp⟩
    | none =>
      obtain ⟨rfl, unnamed⟩ := cutProtocol_eq_none_iff.mp found
      refine cutProtocol_eq_none_iff.mpr ⟨rfl, fun name behind isName whole => ?_⟩
      rcases List.append_eq_append_iff.mp whole with ⟨a, front, query⟩ | ⟨a, front, _⟩
      · cases a with
        | nil => exact unnamed name [] isName (by simpa using front.symm)
        | cons d a =>
          -- The mark cannot reach into the query, which would have to start within it.
          obtain ⟨rfl, _⟩ := List.cons.inj query
          obtain ⟨_, _, _, outside, unmarked⟩ := plain_of_endsPath ends
          have mem : c ∈ name ++ protocolMark := by simp [front]
          rcases List.mem_append.mp mem with mem | mem
          · rw [isName.isProtocolChar c mem] at outside
            cases outside
          · exact absurd mem unmarked
      · exact unnamed name a isName front

theorem bodyOf_tail (ends : endsPath c = true) (t r : Text) :
    bodyOf (t ++ c :: r) = bodyOf t ++ c :: r.filter fun c => !isBreak c := by
  have kept : (!isBreak c) = true := by simp [plain_of_endsPath ends]
  rw [bodyOf, cutProtocol_tail ends, List.filter_append, List.filter_cons, if_pos kept]
  rfl

theorem isBlank_of_isBreak (h : isBreak c = true) : isBlank c = true := by
  simp only [isBreak, Bool.or_eq_true, decide_eq_true_eq] at h
  rcases h with (rfl | rfl) | rfl <;> rfl

/-- What is seen of a text with a protocol. -/
theorem seen_named (isName : IsProtocolName name) (r : Text) :
    seen (name ++ protocolMark ++ r) =
      seenIn (some (name.map CodePoint.toLower))
        ((Text.dropEndWhile isBlank r).filter fun c => !isBreak c) := by
  have kept : ∀ c ∈ name ++ protocolMark, isBlank c = false := by
    intro c mem
    rcases List.mem_append.mp mem with mem | mem
    · exact (plain_of_isProtocolChar (isName.isProtocolChar c mem)).1
    · exact blankless_mark c mem
  have trimmed : Text.trim (name ++ protocolMark ++ r) =
      name ++ protocolMark ++ Text.dropEndWhile isBlank r :=
    Text.trimWhile_append kept (by simp [protocolMark, String.toText]) r
  have cut : cutProtocol (name ++ protocolMark ++ Text.dropEndWhile isBlank r) =
      (some (name.map CodePoint.toLower), Text.dropEndWhile isBlank r) :=
    cutProtocol_eq_some_iff.mpr ⟨name, isName, rfl, rfl⟩
  rw [seen_eq, trimmed, bodyOf, cut]

/-- A text that has the same small letters as the name of a protocol is one. -/
theorem IsProtocolName.of_map_toLower (isName : IsProtocolName name)
    (same : name'.map CodePoint.toLower = name.map CodePoint.toLower) : IsProtocolName name' := by
  have upper_or (c : CodePoint) : c.isUpper = true ∨ c.toLower = c := by
    cases c with
    | char c =>
      by_cases upper : c.isUpper = true
      · exact .inl upper
      · exact .inr (congrArg char (dif_neg fun inside => upper (decide_eq_true inside)))
    | surrogate index => exact .inr rfl
  have alpha_of_upper {c : CodePoint} (upper : c.isUpper = true) : c.isAlpha = true := by
    obtain ⟨c, rfl, capital⟩ := CodePoint.exists_of_isIn upper
    change (c.isUpper || c.isLower) = true
    rw [capital, Bool.true_or]
  obtain ⟨d, s, lowered, first, others⟩ := isName.isProtocol
  rw [lowered] at same
  obtain ⟨c, r, rfl, rfl, rfl⟩ := List.map_eq_cons_iff.mp same
  refine ⟨c, r, rfl, ?_, fun x mem => ?_⟩
  · rcases upper_or c with upper | small
    · exact alpha_of_upper upper
    · exact (isProtocolChar_of_isLower (small ▸ first)).2.1
  · rcases upper_or x with upper | small
    · exact isProtocolChar_of_isAlpha (alpha_of_upper upper)
    · exact small ▸ (others _ (List.mem_map_of_mem mem)).1

/-! ### Variants -/

/-- `Variant x y`: the text `x` is `y` with something that matching does not look at. -/
inductive Variant : Text → Text → Prop where
  /-- A query or a fragment. -/
  | tail {u t : Text} : (∀ c, u.getLast? = some c → isBlank c = false) →
      (t.head? = some (char '?') ∨ t.head? = some (char '#')) → Variant (u ++ t) u
  /-- A user part. -/
  | user {name w r : Text} : IsProtocolName name → (∀ c ∈ w, Authority.IsUserChar c) →
      Variant (name ++ protocolMark ++ w ++ [char '@'] ++ r) (name ++ protocolMark ++ r)
  /-- Blanks around the text, breaks in it, and a protocol in other letters. -/
  | dress {v v' name name' r : Text} : (∀ c ∈ v, isBlank c = true) → (∀ c ∈ v', isBlank c = true) →
      IsProtocolName name → name'.map CodePoint.toLower = name.map CodePoint.toLower →
      Variant (v ++ name ++ protocolMark ++ r ++ v')
        (name' ++ protocolMark ++ r.filter fun c => !isBreak c)

theorem seen_tail (visible : ∀ c, u.getLast? = some c → isBlank c = false)
    (ends : endsPath c = true) (r : Text) : seen (u ++ c :: r) = seen u := by
  have stop : isBlank c = false := by simp [plain_of_endsPath ends]
  have trimmed : Text.trim (u ++ c :: r) = u.trim ++ c :: Text.dropEndWhile isBlank r :=
    Text.trimWhile_append_cons visible stop r
  rw [seen_eq, seen_eq, trimmed, cutProtocol_tail ends, bodyOf_tail ends, seenIn_tail _ _ ends]

theorem seen_user (isName : IsProtocolName name) (isUser : ∀ c ∈ w, Authority.IsUserChar c)
    (r : Text) :
    seen (name ++ protocolMark ++ w ++ [char '@'] ++ r) = seen (name ++ protocolMark ++ r) := by
  have visible : ∀ c ∈ w ++ [char '@'], isBlank c = false :=
    fun c mem => (Authority.isUserChar_append_mark isUser c mem).visible
  have unbroken : (w ++ [char '@']).filter (fun c => !isBreak c) = w ++ [char '@'] := by
    refine List.filter_eq_self.mpr fun c mem => ?_
    by_contra broken
    have blank := isBlank_of_isBreak (by simpa using broken)
    rw [visible c mem] at blank
    cases blank
  have front : name ++ protocolMark ++ w ++ [char '@'] ++ r =
      name ++ protocolMark ++ ((w ++ [char '@']) ++ r) := by
    simp
  rw [front, seen_named isName, seen_named isName, Text.dropEndWhile_append visible,
    List.filter_append, unbroken, List.append_assoc]
  exact seenIn_user _ isUser _

/-- Whether breaks are taken out or blanks are trimmed first does not matter, for breaks are
blanks. -/
theorem seen_dress (front : ∀ c ∈ v, isBlank c = true) (behind : ∀ c ∈ v', isBlank c = true)
    (isName : IsProtocolName name) (same : name'.map CodePoint.toLower = name.map CodePoint.toLower)
    (r : Text) :
    seen (v ++ name ++ protocolMark ++ r ++ v') =
      seen (name' ++ protocolMark ++ r.filter fun c => !isBreak c) := by
  have broken : ∀ c, (!isBreak c) = false → isBlank c = true :=
    fun c broken => isBlank_of_isBreak (by simpa using broken)
  have text : v ++ name ++ protocolMark ++ r ++ v' = v ++ (name ++ protocolMark ++ r) ++ v' := by
    simp
  have trimmed : Text.trim (v ++ (name ++ protocolMark ++ r) ++ v') =
      Text.trim (name ++ protocolMark ++ r) :=
    Text.trimWhile_surrounded front behind _
  have undressed : seen (v ++ (name ++ protocolMark ++ r) ++ v') =
      seen (name ++ protocolMark ++ r) := by
    rw [seen_eq, seen_eq, trimmed]
  rw [text, undressed, seen_named isName, seen_named (isName.of_map_toLower same), same,
    Text.dropEndWhile_filter broken, List.filter_filter]
  simp only [Bool.and_self]

variable {x y : Text}

/-- Of a variant the same is seen. -/
theorem Variant.seen_eq (h : Variant x y) : seen x = seen y := by
  cases h with
  | @tail u t visible marked =>
    obtain ⟨c, r, rfl, ends⟩ : ∃ c r, t = c :: r ∧ endsPath c = true := by
      cases t with
      | nil => simp at marked
      | cons c r => exact ⟨c, r, rfl, by simpa [endsPath] using marked⟩
    exact seen_tail visible ends r
  | user isName isUser => exact seen_user isName isUser _
  | dress front behind isName same => exact seen_dress front behind isName same _

/-- Nor does it matter how many such changes are made, and in which direction. -/
theorem seen_eq_of_variants (h : Relation.EqvGen Variant x y) : seen x = seen y := by
  induction h with
  | rel _ _ step => exact step.seen_eq
  | refl => rfl
  | symm _ _ _ ih => exact ih.symm
  | trans _ _ _ _ _ ih ih' => exact ih.trans ih'

end Url

namespace Pattern

variable {x y : Text}

/-! ### Matching -/

/-- A pattern looks at what is seen of a text. -/
theorem covers_eq_seen (p : Pattern) (t : Text) :
    p.covers (.str t) =
      if p.isEverything then .ok true
      else match Url.seen t with
        | some u => p.coversUrl u
        | none => .ok false := by
  unfold covers Url.seen
  rw [Url.ofJson]
  cases Url.parse t <;> rfl

theorem testFresh_congr (same : Url.seen x = Url.seen y) (p : Json) :
    testFresh p (.str x) = testFresh p (.str y) := by
  unfold testFresh
  cases ofJson? p with
  | none => rfl
  | some q => simp only [covers_eq_seen, same]

theorem testFresh_isOk (p : Json) {u : Json} (shown : u.isShowable = true) :
    ∃ b, testFresh p u = .ok b := by
  cases p with
  | str t => exact ⟨_, testFresh_of_not_breaks (not_breaks_of_showable shown t)⟩
  | _ => exact ⟨false, rfl⟩

/-- **Matching does not look at the rest of a URL.** A query or fragment, a user part, blanks around
the text, breaks in it and capitals of the protocol do not matter. Texts that differ in nothing
else, be they URLs or not, are matched by the same patterns, whatever the caches hold. -/
theorem test_variant {s s' : Session} (reached : s.cache.Reachable) (reached' : s'.cache.Reachable)
    (h : Relation.EqvGen Url.Variant x y) (p : Json) :
    ∃ b, (test p (.str x)).outcome.result s = .ok b ∧
      (test p (.str y)).outcome.result s' = .ok b := by
  obtain ⟨b, answer⟩ := testFresh_isOk p (u := .str x) rfl
  have answer' := answer
  rw [testFresh_congr (Url.seen_eq_of_variants h)] at answer'
  refine ⟨b, ?_, ?_⟩
  · rw [(test_gives p (.str x)).result_eq reached, answer]
  · rw [(test_gives p (.str y)).result_eq reached', answer']

/-- All changes at once, and a session whose cache is full of another text. -/
theorem test_variant_changed :
    let s' : Session := ⟨((PatternCache.ofCapacity 1).get "ftp://x/".toText).2.1, []⟩
    let x := " HTtP://u:p@h.\td/x?q#f\n".toText
    let y := "http://h.d/x".toText
    let pattern := Json.str "*://h.d/?".toText
    Session.start.cache.Reachable ∧ s'.cache.Reachable ∧ Relation.EqvGen Url.Variant x y ∧
      (test pattern (.str x)).outcome.result Session.start = .ok true ∧
      (test pattern (.str y)).outcome.result s' = .ok true := by
  intro s' x y pattern
  have reached : Session.start.cache.Reachable := .ofCapacity 256
  have reached' : s'.cache.Reachable := .get _ (.ofCapacity 1)
  have isName : Url.IsProtocolName "http".toText :=
    ⟨'h', "ttp".toText, rfl, rfl, by decide⟩
  have isName' : Url.IsProtocolName "HTtP".toText :=
    ⟨'H', "TtP".toText, rfl, rfl, by decide⟩
  have isUser : ∀ c ∈ "u:p".toText, Authority.IsUserChar c := by
    intro c mem
    have cases : c = 'u' ∨ c = ':' ∨ c = 'p' := by simpa [String.toText] using mem
    rcases cases with rfl | rfl | rfl <;> exact ⟨by decide, rfl, by decide, by decide⟩
  have undressed : Url.Variant x "http://u:p@h.d/x?q#f".toText :=
    @Url.Variant.dress [char ' '] [char '\n'] "HTtP".toText "http".toText "u:p@h.\td/x?q#f".toText
      (List.forall_mem_singleton.mpr rfl) (List.forall_mem_singleton.mpr rfl) isName' rfl
  have tailless : Url.Variant "http://u:p@h.d/x?q#f".toText "http://u:p@h.d/x".toText :=
    @Url.Variant.tail "http://u:p@h.d/x".toText "?q#f".toText (by rintro _ ⟨⟩; rfl) (.inl rfl)
  have userless : Url.Variant "http://u:p@h.d/x".toText y :=
    @Url.Variant.user "http".toText "u:p".toText "h.d/x".toText isName isUser
  have variants : Relation.EqvGen Url.Variant x y :=
    ((Relation.EqvGen.rel _ _ undressed).trans _ _ _ (.rel _ _ tailless)).trans _ _ _
      (.rel _ _ userless)
  obtain ⟨b, answer, answer'⟩ := test_variant reached reached' variants pattern
  have matched : (test pattern (.str y)).outcome.result s' = .ok true := by
    rw [result_test_eq_true_iff reached']
    decide
  obtain rfl := Except.ok.inj (answer'.symm.trans matched)
  exact ⟨reached, reached', variants, answer, matched⟩

end Pattern

end ProxySelection
