import ProxySelection.Proofs.Url.Parsed

/-!
Authorities as they are written.

`Authority.written` is the text `user:password@host:port` of an authority. One that was read was
written so, but for the colon in front of a port that is left out, and what is written of it is
read as the same authority: `eq_written_of_read`, `read_written`. The host decides how this goes
(`IsHostText`). In brackets it ends at the one that closes, and otherwise it holds no colon, so
that a port behind it is never taken for a part of it.
-/

namespace ProxySelection

namespace Authority

/-- A user part with its mark. -/
def userFront : Option Text → Text
  | none => []
  | some user => user ++ [char '@']

/-- A user name and a password with their marks. -/
def userText : Option Text → Option Text → Text
  | none, _ => []
  | some name, none => name ++ [char '@']
  | some name, some password => name ++ char ':' :: password ++ [char '@']

/-- A port as it was written, with its mark. -/
def portPart : Option (Nat × Text) → Text
  | none => []
  | some (_, digits) => char ':' :: digits

/-- The text of an authority. -/
def written (a : Authority) : Text :=
  userText a.username a.password ++ (a.host ++ portPart a.port)

/-- A name in brackets, or one without an opening bracket and without a colon. -/
inductive IsHostText : Text → Prop where
  | bracketed {name : Text} : char ']' ∉ name → IsHostText (char '[' :: (name ++ [char ']']))
  | plain {name : Text} : char '[' ∉ name → char ':' ∉ name → IsHostText name

variable {t host port : Text} {a : Authority} {user : Option Text}

/-! ### The user part -/

theorem userText_splitUser (user : Option Text) :
    userText (splitUser user).1 (splitUser user).2 = userFront user := by
  cases user with
  | none => rfl
  | some t =>
    cases cut : Text.cut ':' t with
    | mk name password =>
      have parts : splitUser (some t) = (some name, password) := by simp only [splitUser, cut]
      have join := Text.cut_join ':' t
      rw [cut] at join
      rw [parts, ← join]
      cases password <;> simp [userText, userFront]

/-- A text is its user part and what follows the last mark of one. -/
theorem eq_userFront_append (t : Text) :
    t = userFront (Text.cutLast '@' t).1 ++ hostPart t ∧ char '@' ∉ hostPart t := by
  unfold hostPart
  cases cut : Text.cutLast '@' t with
  | mk user behind =>
    cases user with
    | none =>
      obtain ⟨rfl, free⟩ := Text.cutLast_eq_none_iff.mp cut
      exact ⟨rfl, free⟩
    | some user =>
      obtain ⟨whole, free⟩ := Text.cutLast_eq_some_iff.mp cut
      exact ⟨by simpa [userFront] using whole, free⟩

theorem cutLast_userFront (user : Option Text) (free : char '@' ∉ host) :
    Text.cutLast '@' (userFront user ++ host) = (user, host) := by
  cases user with
  | none => exact Text.cutLast_eq_none_iff.mpr ⟨rfl, free⟩
  | some user => exact Text.cutLast_eq_some_iff.mpr ⟨by simp [userFront], free⟩

/-! ### The host -/

theorem IsHostText.splitHost_eq (h : IsHostText host) : splitHost host = (host, []) := by
  cases h with
  | @bracketed name free =>
    have cut : Text.cut ']' (name ++ [char ']']) = (name, some []) := Text.cut_append free []
    simp [splitHost, cut]
  | plain unopened free =>
    unfold splitHost
    split
    · simp at unopened
    · rw [Text.cut_of_not_mem free]
      rfl

theorem IsHostText.splitHost_append {host : Text} (h : IsHostText host) (port : Text) :
    splitHost (host ++ char ':' :: port) = (host, port) := by
  cases h with
  | @bracketed name free =>
    have cut : Text.cut ']' (name ++ char ']' :: char ':' :: port) =
        (name, some (char ':' :: port)) :=
      Text.cut_append free _
    simp [splitHost, cut]
  | plain unopened colonless =>
    unfold splitHost
    split
    · rename_i inside whole
      cases host with
      | nil => cases whole
      | cons c host =>
        obtain ⟨rfl, _⟩ := List.cons.inj whole
        simp at unopened
    · rw [Text.cut_append colonless]
      rfl

/-- A port behind a host does not change the name that is checked. -/
theorem IsHostText.bracketedName_append (h : IsHostText host) (free : char '[' ∉ port) :
    bracketedName (host ++ char ':' :: port) = bracketedName host := by
  cases h with
  | @bracketed name closed =>
    have cut : Text.cut ']' (name ++ char ']' :: char ':' :: port) =
        (name, some (char ':' :: port)) :=
      Text.cut_append closed _
    have cut' : Text.cut ']' (name ++ [char ']']) = (name, some []) := Text.cut_append closed []
    simp [bracketedName, Text.cut, cut, cut']
  | plain unopened colonless =>
    have still : char '[' ∉ host ++ char ':' :: port := by simp [unopened, free]
    unfold bracketedName
    rw [Text.cut_of_not_mem still, Text.cut_of_not_mem unopened]
    simp only [Text.cut_append colonless, Text.cut_of_not_mem colonless]

/-- An opening bracket behind the user part is checked along with what it opens. -/
theorem bracketedName_of_check (checked : checkBrackets t = .ok ())
    (opened : char '[' ∈ hostPart t) : ∃ name, bracketedName (hostPart t) = .ok name := by
  have inside : t.contains '[' = true := by
    rw [List.contains_iff_mem, (eq_userFront_append t).1]
    exact List.mem_append_right _ opened
  unfold checkBrackets at checked
  rw [if_pos inside] at checked
  split at checked
  · cases checked
  · cases named : bracketedName (hostPart t) with
    | ok name => exact ⟨name, rfl⟩
    | error fault =>
      rw [named] at checked
      cases checked

/-- Behind the user part of a text with proper brackets stands a host, and then nothing or a
colon and the port. -/
theorem hostPart_cases (checked : checkBrackets t = .ok ())
    (split_eq : splitHost (hostPart t) = (host, port)) (hosted : host ≠ []) :
    IsHostText host ∧
      (hostPart t = host ∧ port = [] ∨ hostPart t = host ++ char ':' :: port) := by
  unfold splitHost at split_eq
  split at split_eq
  · rename_i inside whole
    obtain ⟨name', named⟩ := bracketedName_of_check checked (by simp [whole])
    have before : Text.cut '[' (hostPart t) = ([], some inside) := by simp [whole, Text.cut]
    split at split_eq
    · rename_i name after cut
      obtain ⟨rfl, closed⟩ := Text.cut_eq_some_iff.mp cut
      obtain ⟨rfl, rfl⟩ := Prod.mk.inj split_eq
      unfold bracketedName at named
      rw [before] at named
      simp only [cut] at named
      refine ⟨by simpa using IsHostText.bracketed closed, ?_⟩
      cases after with
      | nil => exact .inl ⟨by simp [whole], rfl⟩
      | cons c after =>
        -- What follows the brackets passed the check, so it starts with a colon.
        have colon : c = ':' := by
          by_contra other
          simp [other] at named
        exact .inr (by simp [whole, colon])
    · obtain ⟨rfl, _⟩ := Prod.mk.inj split_eq
      exact absurd rfl hosted
  · rename_i unbracketed
    have unopened : char '[' ∉ hostPart t := by
      intro opened
      obtain ⟨name, named⟩ := bracketedName_of_check checked opened
      obtain ⟨before, inside, whole, free⟩ := List.eq_append_cons_of_mem opened
      have cut := Text.cut_eq_some_iff.mpr ⟨whole, free⟩
      have nonempty : before ≠ [] := by
        rintro rfl
        exact unbracketed inside whole
      unfold bracketedName at named
      rw [cut] at named
      simp [nonempty] at named
    obtain ⟨rfl, rfl⟩ := Prod.mk.inj split_eq
    have join := Text.cut_join ':' (hostPart t)
    have colonless := Text.not_mem_cut_fst ':' (hostPart t)
    have front : char '[' ∉ (Text.cut ':' (hostPart t)).1 := by
      intro opened
      exact unopened (join ▸ List.mem_append_left _ opened)
    refine ⟨.plain front colonless, ?_⟩
    cases rest : (Text.cut ':' (hostPart t)).2 with
    | none =>
      rw [rest] at join
      exact .inl ⟨by simpa using join.symm, rfl⟩
    | some port =>
      rw [rest] at join
      exact .inr (by simpa using join.symm)

theorem IsHostText.getLast?_ne (h : IsHostText host) : host.getLast? ≠ some (char ':') := by
  intro colon
  cases h with
  | @bracketed name =>
    rw [← List.cons_append, List.getLast?_concat] at colon
    exact absurd colon (by decide)
  | plain _ free => exact free (List.mem_of_getLast? colon)

/-! ### Reading what is written -/

theorem readPort_cases {p : Option (Nat × Text)} (read : readPort port = .ok p) :
    p = none ∧ port = [] ∨
      portPart p = char ':' :: port ∧ ∀ c ∈ port, c.isDigit = true := by
  cases p with
  | none =>
    refine .inl ⟨rfl, ?_⟩
    unfold readPort at read
    split at read
    · rename_i empty
      exact List.isEmpty_iff.mp empty
    · repeat (split at read; cases read)
      cases read
  | some p =>
    obtain ⟨rfl, _, ascii, _, _⟩ := readPort_eq_some read
    exact .inr ⟨rfl, (Text.isAsciiDigits_iff.mp ascii).2⟩

theorem digits_of_read {n : Nat} {digits : Text} (read : Authority.read t = .ok a)
    (found : a.port = some (n, digits)) : digits ≠ [] ∧ ∀ c ∈ digits, c.isDigit = true := by
  obtain ⟨_, _, _, _, port⟩ := read_eq_ok_iff.mp read
  rw [found] at port
  obtain ⟨rfl, _, ascii, _⟩ := readPort_eq_some port
  exact Text.isAsciiDigits_iff.mp ascii

/-- What follows the user part of a text that is read is the host with its port, or the host and
a colon without a port. -/
theorem hostPart_of_read (read : Authority.read t = .ok a) (hosted : a.host ≠ []) :
    IsHostText a.host ∧ (hostPart t = a.host ++ portPart a.port ∨
      a.port = none ∧ hostPart t = a.host ++ [char ':']) := by
  obtain ⟨brackets, _, _, host, port⟩ := read_eq_ok_iff.mp read
  cases split_eq : splitHost (hostPart t) with
  | mk name digits =>
    rw [split_eq] at host port
    obtain rfl : a.host = name := host
    obtain ⟨isHost, behind⟩ := hostPart_cases brackets split_eq hosted
    refine ⟨isHost, ?_⟩
    rcases behind with ⟨alone, rfl⟩ | followed
    · have none : a.port = none := (Except.ok.inj port).symm
      exact .inl (by simp [alone, none, portPart])
    · rcases readPort_cases port with ⟨none, rfl⟩ | ⟨shown, _⟩
      · exact .inr ⟨none, followed⟩
      · exact .inl (shown ▸ followed)

theorem colon_not_mem_username {name : Text} (read : Authority.read t = .ok a)
    (named : a.username = some name) : char ':' ∉ name := by
  obtain ⟨_, _, user, _⟩ := read_eq_ok_iff.mp read
  cases found : (Text.cutLast '@' t).1 with
  | none =>
    rw [found, named] at user
    simp [splitUser] at user
  | some text =>
    have free := Text.not_mem_cut_fst ':' text
    rw [found, named] at user
    simp only [splitUser, Prod.mk.injEq, Option.some.injEq] at user
    exact user.1 ▸ free

theorem written_of_read (read : Authority.read t = .ok a) :
    a.written = userFront (Text.cutLast '@' t).1 ++ (a.host ++ portPart a.port) := by
  obtain ⟨_, _, user, _, _⟩ := read_eq_ok_iff.mp read
  have front : userText a.username a.password = userFront (Text.cutLast '@' t).1 :=
    (congrArg (fun parts => userText parts.1 parts.2) user).trans (userText_splitUser _)
  rw [written, front]

/-- The text of an authority that was read is the one it was read from, unless a colon stood
there without a port. -/
theorem eq_written_of_read (read : Authority.read t = .ok a) (hosted : a.host ≠ []) :
    t = a.written ∨ a.port = none ∧ t = a.written ++ [char ':'] := by
  have whole := (eq_userFront_append t).1
  rw [written_of_read read]
  rcases (hostPart_of_read read hosted).2 with same | ⟨none, colon⟩
  · rw [same] at whole
    exact .inl whole
  · rw [colon] at whole
    exact .inr ⟨none, by simpa [none, portPart] using whole⟩

theorem mem_of_mem_written {c : CodePoint} (read : Authority.read t = .ok a) (hosted : a.host ≠ [])
    (mem : c ∈ a.written) : c ∈ t := by
  rcases eq_written_of_read read hosted with same | ⟨_, same⟩
  · exact same ▸ mem
  · exact same ▸ List.mem_append_left _ mem

/-- Host and port do not end with a colon. -/
theorem getLast?_hostAndPort (read : Authority.read t = .ok a) (hosted : a.host ≠ []) :
    (a.host ++ portPart a.port).getLast? ≠ some (char ':') := by
  cases found : a.port with
  | none =>
    rw [portPart, List.append_nil]
    exact (hostPart_of_read read hosted).1.getLast?_ne
  | some p =>
    obtain ⟨n, digits⟩ := p
    obtain ⟨nonempty, digit⟩ := digits_of_read read found
    have last : (a.host ++ char ':' :: digits).getLast? = digits.getLast? := by
      simp [List.getLast?_append, List.getLast?_cons, List.getLast?_eq_some_getLast nonempty]
    intro colon
    rw [portPart, last] at colon
    exact absurd (digit ':' (List.mem_of_getLast? colon)) (by decide)

/-- Host and port hold no mark of a user part. -/
theorem mark_not_mem_hostAndPort (read : Authority.read t = .ok a) (hosted : a.host ≠ []) :
    char '@' ∉ a.host ++ portPart a.port := by
  have free := (eq_userFront_append t).2
  rcases (hostPart_of_read read hosted).2 with same | ⟨none, same⟩
  · exact same ▸ free
  · rw [same] at free
    simp only [List.mem_append, not_or] at free
    simp [none, portPart, free.1]

/-! Whether brackets pass depends on which kinds there are and on the name that is checked, and a
text passes the check of characters if it has none that a text that passes has not. -/

theorem checkBrackets_congr {t' : Text} (opened : char '[' ∈ t ↔ char '[' ∈ t')
    (closed : char ']' ∈ t ↔ char ']' ∈ t')
    (named : bracketedName (hostPart t) = bracketedName (hostPart t')) :
    checkBrackets t = checkBrackets t' := by
  have has {c : CodePoint} (same : c ∈ t ↔ c ∈ t') : t.contains c = t'.contains c := by
    rw [Bool.eq_iff_iff, List.contains_iff_mem, List.contains_iff_mem, same]
  unfold checkBrackets
  rw [has opened, has closed, named]

theorem checkFolding_eq_ok_iff :
    checkFolding t = .ok () ↔ ∀ c ∈ t, c.toNat ∉ foldingCharacters := by
  simp [checkFolding]

theorem checkFolding_of_subset {t' : Text} (subset : t' ⊆ t) (passed : checkFolding t = .ok ()) :
    checkFolding t' = .ok () := by
  rw [checkFolding_eq_ok_iff] at passed ⊢
  exact fun c mem => passed c (subset mem)

theorem hostPart_userFront (user : Option Text) (free : char '@' ∉ host) :
    hostPart (userFront user ++ host) = host := by
  rw [hostPart, cutLast_userFront user free]

/-- A colon without a port does not matter to the check of brackets. -/
theorem checkBrackets_colon (h : IsHostText host) (free : char '@' ∉ host) (user : Option Text) :
    checkBrackets (userFront user ++ (host ++ [char ':'])) =
      checkBrackets (userFront user ++ host) := by
  have free' : char '@' ∉ host ++ [char ':'] := by simp [free]
  refine checkBrackets_congr (by simp) (by simp) ?_
  rw [hostPart_userFront user free', hostPart_userFront user free]
  exact h.bracketedName_append (by simp)

/-- Nor does a user part without brackets. -/
theorem checkBrackets_userFront (free : char '@' ∉ host)
    (bracketless : char '[' ∉ userFront user ∧ char ']' ∉ userFront user) :
    checkBrackets (userFront user ++ host) = checkBrackets host := by
  refine checkBrackets_congr (by simp [bracketless.1]) (by simp [bracketless.2]) ?_
  have alone : hostPart host = host := hostPart_userFront none free
  rw [hostPart_userFront user free, alone]

/-- What is written of an authority that was read is read as the same one. -/
theorem read_written (read : Authority.read t = .ok a) (hosted : a.host ≠ []) :
    Authority.read a.written = .ok a := by
  rcases eq_written_of_read read hosted with same | ⟨none, colon⟩
  · exact same ▸ read
  · obtain ⟨brackets, folding, user, _, _⟩ := read_eq_ok_iff.mp read
    obtain ⟨isHost, _⟩ := hostPart_of_read read hosted
    have free : char '@' ∉ a.host := by
      intro mem
      exact mark_not_mem_hostAndPort read hosted (List.mem_append_left _ mem)
    have whole : a.written = userFront (Text.cutLast '@' t).1 ++ a.host := by
      simp [written_of_read read, none, portPart]
    have cut : Text.cutLast '@' a.written = ((Text.cutLast '@' t).1, a.host) := by
      rw [whole]
      exact cutLast_userFront _ free
    rw [colon] at folding
    refine read_eq_ok_iff.mpr ⟨?_, ?_, ?_, ?_, ?_⟩
    · rw [whole, ← checkBrackets_colon isHost free, ← List.append_assoc, ← whole, ← colon]
      exact brackets
    · exact checkFolding_of_subset (List.subset_append_left _ _) folding
    · rw [cut]
      exact user
    · rw [hostPart, cut, isHost.splitHost_eq]
    · rw [hostPart, cut, isHost.splitHost_eq, none]
      rfl

/-- Host and port are read by themselves as they are behind a user part without brackets. -/
theorem read_hostAndPort (read : Authority.read t = .ok a) (hosted : a.host ≠ [])
    (bracketless : char '[' ∉ userText a.username a.password ∧
      char ']' ∉ userText a.username a.password) :
    Authority.read (a.host ++ portPart a.port) =
      .ok { a with username := none, password := none } := by
  have free := mark_not_mem_hostAndPort read hosted
  have whole := written_of_read read
  have front : userText a.username a.password = userFront (Text.cutLast '@' t).1 :=
    List.append_cancel_right whole
  rw [front] at bracketless
  have again := read_written read hosted
  rw [whole] at again
  obtain ⟨brackets, folding, _, host, port⟩ := read_eq_ok_iff.mp again
  rw [hostPart_userFront _ free] at host port
  have alone : Text.cutLast '@' (a.host ++ portPart a.port) = (none, a.host ++ portPart a.port) :=
    cutLast_userFront none free
  refine read_eq_ok_iff.mpr ⟨?_, ?_, ?_, ?_, ?_⟩
  · rw [← checkBrackets_userFront free bracketless]
    exact brackets
  · exact checkFolding_of_subset (List.subset_append_right _ _) folding
  · rw [alone]
    rfl
  · rw [hostPart, alone]
    exact host
  · rw [hostPart, alone]
    exact port

end Authority

end ProxySelection
