import Mathlib.Data.List.Infix
import Mathlib.Data.List.TakeWhile
import ProxySelection.Json.Reader

/-!
What is beyond reading JSON.

A text that is not JSON is refused with a complaint at some offset. Besides, an integer may have too
many digits, and arrays and objects may lie too deep inside each other. Neither comes about without
a cause in the text: a run of more digits than an integer may have (`exists_run_of_read`), or more
opening brackets than may be open at once (`lt_brackets_of_read`). And both come about: digits alone
are refused as soon as they are too many (`read_eq_integer`), and brackets as soon as they are too
deep, whatever follows them (`read_eq_tooDeep`).

The reader is followed token by token. `Progress.Follows` says what one token may lead to, and so
how many arrays and objects are open after a run.
-/

namespace ProxySelection

namespace Json

/-- Somewhere in the text this many digits follow each other. -/
def HasRun (n : Nat) (t : Text) : Prop :=
  ∃ ds, ds <:+: t ∧ ds.length = n ∧ ∀ c ∈ ds, c.isDigit = true

/-- Whether a character opens an array or object. -/
def isBracket (c : CodePoint) : Bool := c = '[' || c = '\x7b'

/-- Whether a lexeme opens an array or object. -/
def Lexeme.opens : Lexeme → Bool
  | .openArray | .openObject => true
  | _ => false

theorem HasRun.mono {n : Nat} {t t' : Text} (h : HasRun n t) (part : t <:+: t') : HasRun n t' := by
  obtain ⟨ds, inside, length, digits⟩ := h
  exact ⟨ds, inside.trans part, length, digits⟩

/-! ### Tokens that are broken -/

/-- A broken lexeme in a text is a complaint, or an integer of as many digits as follow each other
there. -/
def Fault.Fits (t : Text) : Fault → Prop
  | .notJson _ _ => True
  | .integer fault => ∃ n, fault = .tooLongToRead n ∧ Decimal.digitLimit < n ∧ HasRun n t
  | .tooDeep _ => False

variable {f : Fault} {t t' rest whole : Text}

theorem Fault.Fits.mono (h : f.Fits t) (part : t <:+: t') : f.Fits t' := by
  cases f with
  | notJson _ _ => trivial
  | integer fault =>
    obtain ⟨n, same, long, run⟩ := h
    exact ⟨n, same, long, run.mono part⟩
  | tooDeep _ => exact h

theorem complaint_of_stringPieces {start offset : Nat}
    (h : stringPieces start offset t = .error f) :
    ∃ complaint place, f = .notJson complaint place := by
  fun_induction stringPieces start offset t generalizing f with
  | case2 => cases h
  | case4 offset a b c d e t n value ih =>
    cases later : stringPieces start (offset + 6) (e :: t) with
    | ok out =>
      rw [later] at h
      cases h
    | error fault =>
      rw [later] at h
      cases h
      exact ih later
  | case8 offset c t _ _ x escape ih =>
    cases later : stringPieces start (offset + 2) t with
    | ok out =>
      rw [later] at h
      cases h
    | error fault =>
      rw [later] at h
      cases h
      exact ih later
  | case10 offset c t _ _ _ _ _ _ ih =>
    cases later : stringPieces start (offset + 1) t with
    | ok out =>
      rw [later] at h
      cases h
    | error fault =>
      rw [later] at h
      cases h
      exact ih later
  | _ =>
    cases h
    exact ⟨_, _, rfl⟩

theorem digits_of_wholePart (h : wholePart? t = some (whole, rest)) :
    whole <+: t ∧ ∀ c ∈ whole, c.isDigit = true := by
  unfold wholePart? at h
  split at h
  · cases h
    exact ⟨⟨_, rfl⟩, by simp⟩
  · split at h
    · cases h
      exact ⟨List.takeWhile_prefix _, fun c mem => List.mem_takeWhile_imp mem⟩
    · cases h
  · cases h

theorem fits_of_number (h : number? t = some (.broken f, rest)) : f.Fits t := by
  unfold number? at h
  split at h
  rename_i negative unsigned sign
  have suffix : unsigned <:+ t := by
    split at sign
    · cases sign
      exact List.suffix_cons _ _
    · cases sign
      exact List.suffix_rfl
  obtain ⟨⟨whole, behind⟩, read, h⟩ := Option.bind_eq_some_iff.mp h
  obtain ⟨start, digits⟩ := digits_of_wholePart read
  simp only at h
  split at h
  · split at h
    · rename_i long
      cases h
      exact ⟨_, rfl, long, whole, start.isInfix.trans suffix.isInfix, rfl, digits⟩
    · cases h
  · cases h

theorem opens_of_number {lexeme : Lexeme} (h : number? t = some (lexeme, rest)) :
    lexeme.opens = false := by
  unfold number? at h
  split at h
  obtain ⟨⟨whole, behind⟩, _, h⟩ := Option.bind_eq_some_iff.mp h
  simp only at h
  split at h
  · split at h
    · cases h
      rfl
    · cases h
      rfl
  · cases h
    rfl

theorem fits_of_lexemeAt {offset taken : Nat} {c : CodePoint}
    (h : lexemeAt offset c t = (.broken f, taken)) : f.Fits (c :: t) := by
  unfold lexemeAt at h
  split at h
  case h_7 =>
    split at h
    · cases h
    · rename_i fault broken
      cases h
      obtain ⟨_, _, rfl⟩ := complaint_of_stringPieces broken
      trivial
  case h_8 =>
    split at h
    · cases h
    · split at h
      · rename_i lexeme rest number
        cases h
        exact fits_of_number number
      · cases h
  all_goals cases h

/-- A lexeme opens an array or object exactly if it starts with a bracket that does. -/
theorem opens_lexemeAt (offset : Nat) (c : CodePoint) (t : Text) :
    (lexemeAt offset c t).1.opens = isBracket c := by
  unfold lexemeAt
  split
  case h_7 =>
    split
    · rfl
    · rfl
  case h_8 =>
    rename_i notArray _ notObject _ _ _ _
    have other : isBracket c = false := by
      simp only [isBracket, decide_eq_false notArray, decide_eq_false notObject, Bool.or_false]
    rw [other]
    split
    · rfl
    · split
      · rename_i number
        exact opens_of_number number
      · rfl
  all_goals rfl

/-- A token that is broken fits the text it is in. -/
theorem fits_of_mem_tokens {offset : Nat} {token : Token} (mem : token ∈ tokens offset t)
    (broken : token.lexeme = .broken f) : f.Fits t := by
  fun_induction tokens offset t with
  | case1 offset =>
    obtain rfl := List.mem_singleton.mp mem
    cases broken
  | case2 offset c t _ ih => exact (ih mem).mono (List.suffix_cons c t).isInfix
  | case3 offset c t _ lexeme taken found _ ih =>
    rcases List.mem_cons.mp mem with rfl | later
    · cases broken
      exact fits_of_lexemeAt found
    · exact (ih later).mono ((List.drop_suffix taken t).trans (List.suffix_cons c t)).isInfix
  | case4 offset c t _ lexeme taken found _ =>
    obtain rfl := List.mem_singleton.mp mem
    cases broken
    exact fits_of_lexemeAt found

/-- There are no more tokens that open an array or object than brackets that do. -/
theorem countP_opens_tokens_le (offset : Nat) (t : Text) :
    (tokens offset t).countP (·.lexeme.opens) ≤ t.countP isBracket := by
  fun_induction tokens offset t with
  | case1 offset => simp [Lexeme.opens]
  | case2 offset c t _ ih =>
    rw [List.countP_cons]
    omega
  | case3 offset c t _ lexeme taken found _ ih =>
    have opens : lexeme.opens = isBracket c := by
      rw [← opens_lexemeAt offset c t, found]
    have fewer : (t.drop taken).countP isBracket ≤ t.countP isBracket :=
      (List.drop_sublist taken t).countP_le
    rw [List.countP_cons, List.countP_cons]
    simp only [opens]
    omega
  | case4 offset c t _ lexeme taken found _ =>
    have opens : lexeme.opens = isBracket c := by
      rw [← opens_lexemeAt offset c t, found]
    rw [List.countP_cons, List.countP_cons, List.countP_nil]
    simp only [opens]
    omega

/-! ### Going through the tokens -/

/-- How many arrays and objects are open. -/
def Progress.openCount : Progress → Nat
  | .complete _ => 0
  | .inside (.firstName _) opened => opened.length + 1
  | .inside (.name _) opened => opened.length + 1
  | .inside (.colon _ _) opened => opened.length + 1
  | .inside _ opened => opened.length

theorem openCount_supply (v : Json) (opened : List Frame) :
    (Progress.supply v opened).openCount = opened.length := by
  cases opened with
  | nil => rfl
  | cons frame opened =>
    cases frame with
    | array items => rfl
    | object members name => rfl

/-- What a token may lead to where this many arrays and objects are open: one more is open only if
the token opens it, and that is too deep only at the limit. -/
def Progress.Follows (depth count : Nat) (token : Token) : Except Fault Progress → Prop
  | .ok next => next.openCount ≤ count + if token.lexeme.opens then 1 else 0
  | .error (.notJson _ _) => True
  | .error (.integer fault) => token.lexeme = .broken (.integer fault)
  | .error (.tooDeep container) =>
    token.lexeme = .broken (.tooDeep container) ∨ depth ≤ count ∧ token.lexeme.opens = true

variable {depth : Nat} {token : Token}

theorem follows_enter (container : Container) (opened : List Frame)
    (opens : token.lexeme.opens = true) :
    Progress.Follows depth opened.length token (Progress.enter depth container opened) := by
  unfold Progress.enter
  by_cases room : opened.length < depth
  · rw [if_pos room]
    cases container <;> simp [Progress.Follows, Progress.openCount, opens]
  · rw [if_neg room]
    exact .inr ⟨by omega, opens⟩

theorem follows_supply {count : Nat} (v : Json) {opened : List Frame}
    (fewer : opened.length ≤ count) :
    Progress.Follows depth count token (.ok (.supply v opened)) := by
  rw [Progress.Follows, openCount_supply]
  omega

theorem follows_value (opened : List Frame) :
    Progress.Follows depth opened.length token (Progress.value depth opened token) := by
  unfold Progress.value
  split
  · rename_i opens
    exact follows_enter .array opened (by rw [opens]; rfl)
  · rename_i opens
    exact follows_enter .object opened (by rw [opens]; rfl)
  · exact follows_supply _ le_rfl
  · exact follows_supply _ le_rfl
  · rename_i fault broken
    cases fault with
    | notJson _ _ => trivial
    | integer _ => exact broken
    | tooDeep _ => exact .inl broken
  · trivial

theorem follows_name (members : Members) (opened : List Frame) :
    Progress.Follows depth (opened.length + 1) token (Progress.name members opened token) := by
  unfold Progress.name
  split
  · simp [Progress.Follows, Progress.openCount]
  · trivial
  · trivial

/-- One token further, at most one more array or object is open. -/
theorem follows_step (depth : Nat) (token : Token) (p : Progress) :
    Progress.Follows depth p.openCount token (p.step depth token) := by
  fun_cases Progress.step depth token p with
  | case1 v => simp [Progress.Follows, Progress.openCount]
  | case3 opened => exact follows_value opened
  | case4 items outer => exact follows_supply _ (Nat.le_succ _)
  | case5 opened => exact follows_value opened
  | case6 members opened => exact follows_supply _ (Nat.le_succ _)
  | case7 members opened => exact follows_name members opened
  | case8 members opened => exact follows_name members opened
  | case9 members name opened => simp [Progress.Follows, Progress.openCount]
  | case11 items outer => simp [Progress.Follows, Progress.openCount]
  | case12 members name outer => simp [Progress.Follows, Progress.openCount]
  | case13 items outer => exact follows_supply _ (Nat.le_succ _)
  | case14 members name outer => exact follows_supply _ (Nat.le_succ _)
  -- The other cases are complaints.
  | _ => trivial

/-- Arrays and objects lie too deep only if enough tokens have opened them. -/
theorem run_eq_tooDeep {p : Progress} {ts : List Token} {container : Container}
    (sound : ∀ token ∈ ts, ∀ c, token.lexeme ≠ .broken (.tooDeep c))
    (h : p.run depth ts = .error (.tooDeep container)) :
    depth < p.openCount + ts.countP (·.lexeme.opens) := by
  fun_induction Progress.run depth p ts with
  | case1 v => cases h
  | case2 next opened => cases h
  | case3 p token rest next stepped ih =>
    have follows := follows_step depth token p
    have later := ih (fun token mem => sound token (List.mem_cons_of_mem _ mem)) h
    rw [stepped] at follows
    change next.openCount ≤ _ at follows
    rw [List.countP_cons]
    omega
  | case4 p token rest fault stepped =>
    cases h
    have follows := follows_step depth token p
    rw [stepped] at follows
    rcases follows with broken | ⟨full, opens⟩
    · exact absurd broken (sound token List.mem_cons_self container)
    · rw [List.countP_cons, if_pos opens]
      omega

/-- An integer is refused only at a token that is broken. -/
theorem run_eq_integer {p : Progress} {ts : List Token} {fault : Decimal.Fault}
    (h : p.run depth ts = .error (.integer fault)) :
    ∃ token ∈ ts, token.lexeme = .broken (.integer fault) := by
  fun_induction Progress.run depth p ts with
  | case1 v => cases h
  | case2 next opened => cases h
  | case3 p token rest next stepped ih =>
    obtain ⟨found, mem, broken⟩ := ih h
    exact ⟨found, List.mem_cons_of_mem _ mem, broken⟩
  | case4 p token rest fault stepped =>
    cases h
    have follows := follows_step depth token p
    rw [stepped] at follows
    exact ⟨token, List.mem_cons_self, follows⟩

/-! ### Causes in the text -/

theorem read_cases (h : read depth t = .error f) :
    (∃ complaint offset, f = .notJson complaint offset) ∨
      Progress.run depth (.inside .value []) (tokens 0 t) = .error f := by
  unfold read at h
  split at h
  · cases h
    exact .inl ⟨_, _, rfl⟩
  · exact .inr h

/-- An integer is refused only if so many digits follow each other in the text. -/
theorem exists_run_of_read {fault : Decimal.Fault} (h : read depth t = .error (.integer fault)) :
    ∃ n, fault = .tooLongToRead n ∧ Decimal.digitLimit < n ∧ HasRun n t := by
  rcases read_cases h with ⟨_, _, other⟩ | ran
  · cases other
  · obtain ⟨token, mem, broken⟩ := run_eq_integer ran
    exact fits_of_mem_tokens mem broken

/-- Arrays and objects lie too deep only if so many brackets are in the text. -/
theorem lt_brackets_of_read {container : Container}
    (h : read depth t = .error (.tooDeep container)) : depth < t.countP isBracket := by
  rcases read_cases h with ⟨_, _, other⟩ | ran
  · cases other
  · have deep := run_eq_tooDeep (fun token mem c broken => fits_of_mem_tokens mem broken) ran
    have fewer := countP_opens_tokens_le 0 t
    simp only [Progress.openCount, List.length_nil] at deep
    omega

/-! ### Texts that are beyond reading -/

variable {c : CodePoint} {ds : Text}

theorem number_of_digits (digit : c.isDigit = true) (notZero : c ≠ '0')
    (digits : ∀ c ∈ ds, c.isDigit = true) (long : Decimal.digitLimit ≤ ds.length) :
    number? (c :: ds) = some (.broken (.integer (.tooLongToRead (ds.length + 1))), []) := by
  have all : ∀ d ∈ c :: ds, d.isDigit = true := List.forall_mem_cons.mpr ⟨digit, digits⟩
  have whole : wholePart? (c :: ds) = some (c :: ds, []) := by
    unfold wholePart?
    split
    · rename_i same
      exact absurd (List.cons.inj same).1 notZero
    · rename_i same
      cases same
      rw [if_pos digit, Json.digits, List.takeWhile_eq_self_iff.mpr all,
        List.dropWhile_eq_nil_iff.mpr all]
    · rename_i same
      cases same
  have unsigned : c ≠ '-' := by
    rintro rfl
    cases digit
  unfold number?
  split
  rename_i negative t sign
  split at sign
  · rename_i same
    exact absurd (List.cons.inj same).1 unsigned
  · cases sign
    have tooLong : (c :: ds).length > Decimal.digitLimit := Nat.lt_succ_of_le long
    rw [whole]
    simp only [Option.bind_eq_bind, Option.bind_some, fraction, exponent, List.isEmpty_nil,
      Option.isNone_none, and_self, if_true, if_pos tooLong]
    rfl

theorem find?_words_of_digit (digit : c.isDigit = true) (t : Text) :
    words.find? (fun w => w.1.isPrefixOf (c :: t)) = none := by
  have heads : ∀ w ∈ words, w.1.head?.map CodePoint.isDigit = some false := by decide
  rw [List.find?_eq_none]
  intro w mem starts
  obtain ⟨rest, same⟩ := List.isPrefixOf_iff_prefix.mp starts
  have head := heads w mem
  cases spelled : w.1 with
  | nil =>
    rw [spelled] at head
    cases head
  | cons x word =>
    rw [spelled] at head same
    obtain rfl := (List.cons.inj same).1
    rw [List.head?_cons, Option.map_some, digit] at head
    cases head

/-- So many digits alone are refused. -/
theorem read_eq_integer (digit : c.isDigit = true) (notZero : c ≠ '0')
    (digits : ∀ c ∈ ds, c.isDigit = true) (long : Decimal.digitLimit ≤ ds.length) :
    read depth (c :: ds) = .error (.integer (.tooLongToRead (ds.length + 1))) := by
  have other : ∀ x : CodePoint, x.isDigit = false → c ≠ x := by
    rintro x notDigit rfl
    exact absurd digit (by rw [notDigit]; decide)
  have front : (lexemeAt 0 c ds).1 = .broken (.integer (.tooLongToRead (ds.length + 1))) := by
    unfold lexemeAt
    split
    case h_8 =>
      rw [find?_words_of_digit digit ds, number_of_digits digit notZero digits long]
    all_goals exact absurd rfl (other _ (by decide))
  have noGap : ¬ isGap c = true := by
    simp [isGap, other ' ' (by decide), other '\t' (by decide), other '\n' (by decide),
      other '\r' (by decide)]
  have cut : tokens 0 (c :: ds) =
      [⟨0, .broken (.integer (.tooLongToRead (ds.length + 1)))⟩] := by
    rw [tokens, if_neg noGap]
    simp only [front]
    rfl
  have noMark : (c :: ds).head? ≠ some (char '\uFEFF') := by
    rw [List.head?_cons, Ne, Option.some_inj]
    exact other _ (by decide)
  rw [read, if_neg noMark, cut]
  rfl

theorem run_open_eq_tooDeep {next : Expectation} (n offset : Nat) (opened : List Frame)
    (rest : Text)
    (expects : next = .value ∨ next = .firstItem) (room : opened.length ≤ depth)
    (many : depth < opened.length + n) :
    Progress.run depth (.inside next opened) (tokens offset (List.replicate n (char '[') ++ rest)) =
      .error (.tooDeep .array) := by
  induction n generalizing next offset opened with
  | zero => omega
  | succ n ih =>
    have front : tokens offset (List.replicate (n + 1) (char '[') ++ rest) =
        ⟨offset, .openArray⟩ :: tokens (offset + 1) (List.replicate n (char '[') ++ rest) := by
      rw [List.replicate_succ, List.cons_append, tokens, if_neg (by decide)]
      rfl
    have step : Progress.step depth ⟨offset, .openArray⟩ (.inside next opened) =
        Progress.enter depth .array opened := by
      rcases expects with rfl | rfl
      · rfl
      · rfl
    rw [front, Progress.run, step, Progress.enter]
    by_cases full : opened.length < depth
    · rw [if_pos full]
      exact ih _ _ (.inr rfl) full (by rw [List.length_cons]; omega)
    · rw [if_neg full]

/-- So many brackets alone are refused. -/
theorem read_eq_tooDeep {n : Nat} (deep : depth < n) (rest : Text) :
    read depth (List.replicate n (char '[') ++ rest) = .error (.tooDeep .array) := by
  obtain ⟨n, rfl⟩ := Nat.exists_eq_succ_of_ne_zero (Nat.ne_zero_of_lt deep)
  have noMark : (List.replicate (n + 1) (char '[') ++ rest).head? ≠ some (char '\uFEFF') := by
    rw [List.replicate_succ, List.cons_append, List.head?_cons]
    decide
  rw [read, if_neg noMark]
  exact run_open_eq_tooDeep _ _ _ _ (.inl rfl) (Nat.zero_le _) (by simpa using deep)

end Json

end ProxySelection
