import ProxySelection.Proofs.Json.Limits
import ProxySelection.Proofs.Service.Usable
import ProxySelection.Proofs.Table.Loading

/-!
Runs over files that cannot be loaded.

A file that cannot be loaded is reported, and the run ends with code 2, unless the contents are
beyond reading (`RouteTable.BeyondReading`): bytes that are not UTF-8, an integer of too many
digits, and arrays and objects too deep inside each other. These faults are not reported, neither
by loading nor by the run, which breaks off with them: `CommandLine.unreported_iff_beyondReading`.
Nor is it reported by loading that the operating system does not take the path, but a run takes such
a path for one under which there is nothing.
-/

namespace ProxySelection

namespace Text

/-- Without carriage returns the ends of lines stay as they are. -/
theorem withLineFeeds_eq_self {t : Text} (none : ∀ c ∈ t, c ≠ '\r') : t.withLineFeeds = t := by
  fun_induction withLineFeeds t with
  | case1 t => exact absurd rfl (none _ List.mem_cons_self)
  | case2 t => exact absurd rfl (none _ List.mem_cons_self)
  | case3 c t _ _ ih => rw [ih fun c mem => none c (List.mem_cons_of_mem _ mem)]
  | case4 => rfl

end Text

namespace RouteTable

/-- Why the contents of a file are beyond reading: they are not UTF-8, or in the JSON text that they
are an integer has too many digits, or arrays and objects lie too deep inside each other. -/
inductive BeyondReading (depth : Nat) (contents : List UInt8) : LoadFault → Prop where
  | notText : (∀ t, Utf8.encode t ≠ .ok contents) → BeyondReading depth contents .notText
  | integer {t : Text} {fault : Decimal.Fault} : Utf8.encode t = .ok contents →
      Json.read depth t.withLineFeeds = .error (.integer fault) →
        BeyondReading depth contents (.integer fault)
  | tooDeep {t : Text} {container : Json.Container} : Utf8.encode t = .ok contents →
      Json.read depth t.withLineFeeds = .error (.tooDeep container) →
        BeyondReading depth contents (.tooDeep container)

variable {depth : Nat} {contents : List UInt8} {fault : LoadFault} {path : Text}

/-! ### Faults that are not reported -/

theorem itemsOf_unreported_iff :
    (itemsOf depth path contents = .error fault ∧ CommandLine.isReported fault = false) ↔
      BeyondReading depth contents fault := by
  constructor
  · rintro ⟨failed, unreported⟩
    unfold itemsOf at failed
    split at failed
    · rename_i decoded
      cases failed
      exact .notText (Utf8.decode_eq_none_iff.mp decoded)
    · rename_i t decoded
      have encoded := Utf8.decode_eq_some_iff.mp decoded
      simp only at failed
      split at failed
      · cases failed
        cases unreported
      · rename_i fault read
        cases failed
        exact .integer encoded read
      · rename_i container read
        cases failed
        exact .tooDeep encoded read
      · split at failed
        · cases failed
        · cases failed
          cases unreported
  · rintro (none | ⟨encoded, read⟩ | ⟨encoded, read⟩)
    · simp [itemsOf, Utf8.decode_eq_none_iff.mpr none, CommandLine.isReported]
    · simp [itemsOf, Utf8.decode_eq_some_iff.mpr encoded, read, CommandLine.isReported]
    · simp [itemsOf, Utf8.decode_eq_some_iff.mpr encoded, read, CommandLine.isReported]

/-- Loading fails unreported only at a path that is not taken, and at the contents of a file, and
there if they are beyond reading. -/
theorem itemsIn_unreported_iff {file : File} :
    (itemsIn depth path file = .error fault ∧ CommandLine.isReported fault = false) ↔
      (∃ refusal, path.nativeFault? = some refusal ∧ fault = .notPath refusal) ∨
        path.nativeFault? = none ∧
          ∃ contents, file = .octets contents ∧ BeyondReading depth contents fault := by
  unfold itemsIn
  cases refused : path.nativeFault? with
  | some refusal =>
    constructor
    · rintro ⟨⟨⟩, _⟩
      exact .inl ⟨refusal, rfl, rfl⟩
    · rintro (⟨_, ⟨⟩, rfl⟩ | ⟨⟨⟩, _⟩)
      exact ⟨rfl, rfl⟩
  | none =>
    cases file with
    | missing =>
      constructor
      · rintro ⟨⟨⟩, ⟨⟩⟩
      · rintro (⟨_, ⟨⟩, _⟩ | ⟨_, _, ⟨⟩, _⟩)
    | directory =>
      constructor
      · rintro ⟨⟨⟩, ⟨⟩⟩
      · rintro (⟨_, ⟨⟩, _⟩ | ⟨_, _, ⟨⟩, _⟩)
    | octets contents => simpa using itemsOf_unreported_iff

/-! ### Files that are beyond reading -/

/-- It takes bytes that are not UTF-8, or a run of more digits than an integer may have, or more
opening brackets than may be open. -/
theorem BeyondReading.cause (beyond : BeyondReading depth contents fault) :
    (∀ t, Utf8.encode t ≠ .ok contents) ∨ ∃ t, Utf8.encode t = .ok contents ∧
      ((∃ n, Decimal.digitLimit < n ∧ Json.HasRun n t.withLineFeeds) ∨
        depth < t.withLineFeeds.countP Json.isBracket) := by
  cases beyond with
  | notText none => exact .inl none
  | @integer t _ encoded read =>
    obtain ⟨n, _, long, run⟩ := Json.exists_run_of_read read
    exact .inr ⟨t, encoded, .inl ⟨n, long, run⟩⟩
  | @tooDeep t _ encoded read =>
    exact .inr ⟨t, encoded, .inr (Json.lt_brackets_of_read read)⟩

/-- A text of characters has octets. -/
theorem exists_encode {t : Text} (chars : ∀ c ∈ t, c.isChar = true) :
    ∃ octets, Utf8.encode t = .ok octets :=
  ⟨_, if_pos (List.all_eq_true.mpr chars)⟩

theorem beyondReading_digits {c : CodePoint} {ds : Text} (digits : ∀ d ∈ c :: ds, d.isDigit = true)
    (notZero : c ≠ '0') (long : Decimal.digitLimit ≤ ds.length) :
    ∃ octets, Utf8.encode (c :: ds) = .ok octets ∧
      BeyondReading depth octets (.integer (.tooLongToRead (ds.length + 1))) := by
  obtain ⟨digit, rest⟩ := List.forall_mem_cons.mp digits
  obtain ⟨octets, encoded⟩ := exists_encode fun d mem => CodePoint.isChar_of_isIn (digits d mem)
  refine ⟨octets, encoded, .integer encoded ?_⟩
  rw [Text.withLineFeeds_eq_self, Json.read_eq_integer digit notZero rest long]
  rintro d mem rfl
  exact absurd (digits _ mem) (by decide)

theorem beyondReading_brackets {n : Nat} (deep : depth < n) :
    ∃ octets, Utf8.encode (List.replicate n (char '[')) = .ok octets ∧
      BeyondReading depth octets (.tooDeep .array) := by
  have brackets : ∀ c ∈ List.replicate n (char '['), c = char '[' :=
    fun c => List.eq_of_mem_replicate
  obtain ⟨octets, encoded⟩ := exists_encode fun c mem => brackets c mem ▸ rfl
  refine ⟨octets, encoded, .tooDeep encoded ?_⟩
  have read := Json.read_eq_tooDeep deep []
  rw [List.append_nil] at read
  rw [Text.withLineFeeds_eq_self, read]
  intro c mem
  rw [brackets c mem]
  decide

end RouteTable

namespace CommandLine

open RouteTable

/-- A run takes its routes from a path and checks a URL. -/
structure Checks (env : Settings.Environment) (arguments : List Text) (path url : Text) : Prop where
  options : ∃ st o, Settings.ofEnvironment env = .ok st ∧
    Options.read (defaults st) arguments = .ok o ∧ o.config = some path ∧ o.check = some url
  nonempty : url ≠ []

variable {w : World} {env : Settings.Environment} {arguments : List Text} {path url : Text}
  {o : Options}

/-! ### A run that checks a URL -/

theorem loadOrEmpty_gives_nothing {file : File} (absent : isThere path file = false) :
    (loadOrEmpty w.depth path file).outcome.Gives (.ok .empty) [.noTable path] := by
  rw [loadOrEmpty, if_neg (Bool.eq_false_iff.mp absent)]
  exact Attempt.lift_bind_pure (Run.gives_note (by simp [Notice.source]))

theorem isThere_of_itemsIn {file : File} {items : List Json}
    (found : itemsIn w.depth path file = .ok items) : isThere path file = true := by
  unfold itemsIn at found
  split at found
  · cases found
  · cases found
  · cases found
  · rename_i native
    rw [isThere, native]
    rfl

theorem loadOrEmpty_gives_loaded {file : File} {items : List Json}
    (found : itemsIn w.depth path file = .ok items) :
    (loadOrEmpty w.depth path file).outcome.Gives (.ok ⟨kept items⟩) (loadReports path items) := by
  rw [loadOrEmpty, if_pos (isThere_of_itemsIn found)]
  exact load_gives_ok found

theorem loadOrEmpty_gives_fault {file : File} {fault : LoadFault}
    (present : isThere path file = true) (failed : itemsIn w.depth path file = .error fault) :
    (loadOrEmpty w.depth path file).outcome.Gives (.error fault) [] := by
  rw [loadOrEmpty, if_pos present]
  exact load_gives_error failed

/-- The run does what is done with the routes under its path. -/
theorem run_gives {x : Except Fault Report} {reports : List Notice}
    (checks : Checks env arguments path url)
    (served : ∀ o : Options, o.check = some url → (serveFrom w o path).outcome.Gives x reports) :
    (run w env arguments).outcome.Gives (x.map .finished) reports := by
  obtain ⟨st, o, settings, read, config, check⟩ := checks.options
  have under : (runWith w st o).outcome.Gives x reports := by
    refine Attempt.lift_bind_yields (Run.gives_resizeCache st.cacheSize) fun _ _ => ?_
    rw [config]
    exact served o check
  refine Attempt.ofExcept_bind_yields (a := st) (by rw [settings]; rfl) ?_
  rw [read]
  exact Attempt.gives_bind_pure under Ending.finished

/-- With a table, which may be the empty one for want of a file, the URL is checked. -/
theorem run_gives_checked {t : RouteTable} {reports : List Notice}
    (checks : Checks env arguments path url)
    (loaded : (loadOrEmpty w.depth path (w.file path)).outcome.Gives (.ok t) reports) :
    (run w env arguments).outcome.Gives ((checked t url).map .finished) reports := by
  refine run_gives checks fun o check => ?_
  rw [← List.append_nil reports]
  refine Attempt.lift_bind_yields loaded ?_
  rintro _ rfl
  obtain ⟨c, rest, rfl⟩ := List.exists_cons_of_ne_nil checks.nonempty
  change (serve w o t).outcome.Gives _ _
  rw [serve, check]
  exact checkUrl_gives t (c :: rest)

theorem run_gives_reported {fault : LoadFault} (checks : Checks env arguments path url)
    (failed : (loadOrEmpty w.depth path (w.file path)).outcome.Gives (.error fault) [])
    (told : isReported fault = true) :
    (run w env arguments).outcome.Gives (.ok (.finished ⟨2, [], []⟩))
      [.loadFailed fault.message] := by
  refine run_gives (x := .ok ⟨2, [], []⟩) checks fun o _ => ?_
  refine Attempt.lift_bind_yields failed ?_
  rintro _ rfl
  simp only [if_pos told]
  have noted : (Run.note (.loadFailed fault.message)).Gives () [.loadFailed fault.message] :=
    Run.gives_note (by simp [Notice.source])
  exact Attempt.lift_bind_pure (f := fun _ => (⟨2, [], []⟩ : Report)) noted

theorem run_gives_unreported {fault : LoadFault} (checks : Checks env arguments path url)
    (failed : (loadOrEmpty w.depth path (w.file path)).outcome.Gives (.error fault) [])
    (untold : isReported fault = false) :
    (run w env arguments).outcome.Gives (.error (.load fault)) [] := by
  refine run_gives (x := .error (.load fault)) checks fun o _ => ?_
  refine Attempt.lift_bind_yields failed ?_
  rintro _ rfl
  simp only [if_neg (Bool.eq_false_iff.mp untold)]
  exact Attempt.gives_throw _

/-- **Loading fails unreported exactly where a file is beyond reading**, or where the operating
system does not take the path. Whatever else is found under a path, a directory or nothing included,
gives a table or a fault that is reported. So a run that checks a URL says that no route is selected
if there is no file, says which route is selected from a table that was loaded, and ends with code 2
on a fault that is reported; but on a file that is beyond reading it breaks off with the fault.
Contents are beyond reading only if they are not UTF-8, hold a run of digits that is too long for an
integer, or hold more opening brackets than may be open. All three come about: whatever is not
UTF-8, digits that are too many and brackets that are too deep are beyond reading. -/
theorem unreported_iff_beyondReading {s : Session} (reached : s.cache.Reachable) :
    (∀ (depth : Nat) (path : Text) file fault,
      ((load depth path file).outcome.result s = .error fault ∧ isReported fault = false) ↔
        (∃ refusal, path.nativeFault? = some refusal ∧ fault = .notPath refusal) ∨
          path.nativeFault? = none ∧
            ∃ contents, file = .octets contents ∧ BeyondReading depth contents fault) ∧
    (∀ w env arguments path url, Checks env arguments path url →
      (isThere path (w.file path) = false → (run w env arguments).outcome.result s =
        (printed 1 (directLine url)).map .finished) ∧
      (∀ t, (load w.depth path (w.file path)).outcome.result s = .ok t →
        (run w env arguments).outcome.result s = (checked t url).map .finished) ∧
      (∀ fault, isThere path (w.file path) = true →
        (load w.depth path (w.file path)).outcome.result s = .error fault →
        isReported fault = true →
          (run w env arguments).outcome.result s = .ok (.finished ⟨2, [], []⟩) ∧
          ((run w env arguments).outcome.after s).reports =
            s.reports ++ [.loadFailed fault.message]) ∧
      (∀ contents fault, path.nativeFault? = none → w.file path = .octets contents →
        BeyondReading w.depth contents fault →
          (run w env arguments).outcome.result s = .error (.load fault))) ∧
    (∀ depth contents fault, BeyondReading depth contents fault →
      (∀ t, Utf8.encode t ≠ .ok contents) ∨ ∃ t, Utf8.encode t = .ok contents ∧
        ((∃ n, Decimal.digitLimit < n ∧ Json.HasRun n t.withLineFeeds) ∨
          depth < t.withLineFeeds.countP Json.isBracket)) ∧
    (∀ depth contents, (∀ t, Utf8.encode t ≠ .ok contents) →
      BeyondReading depth contents .notText) ∧
    (∀ depth (c : CodePoint) (ds : Text), (∀ d ∈ c :: ds, d.isDigit = true) → c ≠ '0' →
      Decimal.digitLimit ≤ ds.length → ∃ octets, Utf8.encode (c :: ds) = .ok octets ∧
        BeyondReading depth octets (.integer (.tooLongToRead (ds.length + 1)))) ∧
    (∀ depth n, depth < n → ∃ octets, Utf8.encode (List.replicate n (char '[')) = .ok octets ∧
      BeyondReading depth octets (.tooDeep .array)) := by
  refine ⟨fun depth path file fault => ?_, fun w env arguments path url checks => ⟨?_, ?_, ?_, ?_⟩,
    fun _ _ _ beyond => beyond.cause, fun _ _ none => .notText none,
    fun _ _ _ digits notZero long => beyondReading_digits digits notZero long,
    fun _ _ deep => beyondReading_brackets deep⟩
  · rw [load_eq_error_iff reached]
    exact itemsIn_unreported_iff
  · intro absent
    exact (run_gives_checked checks (loadOrEmpty_gives_nothing absent)).result_eq reached
  · intro t loaded
    obtain ⟨items, found, rfl⟩ := (load_eq_ok_iff reached).mp loaded
    exact (run_gives_checked checks (loadOrEmpty_gives_loaded found)).result_eq reached
  · intro fault present failed told
    have gives := loadOrEmpty_gives_fault present ((load_eq_error_iff reached).mp failed)
    obtain ⟨ending, added, _⟩ := run_gives_reported checks gives told s reached
    exact ⟨ending, added⟩
  · intro contents fault native there beyond
    have present : isThere path (w.file path) = true := by
      rw [there, isThere, native]
      rfl
    obtain ⟨failed, untold⟩ : itemsIn w.depth path (w.file path) = .error fault ∧
        isReported fault = false :=
      itemsIn_unreported_iff.mpr (.inr ⟨native, contents, there, beyond⟩)
    have gives := loadOrEmpty_gives_fault present failed
    exact (run_gives_unreported checks gives untold).result_eq reached

/-- One byte that is not UTF-8 makes a run break off that checks a URL. -/
theorem unreported_of_byte :
    let path := "routes.json".toText
    let w : World := ⟨1000, fun _ => .octets [0xFF], true⟩
    let arguments := ["--config".toText, path, "--check".toText, "http://a/".toText]
    (load w.depth path (w.file path)).outcome.result Session.start = .error .notText ∧
      isReported .notText = false ∧
      (run w [] arguments).outcome.result Session.start = .error (.load .notText) := by
  intro path w arguments
  have reached : Session.start.cache.Reachable := .ofCapacity _
  obtain ⟨loading, running, _⟩ := unreported_iff_beyondReading reached
  have beyond : BeyondReading w.depth [0xFF] .notText :=
    .notText (Utf8.decode_eq_none_iff.mp (by rfl))
  have checks : Checks [] arguments path "http://a/".toText :=
    ⟨⟨_, _, rfl, rfl, rfl, rfl⟩, by decide⟩
  obtain ⟨failed, untold⟩ :=
    (loading w.depth path (w.file path) .notText).mpr (.inr ⟨rfl, _, rfl, beyond⟩)
  obtain ⟨_, _, _, broken⟩ := running w [] arguments path _ checks
  exact ⟨failed, untold, broken _ _ rfl rfl beyond⟩

end CommandLine

end ProxySelection
