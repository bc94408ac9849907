import ProxySelection.Proofs.Session.Inversion
import ProxySelection.CommandLine.Options

/-!
What a command line gives to the options.

Taking options goes from argument to argument. Here the whole line is looked at: `givenBy` lists
what it gives to the options, and `lastGiven` is what one of them is given last. A step that does
not refuse the line puts what is given in its place and leaves the other options as they are
(`Options.put`), so by induction a command line that is not refused leaves every option with what it
was given last, or with its default: `Options.read_eq_ok`.
-/

namespace ProxySelection

namespace Options

/-! ### What is given -/

/-- The value that stands after an equals sign, none if it is taken away. -/
def explicit (t : Text) : Option Text := if t = mark then none else some t

/-- What arguments give to the options, in order: a value, or none for an option whose value is
taken away and for one that takes no value. -/
def given : List Argument → List (Name × Option Text)
  | [] => []
  | .option n (some t) :: rest => (n, explicit t) :: given rest
  | .option .noProxy none :: rest => (.noProxy, none) :: given rest
  | .option n none :: .value t :: rest => (n, some t) :: given rest
  | _ :: rest => given rest

/-- What a command line gives to the options, in order. -/
def givenBy (arguments : List Text) : List (Name × Option Text) :=
  ((sortAll arguments).toOption.map given).getD []

/-- What an option is given last, if it is given anything. -/
def lastGiven (n : Name) (gs : List (Name × Option Text)) : Option (Option Text) :=
  gs.reverse.lookup n

/-- The integer that a value denotes, if it is there and is one. -/
def numberOf (v : Option Text) : Option Int := v.bind fun t => (Decimal.read t).toOption

/-- The options with one that is given. -/
def put (o : Options) : Name × Option Text → Options
  | (.config, v) => { o with config := v }
  | (.check, v) => { o with check := v }
  | (.apiPort, v) => { o with apiPort := numberOf v }
  | (.proxyPort, v) => { o with proxyPort := numberOf v }
  | (.noProxy, _) => { o with noProxy := true }
  | (.help, _) => o

/-! Each option is changed by what it is given, and by nothing else. -/

section Put

variable (o : Options) (n : Name) (v : Option Text)

theorem put_config : (o.put (n, v)).config = if n = .config then v else o.config := by
  cases n <;> rfl

theorem put_check : (o.put (n, v)).check = if n = .check then v else o.check := by
  cases n <;> rfl

theorem put_apiPort : (o.put (n, v)).apiPort = if n = .apiPort then numberOf v else o.apiPort := by
  cases n <;> rfl

theorem put_proxyPort :
    (o.put (n, v)).proxyPort = if n = .proxyPort then numberOf v else o.proxyPort := by
  cases n <;> rfl

theorem put_noProxy : (o.put (n, v)).noProxy = if n = .noProxy then true else o.noProxy := by
  cases n <;> rfl

end Put

variable {o o' : Options} {n : Name} {t : Text}

/-! ### One option -/

theorem integer_eq_ok {k : Int} (read : integer t = .ok k) : numberOf (some t) = some k := by
  have known : Decimal.read t = .ok k := mapError_eq_ok_iff.mp read
  rw [numberOf, Option.bind_some, known]
  rfl

theorem withValue_eq_ok (taken : o.withValue n t = .ok o') : o' = o.put (n, some t) := by
  cases n with
  | config => exact (Except.ok.inj taken).symm
  | check => exact (Except.ok.inj taken).symm
  | apiPort =>
    obtain ⟨k, read, set⟩ := bind_eq_ok_iff.mp taken
    obtain rfl := Except.ok.inj set
    rw [put, integer_eq_ok read]
  | proxyPort =>
    obtain ⟨k, read, set⟩ := bind_eq_ok_iff.mp taken
    obtain rfl := Except.ok.inj set
    rw [put, integer_eq_ok read]
  | help => cases taken
  | noProxy => cases taken

theorem withoutValue_eq_ok (taken : o.withoutValue n = .ok o') : o' = o.put (n, none) := by
  cases n with
  | help => cases taken
  | noProxy => cases taken
  | _ => exact (Except.ok.inj taken).symm

theorem withExplicit_eq_ok (taken : o.withExplicit n t = .ok o') : o' = o.put (n, explicit t) := by
  unfold withExplicit at taken
  unfold explicit
  split at taken
  · rename_i marked
    rw [if_pos marked]
    exact withoutValue_eq_ok taken
  · rename_i unmarked
    rw [if_neg unmarked]
    exact withValue_eq_ok taken

/-! ### All options -/

/-- Arguments that are not refused put what they give in its place, one after the other. -/
theorem take_eq_ok {strange : Bool} {as : List Argument} (taken : o.take strange as = .ok o') :
    o' = (given as).foldl put o := by
  fun_induction take o strange as with
  | case1 => cases taken
  | case2 => exact (Except.ok.inj taken).symm
  | case3 _ _ _ _ _ ih =>
    obtain ⟨_, step, rest⟩ := bind_eq_ok_iff.mp taken
    obtain rfl := withExplicit_eq_ok step
    exact ih _ rest
  | case4 => cases taken
  | case5 _ _ _ ih => exact ih taken
  | case6 _ _ n _ _ notHelp notSwitch ih =>
    obtain ⟨_, step, rest⟩ := bind_eq_ok_iff.mp taken
    obtain rfl := withValue_eq_ok step
    rw [given]
    · exact ih _ rest
    · exact notSwitch
  | case7 => cases taken
  | case8 => cases taken
  -- What belongs to no option gives nothing; it refuses the line only at its end.
  | case9 _ _ _ ih => exact ih taken
  | case10 _ _ _ _ ih => exact ih taken
  | case11 _ _ _ ih => exact ih taken

theorem lastGiven_cons (m : Name) (v : Option Text) (gs : List (Name × Option Text)) :
    lastGiven n ((m, v) :: gs) = (lastGiven n gs).or (if m = n then some v else none) := by
  have single : [(m, v)].lookup n = if m = n then some v else none := by
    by_cases same : m = n
    · simp [same]
    · have differs : (n == m) = false := beq_eq_false_iff_ne.mpr (Ne.symm same)
      simp [List.lookup_cons, differs, same]
  rw [lastGiven, List.reverse_cons, List.lookup_append, single, lastGiven]

/-- What one option changes, and no other one, is as this option is given last. -/
theorem foldl_put {α : Type} {f : Options → α} {u : Option Text → α}
    (step : ∀ o m v, f (put o (m, v)) = if m = n then u v else f o)
    (gs : List (Name × Option Text)) (o : Options) :
    f (gs.foldl put o) = ((lastGiven n gs).map u).getD (f o) := by
  induction gs generalizing o with
  | nil => rfl
  | cons g gs ih =>
    obtain ⟨m, v⟩ := g
    rw [List.foldl_cons, ih, lastGiven_cons, step]
    by_cases same : m = n
    · rw [if_pos same, if_pos same]
      cases lastGiven n gs <;> rfl
    · rw [if_neg same, if_neg same, Option.or_none]

/-- `o.IsLeftBy gs o'`: every option of `o'` is as it is given last, or as in `o` if it is not. -/
structure IsLeftBy (o : Options) (gs : List (Name × Option Text)) (o' : Options) : Prop where
  config : o'.config = (lastGiven .config gs).getD o.config
  check : o'.check = (lastGiven .check gs).getD o.check
  apiPort : o'.apiPort = ((lastGiven .apiPort gs).map numberOf).getD o.apiPort
  proxyPort : o'.proxyPort = ((lastGiven .proxyPort gs).map numberOf).getD o.proxyPort
  noProxy : o'.noProxy = ((lastGiven .noProxy gs).isSome || o.noProxy)

theorem isLeftBy_foldl (o : Options) (gs : List (Name × Option Text)) :
    o.IsLeftBy gs (gs.foldl put o) where
  config := by rw [foldl_put put_config, Option.map_id']
  check := by rw [foldl_put put_check, Option.map_id']
  apiPort := foldl_put put_apiPort gs o
  proxyPort := foldl_put put_proxyPort gs o
  noProxy := by
    rw [foldl_put put_noProxy]
    cases lastGiven .noProxy gs <;> rfl

/-- A command line that is not refused leaves every option as it is given last. -/
theorem read_eq_ok {arguments : List Text} (done : read o arguments = .ok o') :
    o.IsLeftBy (givenBy arguments) o' := by
  obtain ⟨as, sorted, taken⟩ := bind_eq_ok_iff.mp done
  rw [take_eq_ok taken, givenBy, sorted]
  exact isLeftBy_foldl o (given as)

end Options

end ProxySelection
