import ProxySelection.Proofs.CommandLine.Given
import ProxySelection.CommandLine.Run

/-!
The ports that the program is set up with.

A port comes from the settings, whose rules bound it (`Settings.IsBounded`), unless the command line
gives another one (`Options.portAsked`), which only has to be an integer. What is not positive is
left out on the way, so that a free port or no proxy stands in for it; what is too large is not. A
run is taken apart, step by step, down to where the program is set up (`run_setsUp`), and there the
ports are seen to be those that were asked for: `CommandLine.ports_fit_iff`.
-/

namespace ProxySelection

namespace Settings

/-! ### The bounds of settings -/

/-- The numbers of settings are within their bounds. -/
structure IsBounded (st : Settings) : Prop where
  cacheSize : 0 ≤ st.cacheSize
  apiPort : 0 ≤ st.apiPort ∧ st.apiPort ≤ lastPort
  proxyPort : 0 ≤ st.proxyPort ∧ st.proxyPort ≤ lastPort

theorem checkCacheSize_int_iff {n : Int} : checkCacheSize (.int n) = .ok () ↔ 0 ≤ n := by
  simp only [checkCacheSize, isNegative, bind, Except.bind]
  by_cases negative : n < 0
  · exact iff_of_false (by simp [negative, throw_ne_ok]) (by omega)
  · exact iff_of_true (by simp [negative, pure, Except.pure]) (by omega)

theorem checkPort_int_iff {name : Text} {n : Int} :
    checkPort name (.int n) = .ok () ↔ 0 ≤ n ∧ n ≤ lastPort := by
  simp only [checkPort, isNegative, isAtMostLastPort, bind, Except.bind, pure, Except.pure]
  by_cases negative : n < 0
  · exact iff_of_false (by simp [negative, throw_ne_ok]) (by omega)
  · by_cases low : n ≤ lastPort
    · exact iff_of_true (by simp [negative, low]) (by omega)
    · exact iff_of_false (by simp [negative, low, throw_ne_ok]) (by omega)

/-- Settings are not made with numbers out of bounds. -/
theorem isBounded_of_environment {env : Environment} {st : Settings}
    (made : ofEnvironment env = .ok st) : st.IsBounded := by
  obtain ⟨cacheSize, _, made⟩ := bind_eq_ok_iff.mp made
  obtain ⟨apiPort, _, made⟩ := bind_eq_ok_iff.mp made
  obtain ⟨proxyPort, _, made⟩ := bind_eq_ok_iff.mp made
  obtain ⟨level, checked, made⟩ := bind_eq_ok_iff.mp made
  obtain rfl := Except.ok.inj made
  obtain ⟨_, _, checked⟩ := bind_eq_ok_iff.mp checked
  obtain ⟨_, size, checked⟩ := bind_eq_ok_iff.mp checked
  obtain ⟨_, api, checked⟩ := bind_eq_ok_iff.mp checked
  obtain ⟨_, proxy, _⟩ := bind_eq_ok_iff.mp checked
  exact ⟨checkCacheSize_int_iff.mp size, checkPort_int_iff.mp api, checkPort_int_iff.mp proxy⟩

end Settings

namespace Options

/-! ### Ports that are asked for -/

/-- The port that is asked for by what an option is given last: that of the settings if it is not
given any, and none if its value is taken away. -/
def portAsked (setting : Int) (last : Option (Option Text)) : Option Int :=
  (last.map numberOf).getD (some setting)

/-- A command line names this integer last for an option. -/
def Names (arguments : List Text) (n : Name) (k : Int) : Prop :=
  ∃ t, lastGiven n (givenBy arguments) = some (some t) ∧ Decimal.read t = .ok k

theorem numberOf_eq_some_iff {v : Option Text} {k : Int} :
    numberOf v = some k ↔ ∃ t, v = some t ∧ Decimal.read t = .ok k := by
  unfold numberOf
  cases v with
  | none => simp
  | some t => cases read : Decimal.read t <;> simp [read, Except.toOption]

theorem names_iff {arguments : List Text} {n : Name} {k : Int} :
    Names arguments n k ↔ (lastGiven n (givenBy arguments)).map numberOf = some (some k) := by
  simp only [Names, Option.map_eq_some_iff, numberOf_eq_some_iff]
  constructor
  · rintro ⟨t, last, read⟩
    exact ⟨some t, last, t, rfl, read⟩
  · rintro ⟨_, last, t, rfl, read⟩
    exact ⟨t, last, read⟩

end Options

namespace CommandLine

variable {w : World} {s : Session} {st : Settings} {o : Options} {t : RouteTable} {path url : Text}
  {apiPort proxyPort : Option Int} {report : Report} {env : Settings.Environment}
  {arguments : List Text}

/-! ### Where the program is set up -/

/-- The ports that options lead to. -/
def IsPorts (o : Options) (apiPort proxyPort : Option Int) : Prop :=
  apiPort = apiPortOf o ∧ proxyPortOf o = .ok proxyPort

/-- On the way to a report the program is set up with these ports. -/
def Report.SetsUp (report : Report) (apiPort proxyPort : Option Int) : Prop :=
  ∃ routes, Step.setUp apiPort proxyPort routes ∈ report.steps

theorem launch_setsUp {a p : Option Int}
    (sets : ((launch w a p t).result s).SetsUp apiPort proxyPort) :
    apiPort = a ∧ proxyPort = p := by
  obtain ⟨routes, mem⟩ := sets
  have steps : ∃ rest, ((launch w a p t).result s).steps = .setUp a p t.size :: rest ∧
      Step.setUp apiPort proxyPort routes ∉ rest := by
    unfold launch
    cases w.ready with
    | true => exact ⟨[_, _, _], rfl, by cases p <;> simp⟩
    | false => exact ⟨[_, _], rfl, by simp⟩
  obtain ⟨rest, whole, missing⟩ := steps
  rw [whole] at mem
  rcases List.mem_cons.mp mem with same | later
  · cases same
    exact ⟨rfl, rfl⟩
  · exact absurd later missing

theorem not_setsUp_checkUrl (done : (checkUrl t url).outcome.result s = .ok report) :
    ¬ report.SetsUp apiPort proxyPort := by
  obtain ⟨e, _, rest⟩ := Attempt.result_bind_eq_ok_iff.mp done
  rw [Attempt.result_ofExcept] at rest
  rintro ⟨routes, mem⟩
  cases e with
  | none =>
    obtain rfl := report_of_printed rest
    cases mem
  | some r =>
    obtain ⟨server, _, line⟩ := bind_eq_ok_iff.mp rest
    obtain rfl := report_of_printed line
    cases mem

theorem serve_setsUp (done : (serve w o t).outcome.result s = .ok report)
    (sets : report.SetsUp apiPort proxyPort) : IsPorts o apiPort proxyPort := by
  unfold serve at done
  split at done
  · exact absurd sets (not_setsUp_checkUrl done)
  · obtain ⟨port, known, rest⟩ := Attempt.result_bind_eq_ok_iff.mp done
    obtain rfl := Except.ok.inj rest
    obtain ⟨rfl, rfl⟩ := launch_setsUp sets
    exact ⟨rfl, (Attempt.result_ofExcept _).symm.trans known⟩

theorem serveFrom_setsUp (done : (serveFrom w o path).outcome.result s = .ok report)
    (sets : report.SetsUp apiPort proxyPort) : IsPorts o apiPort proxyPort := by
  unfold serveFrom at done
  rw [Attempt.result_lift_bind] at done
  split at done
  · exact serve_setsUp done sets
  · split at done
    · rw [Attempt.result_lift_bind] at done
      obtain rfl := Attempt.result_pure_eq_ok_iff.mp done
      obtain ⟨routes, mem⟩ := sets
      cases mem
    · exact absurd done Attempt.result_throw_ne_ok

theorem runWith_setsUp (done : (runWith w st o).outcome.result s = .ok report)
    (sets : report.SetsUp apiPort proxyPort) : IsPorts o apiPort proxyPort := by
  unfold runWith at done
  rw [Attempt.result_lift_bind] at done
  split at done
  · exact serveFrom_setsUp done sets
  · exact absurd done Attempt.result_throw_ne_ok

/-- A run that sets the program up does so with the ports of its options. -/
theorem run_setsUp (done : (run w env arguments).outcome.result s = .ok (.finished report))
    (sets : report.SetsUp apiPort proxyPort) :
    ∃ st o, Settings.ofEnvironment env = .ok st ∧ Options.read (defaults st) arguments = .ok o ∧
      IsPorts o apiPort proxyPort := by
  obtain ⟨st, made, rest⟩ := Attempt.result_bind_eq_ok_iff.mp done
  rw [Attempt.result_ofExcept, mapError_eq_ok_iff] at made
  split at rest
  · have stopped := Attempt.result_pure_eq_ok_iff.mp rest
    cases stopped
  · rename_i o read
    obtain ⟨report', served, rest⟩ := Attempt.result_bind_eq_ok_iff.mp rest
    have same := Attempt.result_pure_eq_ok_iff.mp rest
    cases same
    exact ⟨st, o, made, read, runWith_setsUp served sets⟩

/-! ### The ports -/

/-- A port that may be handed over: none, or one between 1 and the last one. -/
def PortFits (port : Option Int) : Prop := ∀ n, port = some n → 1 ≤ n ∧ n ≤ Settings.lastPort

/-- Of a port that is left out unless it is positive, only the upper bound is in question. -/
theorem portFits_filter_iff {port : Option Int} :
    PortFits (port.filter (0 < ·)) ↔ ∀ n, port = some n → n ≤ Settings.lastPort := by
  cases port with
  | none => simp [PortFits]
  | some n =>
    by_cases positive : 0 < n
    · have least : 1 ≤ n := positive
      simp [PortFits, Option.filter, positive, least]
    · have low : n ≤ Settings.lastPort := by omega
      simp [PortFits, Option.filter, positive, low]

/-- Settings that are bounded leave the upper bound to what the command line names. -/
theorem portFits_asked_iff {setting : Int} {n : Options.Name}
    (bounded : setting ≤ Settings.lastPort) :
    PortFits ((Options.portAsked setting
        (Options.lastGiven n (Options.givenBy arguments))).filter (0 < ·)) ↔
      ∀ k, Options.Names arguments n k → k ≤ Settings.lastPort := by
  simp only [portFits_filter_iff, Options.names_iff, Options.portAsked]
  cases (Options.lastGiven n (Options.givenBy arguments)).map Options.numberOf with
  | none => simpa using bounded
  | some asked => simp

theorem proxyPortOf_eq_ok {port : Option Int} (known : proxyPortOf o = .ok port) :
    port = if o.noProxy then none else o.proxyPort.filter (0 < ·) := by
  unfold proxyPortOf at known
  split at known
  · rename_i off
    rw [if_pos off]
    exact (Except.ok.inj known).symm
  · rename_i on
    rw [if_neg on]
    split at known
    · rename_i n asked
      rw [asked, ← Except.ok.inj known]
      simp [Option.filter]
    · cases known

/-- A run in which variables are set, and further ones by a file. -/
def runFrom (w : World) (preset : List (Text × Text)) (file : Option Text)
    (arguments : List Text) : Attempt Fault Ending := do
  let env ← Attempt.ofExcept ((Settings.environment preset file).mapError .settings)
  run w env arguments

open Options in
/-- **A port is too large exactly if the command line names it so.** Let a run set the program up,
whatever the variables, the file of variables and the command line. The settings are within their
bounds then. The service gets the port that is asked for, by the command line or else by the
settings, or a free one if that is not positive; so does the proxy, but that there is no proxy
instead of a free port, and none if it is switched off. So no port that is handed over is below 1,
and it is above the last one exactly if the command line names such a port for it last: settings are
refused for it, options are not. -/
theorem ports_fit_iff {preset : List (Text × Text)} {file : Option Text}
    (done : (runFrom w preset file arguments).outcome.result s = .ok (.finished report))
    (sets : report.SetsUp apiPort proxyPort) :
    let last (n : Name) := lastGiven n (givenBy arguments)
    ∃ env st, Settings.environment preset file = .ok env ∧
      Settings.ofEnvironment env = .ok st ∧ st.IsBounded ∧
      apiPort = (portAsked st.apiPort (last .apiPort)).filter (0 < ·) ∧
      proxyPort = (if (last .noProxy).isSome then none
        else (portAsked st.proxyPort (last .proxyPort)).filter (0 < ·)) ∧
      (PortFits apiPort ↔ ∀ n, Names arguments .apiPort n → n ≤ Settings.lastPort) ∧
      (PortFits proxyPort ↔ (last .noProxy).isSome ∨
        ∀ n, Names arguments .proxyPort n → n ≤ Settings.lastPort) := by
  intro last
  obtain ⟨env, known, rest⟩ := Attempt.result_bind_eq_ok_iff.mp done
  rw [Attempt.result_ofExcept, mapError_eq_ok_iff] at known
  obtain ⟨st, o, made, read, rfl, proxy⟩ := run_setsUp rest sets
  have bounded := Settings.isBounded_of_environment made
  have left := Options.read_eq_ok read
  have api : apiPortOf o = (portAsked st.apiPort (last .apiPort)).filter (0 < ·) := by
    rw [apiPortOf, left.apiPort]
    rfl
  have proxy : proxyPort = if (last .noProxy).isSome then none
      else (portAsked st.proxyPort (last .proxyPort)).filter (0 < ·) := by
    rw [proxyPortOf_eq_ok proxy, left.noProxy, left.proxyPort]
    simp [defaults, portAsked, last]
  refine ⟨env, st, known, made, bounded, api, proxy, ?_, ?_⟩
  · rw [api]
    exact portFits_asked_iff bounded.apiPort.2
  · rw [proxy]
    split
    · rename_i off
      exact iff_of_true nofun (.inl off)
    · rename_i on
      rw [or_iff_right on]
      exact portFits_asked_iff bounded.proxyPort.2

/-- Both ports are named too large, one of them over a port that a variable holds and the other over
one that a file sets. The program is set up with what was named. -/
theorem ports_fit_iff_of_large :
    let w : World := ⟨1000, fun _ => .missing, true⟩
    let preset := [("PROXYROUTE_API_PORT".toText, "8123".toText)]
    let file := some "PROXYROUTE_PROXY_PORT=9090\n".toText
    let arguments := ["--api-port=70000".toText, "--proxy-port".toText, "65536".toText]
    let report : Report := ⟨0, [],
      [.setUp (some 70000) (some 65536) 0, .startService, .runProxy, .shutDown]⟩
    (runFrom w preset file arguments).outcome.result Session.start = .ok (.finished report) ∧
      report.SetsUp (some 70000) (some 65536) ∧
      (∃ env st, Settings.environment preset file = .ok env ∧
        Settings.ofEnvironment env = .ok st ∧ st.IsBounded) ∧
      ¬ PortFits (some 70000) ∧ ¬ PortFits (some 65536) := by
  intro w preset file arguments report
  have done : (runFrom w preset file arguments).outcome.result Session.start =
      .ok (.finished report) := rfl
  have sets : report.SetsUp (some 70000) (some 65536) := ⟨0, List.mem_cons_self⟩
  obtain ⟨env, st, known, made, bounded, _, _, api, proxy⟩ := ports_fit_iff done sets
  refine ⟨done, sets, ⟨env, st, known, made, bounded⟩, ?_, ?_⟩
  · have named : Options.Names arguments .apiPort 70000 := ⟨_, rfl, rfl⟩
    rw [api]
    intro low
    exact absurd (low _ named) (by decide)
  · have named : Options.Names arguments .proxyPort 65536 := ⟨_, rfl, rfl⟩
    rw [proxy]
    rintro (off | low)
    · cases off
    · exact absurd (low _ named) (by decide)

end CommandLine

end ProxySelection
