import ProxySelection.Proofs.Number.Decimal
import ProxySelection.Proofs.Table.Keys
import ProxySelection.Proofs.Table.Loading
import ProxySelection.Proofs.Url.Legible

/-!
Changes of a table in place.

Where a table is changed in place, what was done before a failure stays done. `RouteTable.Edit` are
such programs. `add` appends to the table, `update` goes through its places and sets the first one
of the pattern, and `replace` fills another table, item by item, and puts it in place of this one.
Filling stops at the first item that is no route, with the ones before it in the table
(`addEach_on`). On the table itself no program leaves work half done: each does what
`RouteTable.perform` does (`add_on`, `update_on`, `replace_on`), so a table is as it was whenever a
change of it fails, which is stated with the causes in `unchanged_of_failure`.
-/

namespace ProxySelection

namespace RouteTable

/-- Programs that change a table in place, within a session, and may fail. -/
abbrev Edit (ε : Type) := ExceptT ε Program

namespace Edit

variable {ε ε' α β : Type}

/-- The outcome of a program on a table, and the table afterwards. -/
def on (e : Edit ε α) (t : RouteTable) : Run (Except ε α × RouteTable) := e.run.run t

/-- A route comes to the end of the table. -/
def push (r : Route) : Edit ε Unit := do
  announce r
  modify fun t => ⟨t.routes ++ [r]⟩

/-- The route of a value comes to the end of the table. -/
def add (v : Json) : Edit (List Issue) Route := do
  let r ← MonadExcept.ofExcept (Route.check v)
  push r
  return r

/-- The routes of values come to the end of the table, one after the other. -/
def addEach : List Json → Edit (List Issue) Unit
  | [] => return
  | v :: vs => do
    let _ ← add v
    addEach vs

/-- The routes of the items of a value come to the end of the table. -/
def fill (v : Json) : Edit Fault Unit :=
  match items? v with
  | none => throw .notIterable
  | some items => (addEach items).adapt .notRoute

/-- Another table is filled with the items of a value, and then takes the place of this one. -/
def replace (v : Json) : Edit Fault Unit := do
  let (outcome, fresh) ← (fill v).on .empty
  MonadExcept.ofExcept outcome
  set fresh

/-- Goes through routes, of which the first is at the given place of the table, up to one of the
pattern, and sets it to what the options make of it. -/
def updateFrom (pattern : Text) (options : Json) (place : Nat) :
    List Route → Edit Url.OverlayFault (Option Route)
  | [] => return none
  | r :: rs => do
    if r.pattern = pattern then
      let new ← MonadExcept.ofExcept (r.update options)
      modify fun t => ⟨t.routes.set place new⟩
      return some new
    else updateFrom pattern options (place + 1) rs

/-- The first route of a pattern is set to what the options make of it. -/
def update (pattern : Text) (options : Json) : Edit Url.OverlayFault (Option Route) := do
  let t ← get
  match ← updateFrom pattern options 0 t.routes with
  | none => return none
  | some new =>
    if new.pattern ≠ pattern then announce new
    return some new

/-! ### Going through a program -/

theorem on_ofExcept (x : Except ε α) (t : RouteTable) :
    (MonadExcept.ofExcept x : Edit ε α).on t = pure (x, t) := by
  cases x <;> rfl

theorem on_get (t : RouteTable) : (get : Edit ε RouteTable).on t = pure (.ok t, t) := rfl

theorem on_lift (r : Run α) (t : RouteTable) :
    (liftM r : Edit ε α).on t = (fun a => (.ok a, t)) <$> r := rfl

/-- A program in two parts goes on after a success, and ends with a failure and the table as the
first part left it. -/
theorem on_bind (e : Edit ε α) (f : α → Edit ε β) (t : RouteTable) :
    (e >>= f).on t = e.on t >>= fun
      | (.ok a, t') => (f a).on t'
      | (.error fault, t') => pure (.error fault, t') := by
  funext s
  change (ExceptT.bindCont f (e.on t s).1.1).run (e.on t s).1.2 (e.on t s).2 =
    (match (e.on t s).1 with
      | (.ok a, t') => (f a).on t'
      | (.error fault, t') => pure (.error fault, t')) (e.on t s).2
  obtain ⟨⟨x, t'⟩, s'⟩ := e.on t s
  cases x <;> rfl

theorem on_adapt (e : Edit ε α) (f : ε → ε') (t : RouteTable) :
    on (ExceptT.adapt f e) t = (fun out => (out.1.mapError f, out.2)) <$> e.on t := by
  rfl

/-! ### In place and by value -/

variable {t : RouteTable} {v : Json} {r : Route}

theorem add_on (v : Json) (t : RouteTable) : (add v).on t = t.orKept <$> (t.add v).outcome := by
  unfold add
  rw [on_bind, on_ofExcept, pure_bind]
  cases checked : Route.check v with
  | error issues =>
    rw [add_eq_of_error t checked, map_pure]
    rfl
  | ok r =>
    rw [add_eq_of_ok t checked]
    rfl

/-- What filling leaves: all routes, or those before the first item that is none. -/
def filled (t : RouteTable) (vs : List Json) :
    Except (List Issue) RouteTable → Except (List Issue) Unit × RouteTable
  | .ok t' => (.ok (), t')
  | .error issues => (.error issues, ⟨t.routes ++ kept (vs.takeWhile isRoute)⟩)

theorem filled_cons_of_ok (checked : Route.check v = .ok r) (t : RouteTable) (vs : List Json) :
    filled t (v :: vs) = filled ⟨t.routes ++ [r]⟩ vs := by
  funext x
  cases x with
  | ok t' => rfl
  | error issues =>
    have valid : isRoute v = true := isRoute_iff.mpr ⟨r, checked⟩
    simp only [filled]
    rw [List.takeWhile_cons_of_pos valid, kept_cons_of_ok checked, List.append_assoc]
    rfl

/-- Filling stops at the first item that is no route, with the routes before it taken in. -/
theorem addEach_on (vs : List Json) (t : RouteTable) :
    (addEach vs).on t = filled t vs <$> (t.addAll vs).outcome := by
  induction vs generalizing t with
  | nil => rfl
  | cons v vs ih =>
    unfold addEach addAll
    rw [on_bind, add_on, Attempt.outcome_bind]
    cases checked : Route.check v with
    | error issues =>
      have nothing : kept ((v :: vs).takeWhile isRoute) = [] := by
        rw [List.takeWhile_cons_of_neg (not_isRoute_of_error checked)]
        rfl
      rw [add_eq_of_error t checked]
      simp only [map_pure, pure_bind, orKept, filled, nothing, List.append_nil]
    | ok r =>
      have grown : t.append r = (fun _ => ⟨t.routes ++ [r]⟩) <$> announce r := rfl
      rw [add_eq_of_ok t checked, filled_cons_of_ok checked, grown]
      simp only [map_eq_pure_bind, bind_assoc, pure_bind, orKept, ih]

theorem fill_on (v : Json) :
    (fill v).on .empty = match items? v with
      | none => pure (.error .notIterable, .empty)
      | some items =>
        (fun out => (out.1.mapError .notRoute, out.2)) <$>
          filled .empty items <$> (empty.addAll items).outcome := by
  unfold fill
  cases items? v with
  | none => rfl
  | some items =>
    simp only [on_adapt, addEach_on]

theorem replace_on (v : Json) (t : RouteTable) :
    (replace v).on t = (fun x => t.orKept (x.map fun t' => ((), t'))) <$> (ofJson v).outcome := by
  unfold replace
  rw [on_bind, on_lift, fill_on]
  unfold ofJson
  cases items? v with
  | none => rfl
  | some items =>
    have read : Attempt.outcome (ExceptT.adapt Fault.notRoute (empty.addAll items)) =
        Except.mapError Fault.notRoute <$> (empty.addAll items).outcome := rfl
    simp only [read, map_eq_pure_bind, bind_assoc, pure_bind]
    refine congrArg _ (funext fun x => ?_)
    -- The other table takes the place of this one only if filling it did not fail.
    cases x with
    | ok t' => rfl
    | error issues => rfl

/-! ### Updating in place -/

/-- The place that is set is that of the first route of the pattern. -/
theorem updateFrom_on (pattern : Text) (options : Json) (front rs : List Route)
    (before : ∀ q ∈ front, q.pattern ≠ pattern) :
    (updateFrom pattern options front.length rs).on ⟨front ++ rs⟩ =
      pure (orKept ⟨front ++ rs⟩ (updated ⟨front ++ rs⟩ pattern options)) := by
  induction rs generalizing front with
  | nil =>
    have absent : (⟨front ++ []⟩ : RouteTable).find? pattern = none := by
      rw [List.append_nil]
      exact List.find?_eq_none.mpr fun q mem => by simpa using before q mem
    simp only [updated, absent]
    rfl
  | cons r rs ih =>
    by_cases here : r.pattern = pattern
    · have found : (⟨front ++ r :: rs⟩ : RouteTable).find? pattern = some r :=
        find?_eq_some_iff.mpr ⟨front, rs, rfl, before, here⟩
      simp only [updateFrom, if_pos here, updated, found]
      rw [on_bind, on_ofExcept, pure_bind]
      cases r.update options with
      | error fault => rfl
      | ok new =>
        have set : (front ++ r :: rs).set front.length new =
            replaceFirst pattern new (front ++ r :: rs) := by
          rw [replaceFirst_append before, replaceFirst_cons_of_eq here]
          simp
        simp only [Except.map, orKept, ← set]
        rfl
    · have next := ih (front ++ [r]) ?_
      · rw [List.length_append, List.append_assoc] at next
        simp only [updateFrom, if_neg here]
        exact next
      · intro q mem
        rcases List.mem_append.mp mem with earlier | last
        · exact before q earlier
        · rw [List.mem_singleton.mp last]
          exact here

theorem update_on (pattern : Text) (options : Json) (t : RouteTable) :
    (update pattern options).on t = t.orKept <$> (t.update pattern options).outcome := by
  have gone := updateFrom_on pattern options [] t.routes (by simp)
  simp only [List.nil_append, List.length_nil] at gone
  rw [update_eq]
  unfold update
  simp only [on_bind, on_get, pure_bind, gone]
  cases t.updated pattern options with
  | error fault => rfl
  | ok out =>
    obtain ⟨a, t'⟩ := out
    cases a with
    | none => rfl
    | some new =>
      dsimp only [orKept, announceRenamed]
      by_cases renamed : new.pattern ≠ pattern
      · rw [if_pos renamed, if_pos renamed]
        rfl
      · rw [if_neg renamed, if_neg renamed]
        rfl

end Edit

/-! ### Why a change fails -/

/-- The integers of a member are among those of the object. -/
theorem mem_integers_of_mem {ms : Members} {name : Text} {v : Json} {n : Int}
    (there : (name, v) ∈ ms) (mem : n ∈ v.integers) : n ∈ (Json.obj ms).integers := by
  induction ms with
  | nil => cases there
  | cons m ms ih =>
    change n ∈ m.2.integers ++ (Json.obj ms).integers
    rcases List.mem_cons.mp there with rfl | later
    · exact List.mem_append_left _ mem
    · exact List.mem_append_right _ (ih later)

theorem update_ne_unshowable {r : Route} {options : Json} {fault : Url.OverlayFault}
    (short : ∀ n ∈ options.integers, n.natAbs < 10 ^ Decimal.digitLimit)
    (failed : r.update options = .error fault) (f : Decimal.Fault) : fault ≠ .unshowable f := by
  obtain ⟨ms, v, rfl, named, laid⟩ := Route.overlay_of_update_error failed
  refine Url.overlay_ne_unshowable (fun n mem => short n ?_) laid f
  exact mem_integers_of_mem (Members.mem_of_get? named) mem

/-- With an integer that is too long the refusal cannot be worded, and the update fails for that. -/
theorem update_eq_unshowable (r : Route) {n : Int} (long : 10 ^ Decimal.digitLimit ≤ n.natAbs) :
    r.update (.obj [(Route.serverName, .obj [(Url.portTextName, .int n)])]) =
      .error (.unshowable .tooLongToWrite) := by
  have hidden : ¬ (Json.obj [(Url.portTextName, .int n)]).isShowable = true := by
    intro showable
    have short := List.all_eq_true.mp showable n (List.mem_singleton.mpr rfl)
    have digits := Decimal.lt_length_ofNat long
    exact absurd (of_decide_eq_true short) (by omega)
  have laid : r.server.overlay (.obj [(Url.portTextName, .int n)]) =
      .error (.unshowable .tooLongToWrite) := by
    cases read : Url.ofMembers (r.server.members.overlay [(Url.portTextName, .int n)]) with
    | error issues => simp only [Url.overlay, read, Url.OverlayFault.ofIssues, if_neg hidden]
    | ok w =>
      have there := Members.get?_overlay r.server.members [(Url.portTextName, .int n)]
        (by simp [Members.Distinct]) Url.portTextName
      rcases Checked.member_eq_ok_iff.mp (Url.address_of_ofMembers read).2.2 with
        ⟨absent, _⟩ | ⟨v, found, text⟩
      · rw [there] at absent
        cases absent
      · rw [there] at found
        cases found
        cases text
  have named : Route.changes [(Route.serverName, .obj [(Url.portTextName, .int n)])] = true := rfl
  have change : r.change [(Route.serverName, .obj [(Url.portTextName, .int n)])] =
      .error (.unshowable .tooLongToWrite) := by
    simp only [Route.change, Members.get?, if_pos, laid]
    rfl
  simp only [Route.update, Route.revise, named, if_true, change]
  rfl

variable {s : Session} {t t' : RouteTable}

theorem orKept_eq_error_iff {ε α : Type} {x : Except ε (α × RouteTable)} {e : ε} :
    t.orKept x = (.error e, t') ↔ t' = t ∧ x = .error e := by
  cases x with
  | ok out => simp [orKept]
  | error e' => simp [orKept, eq_comm, and_comm]

theorem add_eq_error_iff (reached : s.cache.Reachable) {v : Json} {issues : List Issue} :
    (t.add v).outcome.result s = .error issues ↔ Route.check v = .error issues := by
  cases checked : Route.check v with
  | ok r =>
    rw [(add_gives_ok t checked).result_eq reached]
    simp
  | error issues' =>
    rw [(add_gives_error t checked).result_eq reached]
    simp

theorem updated_eq_error_iff {pattern : Text} {options : Json} {fault : Url.OverlayFault} :
    t.updated pattern options = .error fault ↔
      ∃ r, t.find? pattern = some r ∧ r.update options = .error fault := by
  unfold updated
  cases t.find? pattern with
  | none => simp
  | some r => cases changed : r.update options <;> simp [Except.map, changed]

/-- A value makes no table if it has no items, or at the first item that is no route. -/
theorem ofJson_eq_error_iff (reached : s.cache.Reachable) {v : Json} {fault : Fault} :
    (ofJson v).outcome.result s = .error fault ↔
      items? v = none ∧ fault = .notIterable ∨
        ∃ front w back issues, items? v = some (front ++ w :: back) ∧
          (∀ x ∈ front, isRoute x = true) ∧ Route.check w = .error issues ∧
          fault = .notRoute issues := by
  cases found : items? v with
  | none =>
    have gives : (ofJson v).outcome.result s = .error .notIterable := by
      unfold ofJson
      rw [found]
      rfl
    rw [gives]
    constructor
    · rintro ⟨⟩
      exact .inl ⟨rfl, rfl⟩
    · rintro (⟨_, rfl⟩ | ⟨_, _, _, _, there, _⟩)
      · rfl
      · cases there
  | some items =>
    rw [ofJson_result reached found]
    constructor
    · intro failed
      cases gone : items.mapM Route.check with
      | ok rs =>
        rw [gone] at failed
        cases failed
      | error issues =>
        rw [gone] at failed
        cases failed
        obtain ⟨front, w, back, rfl, valid, wrong⟩ := mapM_eq_error_iff.mp gone
        refine .inr ⟨front, w, back, issues, rfl, fun x mem => ?_, wrong, rfl⟩
        exact isRoute_iff.mpr (valid x mem)
    · rintro (⟨none, _⟩ | ⟨front, w, back, issues, same, valid, wrong, rfl⟩)
      · cases none
      · have gone : items.mapM Route.check = .error issues := by
          have passed : ∀ x ∈ front, ∃ r, Route.check x = .ok r :=
            fun x mem => isRoute_iff.mp (valid x mem)
          exact mapM_eq_error_iff.mpr ⟨front, w, back, Option.some.inj same, passed, wrong⟩
        rw [gone]
        rfl

/-- **A change that fails leaves the table as it was.** In place, adding a value, updating the first
route of a pattern and replacing all routes come to what the operations on tables come to. Adding
fails if the value is no route; replacing if there are no items to go through, or at the first item
that is no route, wherever it stands; updating if the options cannot be laid over the first route of
the pattern. The routes, their order and their number are then those before, whatever had been done
until the failure. An update by options with integers that are not too long is refused as a URL, and
fails in no other way. -/
theorem unchanged_of_failure (reached : s.cache.Reachable) (t t' : RouteTable) :
    (∀ v, (Edit.add v).on t = t.perform (.add v)) ∧
    (∀ v, (Edit.replace v).on t = t.perform (.fill v)) ∧
    (∀ m options, (Edit.update m options).on t = t.perform (.update m options)) ∧
    (∀ v issues, ((Edit.add v).on t).result s = (.error issues, t') ↔
      t' = t ∧ Route.check v = .error issues) ∧
    (∀ v fault, ((Edit.replace v).on t).result s = (.error fault, t') ↔
      t' = t ∧ (items? v = none ∧ fault = .notIterable ∨
        ∃ front w back issues, items? v = some (front ++ w :: back) ∧
          (∀ x ∈ front, isRoute x = true) ∧ Route.check w = .error issues ∧
          fault = .notRoute issues)) ∧
    (∀ m options fault, ((Edit.update m options).on t).result s = (.error fault, t') ↔
      t' = t ∧ ∃ r, t.find? m = some r ∧ r.update options = .error fault) ∧
    ∀ m options fault f, (∀ n ∈ options.integers, n.natAbs < 10 ^ Decimal.digitLimit) →
      ((Edit.update m options).on t).result s = (.error fault, t') → fault ≠ .unshowable f := by
  have updated : ∀ m options fault,
      ((Edit.update m options).on t).result s = (.error fault, t') ↔
        t' = t ∧ ∃ r, t.find? m = some r ∧ r.update options = .error fault := by
    intro m options fault
    obtain ⟨_, gives⟩ := t.update_gives m options
    rw [Edit.update_on, ← updated_eq_error_iff, ← orKept_eq_error_iff, ← gives.result_eq reached]
    rfl
  refine ⟨fun v => Edit.add_on v t, fun v => Edit.replace_on v t, fun m o => Edit.update_on m o t,
    fun v issues => ?_, fun v fault => ?_, updated, fun m options fault f short failed => ?_⟩
  · rw [Edit.add_on, ← add_eq_error_iff (t := t) reached]
    exact orKept_eq_error_iff
  · have filled : ∀ x : Except Fault RouteTable,
        x.map (fun t' => ((), t')) = .error fault ↔ x = .error fault := by
      intro x
      cases x <;> simp [Except.map]
    rw [Edit.replace_on, ← ofJson_eq_error_iff reached, ← filled]
    exact orKept_eq_error_iff
  · obtain ⟨_, r, _, refused⟩ := (updated m options fault).mp failed
    exact update_ne_unshowable short refused f

/-- The second of three values is no route, and the text of a server none of a URL; in both cases
the table stays with the route that it had. -/
theorem unchanged_of_failure_second :
    let t : RouteTable := ⟨[{ pattern := [char 'a'] }]⟩
    let values : Json := .arr [.obj [], .int 7, .obj [(Route.patternName, .str [char 'b'])]]
    let options : Json := .obj [(Route.serverName, .str "http://".toText)]
    (∃ fault, ((Edit.replace values).on t).result Session.start = (.error fault, t)) ∧
      ∃ fault, ((Edit.update [char 'a'] options).on t).result Session.start = (.error fault, t) ∧
        ∀ f, fault ≠ .unshowable f := by
  intro t values options
  have reached : Session.start.cache.Reachable := .ofCapacity _
  obtain ⟨_, _, _, _, replaced, updated, refused⟩ := unchanged_of_failure reached t t
  have wrong : Route.check (.int 7) = .error _ := rfl
  have whole : ((Edit.replace values).on t).result Session.start = (.error (.notRoute _), t) :=
    (replaced values _).mpr ⟨rfl, .inr ⟨[.obj []], .int 7,
      [.obj [(Route.patternName, .str [char 'b'])]], _, rfl, by decide, wrong, rfl⟩⟩
  have found : t.find? [char 'a'] = some { pattern := [char 'a'] } := rfl
  have failed : ((Edit.update [char 'a'] options).on t).result Session.start =
      (.error (.text _), t) :=
    (updated [char 'a'] options _).mpr ⟨rfl, _, found, rfl⟩
  refine ⟨⟨_, whole⟩, _, failed, fun f => refused [char 'a'] options _ f ?_ failed⟩
  intro n mem
  cases mem

end RouteTable

end ProxySelection
