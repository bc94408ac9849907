import ProxySelection.Table.File
import ProxySelection.Proofs.Table.Selection

/-!
Operations on tables in every session.

Taking a route in reports that it will never match if its pattern is none
(`RouteTable.announcement`), and nothing else of a table operation depends on what patterns
are. So all of them are settled: what they give and report is the same whatever the cache
holds.

Each item of a file is judged by itself. Those that are routes are kept in their order
(`RouteTable.kept`), and every item is reported in its turn: one that is no route by its place, one
that is kept only if its pattern is none (`RouteTable.itemReports`).
-/

namespace ProxySelection

namespace RouteTable

/-! ### Taking in -/

/-- What is reported of a route that is taken in. -/
def announcement (r : Route) : List Notice :=
  if (Pattern.compile r.pattern).isNone then [.neverMatches r.pattern] else []

theorem announce_gives (r : Route) : (announce r).Gives () (announcement r) := by
  unfold announce announcement
  refine Run.Yields.bind_silent (Run.yields_compile r.pattern) fun c read => ?_
  rw [← read, Option.isNone_map]
  cases c.isNone with
  | true => exact Run.gives_note (by simp [Notice.source])
  | false => exact Run.gives_pure ()

theorem append_gives (t : RouteTable) (r : Route) :
    (t.append r).Gives ⟨t.routes ++ [r]⟩ (announcement r) :=
  (announce_gives r).map fun _ => (⟨t.routes ++ [r]⟩ : RouteTable)

theorem add_eq_of_ok (t : RouteTable) {v : Json} {r : Route} (valid : Route.check v = .ok r) :
    (t.add v).outcome = (fun t' => .ok (r, t')) <$> t.append r := by
  unfold add
  rw [valid]
  rfl

theorem add_eq_of_error (t : RouteTable) {v : Json} {issues : List Issue}
    (invalid : Route.check v = .error issues) : (t.add v).outcome = pure (.error issues) := by
  unfold add
  rw [invalid]
  rfl

theorem add_gives_ok (t : RouteTable) {v : Json} {r : Route} (valid : Route.check v = .ok r) :
    (t.add v).outcome.Gives (.ok (r, ⟨t.routes ++ [r]⟩)) (announcement r) := by
  rw [add_eq_of_ok t valid]
  exact (append_gives t r).map fun t' => Except.ok (r, t')

/-- A value that is no route is not taken in, and nothing is reported. -/
theorem add_gives_error (t : RouteTable) {v : Json} {issues : List Issue}
    (invalid : Route.check v = .error issues) : (t.add v).outcome.Gives (.error issues) [] := by
  rw [add_eq_of_error t invalid]
  exact Run.gives_pure _

/-- Values are taken in if all of them are routes. -/
theorem addAll_gives (t : RouteTable) (vs : List Json) :
    ∃ reports, (t.addAll vs).outcome.Gives
      ((vs.mapM Route.check).map fun rs => ⟨t.routes ++ rs⟩) reports := by
  induction vs generalizing t with
  | nil =>
    refine ⟨[], ?_⟩
    have same : (([] : List Json).mapM Route.check).map (fun rs => RouteTable.mk (t.routes ++ rs)) =
        .ok t := by
      simp [Except.map, pure, Except.pure]
    rw [same]
    exact Attempt.gives_pure t
  | cons v vs ih =>
    cases checked : Route.check v with
    | error issues =>
      refine ⟨[], ?_⟩
      have same : ((v :: vs).mapM Route.check).map (fun rs => RouteTable.mk (t.routes ++ rs)) =
          .error issues := by
        simp [List.mapM_cons, checked, bind, Except.bind, Except.map]
      rw [same]
      exact Attempt.bind_gives_error (add_gives_error t checked)
    | ok r =>
      obtain ⟨reports, gives⟩ := ih ⟨t.routes ++ [r]⟩
      refine ⟨announcement r ++ reports, ?_⟩
      have same : ((v :: vs).mapM Route.check).map (fun rs => RouteTable.mk (t.routes ++ rs)) =
          (vs.mapM Route.check).map fun rs => ⟨(t.routes ++ [r]) ++ rs⟩ := by
        rw [List.mapM_cons, checked]
        cases vs.mapM Route.check <;> simp [bind, Except.bind, Except.map, pure, Except.pure]
      rw [same]
      exact Attempt.bind_yields (add_gives_ok t checked) gives

theorem appendAll_gives (t : RouteTable) (rs : List Route) :
    (t.appendAll rs).Gives ⟨t.routes ++ rs⟩ (rs.flatMap announcement) := by
  induction rs generalizing t with
  | nil =>
    rw [List.append_nil]
    exact Run.gives_pure t
  | cons r rs ih =>
    have rest := ih ⟨t.routes ++ [r]⟩
    rw [List.append_assoc] at rest
    exact (append_gives t r).bind rest

/-! ### Updating -/

/-- The first route of a pattern as options change it, and the table with it in its place, without
a session. -/
def updated (t : RouteTable) (pattern : Text) (options : Json) :
    Except Url.OverlayFault (Option Route × RouteTable) :=
  match t.find? pattern with
  | none => .ok (none, t)
  | some r =>
    (r.update options).map fun new => (some new, ⟨replaceFirst pattern new t.routes⟩)

/-- Warns of the route that an update leaves if its pattern is another one than before, and none. -/
def announceRenamed (pattern : Text) : Option Route → Run Unit
  | none => pure ()
  | some new => if new.pattern ≠ pattern then announce new else pure ()

/-- An update gives what it gives without a session, and then warns. -/
theorem update_eq (t : RouteTable) (pattern : Text) (options : Json) :
    (t.update pattern options).outcome =
      match t.updated pattern options with
      | .ok (a, t') => (fun _ => .ok (a, t')) <$> announceRenamed pattern a
      | .error fault => pure (.error fault) := by
  unfold update updated
  cases t.find? pattern with
  | none => rfl
  | some r =>
    dsimp only
    cases r.update options with
    | error fault => rfl
    | ok new =>
      rw [Attempt.ofExcept_ok_bind]
      dsimp only [Except.map, announceRenamed]
      by_cases renamed : new.pattern ≠ pattern
      · rw [if_pos renamed, if_pos renamed]
        rfl
      · rw [if_neg renamed, if_neg renamed]
        rfl

theorem announceRenamed_gives (pattern : Text) (a : Option Route) :
    ∃ reports, (announceRenamed pattern a).Gives () reports := by
  cases a with
  | none => exact ⟨[], Run.gives_pure ()⟩
  | some new =>
    dsimp only [announceRenamed]
    by_cases renamed : new.pattern ≠ pattern
    · rw [if_pos renamed]
      exact ⟨_, announce_gives new⟩
    · rw [if_neg renamed]
      exact ⟨[], Run.gives_pure ()⟩

theorem update_gives (t : RouteTable) (pattern : Text) (options : Json) :
    ∃ reports, (t.update pattern options).outcome.Gives (t.updated pattern options) reports := by
  rw [update_eq]
  cases t.updated pattern options with
  | error fault => exact ⟨[], Run.gives_pure _⟩
  | ok out =>
    obtain ⟨reports, gives⟩ := announceRenamed_gives pattern out.1
    exact ⟨reports, gives.map fun _ => Except.ok out⟩

/-! ### Files -/

/-- The routes that values are. -/
def kept (items : List Json) : List Route := items.filterMap fun v => (Route.check v).toOption

/-- What is reported of the item at a place of a file. -/
def itemReports (path : Text) (item : Json × Nat) : List Notice :=
  match Route.check item.1 with
  | .ok r => announcement r
  | .error issues => [.rejectedItem item.2 path issues.length]

/-- What is reported of the items of a file: each in its turn, and how many are kept. -/
def loadReports (path : Text) (items : List Json) : List Notice :=
  items.zipIdx.flatMap (itemReports path) ++ [.loaded (kept items).length path]

variable {items : List Json} {v : Json} {r : Route} {issues : List Issue}

theorem kept_cons_of_ok (checked : Route.check v = .ok r) (items : List Json) :
    kept (v :: items) = r :: kept items := by
  simp [kept, checked, Except.toOption]

theorem kept_cons_of_error (checked : Route.check v = .error issues) (items : List Json) :
    kept (v :: items) = kept items := by
  simp [kept, checked, Except.toOption]

/-- The items that are routes come to the end of the table, each after its reports. -/
theorem addValid_gives (path : Text) (t : RouteTable) (index : Nat) (vs : List Json) :
    (addValid path t index vs).Gives ⟨t.routes ++ kept vs⟩
      ((vs.zipIdx index).flatMap (itemReports path)) := by
  -- The items before have grown the table and been counted, whatever became of each.
  induction vs generalizing t index with
  | nil =>
    have same : (⟨t.routes ++ kept []⟩ : RouteTable) = t := by simp [kept]
    rw [same]
    exact Run.gives_pure t
  | cons v vs ih =>
    rw [List.zipIdx_cons, List.flatMap_cons]
    unfold addValid
    cases checked : Route.check v with
    | ok r =>
      have rest := ih ⟨t.routes ++ [r]⟩ (index + 1)
      rw [List.append_assoc, List.singleton_append, ← kept_cons_of_ok checked] at rest
      have first : itemReports path (v, index) = announcement r := by simp [itemReports, checked]
      rw [first]
      exact (append_gives t r).bind rest
    | error issues =>
      have rest := ih t (index + 1)
      rw [← kept_cons_of_error checked] at rest
      have first : itemReports path (v, index) = [.rejectedItem index path issues.length] := by
        simp [itemReports, checked]
      rw [first]
      exact (Run.gives_note (by simp [Notice.source])).bind rest

theorem ofItems_gives (path : Text) (items : List Json) :
    (ofItems path items).Gives ⟨kept items⟩ (loadReports path items) := by
  have added := addValid_gives path empty 0 items
  exact added.bind (Run.gives_note_pure (by simp [Notice.source]) _)

/-- The items in a file. -/
def itemsIn (depth : Nat) (path : Text) (file : File) : Except LoadFault (List Json) :=
  match Text.nativeFault? path, file with
  | some fault, _ => .error (.notPath fault)
  | none, .missing => .error (.missing path)
  | none, .directory => .error (.directory path)
  | none, .octets contents => itemsOf depth path contents

theorem load_eq (depth : Nat) (path : Text) (file : File) :
    load depth path file =
      Attempt.ofExcept (itemsIn depth path file) >>= fun items => ofItems path items := by
  unfold load itemsIn
  cases Text.nativeFault? path <;> cases file <;> rfl

theorem load_gives_ok {depth : Nat} {path : Text} {file : File}
    (found : itemsIn depth path file = .ok items) :
    (load depth path file).outcome.Gives (.ok ⟨kept items⟩) (loadReports path items) := by
  rw [load_eq]
  refine Attempt.ofExcept_bind_yields found ?_
  exact (ofItems_gives path items).map Except.ok

/-- A file without items gives no table, and nothing is reported. -/
theorem load_gives_error {depth : Nat} {path : Text} {file : File} {fault : LoadFault}
    (found : itemsIn depth path file = .error fault) :
    (load depth path file).outcome.Gives (.error fault) [] := by
  rw [load_eq]
  exact Attempt.ofExcept_bind_gives_error found

/-! ### Settled operations -/

theorem add_settled (t : RouteTable) (v : Json) : (t.add v).outcome.Settled := by
  cases checked : Route.check v with
  | ok r => exact (add_gives_ok t checked).settled
  | error issues => exact (add_gives_error t checked).settled

theorem appendAll_settled (t : RouteTable) (rs : List Route) : (t.appendAll rs).Settled :=
  (appendAll_gives t rs).settled

theorem ofJson_settled (v : Json) : (ofJson v).outcome.Settled := by
  unfold ofJson
  cases items? v with
  | none => exact (Attempt.gives_throw Fault.notIterable).settled
  | some items =>
    obtain ⟨_, gives⟩ := addAll_gives empty items
    exact Attempt.settled_adapt gives.settled Fault.notRoute

theorem update_settled (t : RouteTable) (pattern : Text) (options : Json) :
    (t.update pattern options).outcome.Settled := by
  obtain ⟨_, gives⟩ := t.update_gives pattern options
  exact gives.settled

theorem load_settled (depth : Nat) (path : Text) (file : File) :
    (load depth path file).outcome.Settled := by
  cases found : itemsIn depth path file with
  | ok items => exact (load_gives_ok found).settled
  | error fault => exact (load_gives_error found).settled

end RouteTable

end ProxySelection
