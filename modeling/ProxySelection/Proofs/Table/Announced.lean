import ProxySelection.Proofs.Table.Keys
import ProxySelection.Proofs.Table.Loading

/-!
Routes that never match are announced.

A route whose pattern is none never serves. It is warned of when it is taken in, and when an
update gives it this pattern, but not again by operations that only move it. So the warnings of
one operation do not tell which routes of the table are dead; those of a run do.
`RouteTable.Accounts` says what one operation adds to this: every dead pattern of the new table
was one of the old table or is warned of, and every warning is true (`perform_accounts`). Such
accounts can be put one after the other, so they hold of runs (`doingAll_accounts`), and over a
run that starts without routes every dead route has been announced: `dead_announced`.
-/

namespace ProxySelection

namespace RouteTable

variable {t t' t'' : RouteTable} {reports more : List Notice} {r : Route} {m : Text}

/-! ### Accounts -/

/-- Every warning is that a text is no pattern, and it is none. -/
def Truthful (reports : List Notice) : Prop :=
  ∀ n ∈ reports, n.level = .warning → ∃ p, n = .neverMatches p ∧ Pattern.compile p = none

/-- The reports account for the dead routes of the second table that are not of the first. -/
structure Accounts (t t' : RouteTable) (reports : List Notice) : Prop where
  announced : ∀ r ∈ t'.routes, Pattern.compile r.pattern = none →
    r.pattern ∈ t.patterns ∨ .neverMatches r.pattern ∈ reports
  truthful : Truthful reports

theorem truthful_nil : Truthful [] := nofun

theorem Truthful.append (first : Truthful reports) (second : Truthful more) :
    Truthful (reports ++ more) := by
  intro n mem
  rcases List.mem_append.mp mem with earlier | later
  · exact first n earlier
  · exact second n later

/-- A table whose routes are all of an earlier one needs no reports of its own. -/
theorem accounts_of_subset (old : t'.routes ⊆ t.routes) (truthful : Truthful reports) :
    Accounts t t' reports where
  announced _ mem _ := .inl (List.mem_map_of_mem (old mem))
  truthful := truthful

theorem accounts_refl (t : RouteTable) : Accounts t t [] :=
  accounts_of_subset (List.Subset.refl _) truthful_nil

theorem Accounts.trans (first : Accounts t t' reports) (second : Accounts t' t'' more) :
    Accounts t t'' (reports ++ more) where
  announced r mem dead := by
    rcases second.announced r mem dead with old | told
    · obtain ⟨q, earlier, same⟩ := List.mem_map.mp old
      rw [← same] at dead ⊢
      rcases first.announced q earlier dead with older | told
      · exact .inl older
      · exact .inr (List.mem_append_left _ told)
    · exact .inr (List.mem_append_right _ told)
  truthful := first.truthful.append second.truthful

/-- Reports that account for a table without another account for it beside any. -/
theorem Accounts.of_empty (account : Accounts empty t' reports) (t : RouteTable) :
    Accounts t t' reports where
  announced r mem dead := by
    rcases account.announced r mem dead with old | told
    · cases old
    · exact .inr told
  truthful := account.truthful

/-- Routes that come to the end are accounted for if the warnings are those of them that are
dead. -/
theorem accounts_of_warnings {rs : List Route}
    (warned : reports.filter (·.level = .warning) =
      (rs.filter fun r => !r.isLive).map (.neverMatches ·.pattern)) (t : RouteTable) :
    Accounts t ⟨t.routes ++ rs⟩ reports where
  announced r mem dead := by
    rcases List.mem_append.mp mem with old | new
    · exact .inl (List.mem_map_of_mem old)
    · have told : Notice.neverMatches r.pattern ∈ reports.filter (·.level = .warning) := by
        rw [warned]
        refine List.mem_map.mpr ⟨r, List.mem_filter.mpr ⟨new, ?_⟩, rfl⟩
        simp [Route.isLive, dead]
      exact .inr (List.mem_filter.mp told).1
  truthful n mem level := by
    have told : n ∈ reports.filter (·.level = .warning) :=
      List.mem_filter.mpr ⟨mem, by simpa using level⟩
    rw [warned] at told
    obtain ⟨r, dead, rfl⟩ := List.mem_map.mp told
    exact ⟨r.pattern, rfl, by simpa [Route.isLive] using (List.mem_filter.mp dead).2⟩

/-! ### Taking in -/

theorem accounts_append (t : RouteTable) (rs : List Route) :
    Accounts t ⟨t.routes ++ rs⟩ (rs.flatMap announcement) := by
  refine accounts_of_warnings ?_ t
  rw [List.filter_flatMap, ← flatMap_announcement]
  exact congrArg (rs.flatMap ·) (funext fun r => filter_announcement r .warning)

theorem accounts_append_one (t : RouteTable) (r : Route) :
    Accounts t ⟨t.routes ++ [r]⟩ (announcement r) := by
  have all := accounts_append t [r]
  rwa [List.flatMap_cons, List.flatMap_nil, List.append_nil] at all

/-- Values that are taken in are accounted for, up to the first that is no route. -/
theorem addAll_accounts (t : RouteTable) (vs : List Json) :
    ∃ x reports, (t.addAll vs).outcome.Gives x reports ∧ Truthful reports ∧
      ∀ t', x = .ok t' → Accounts t t' reports := by
  induction vs generalizing t with
  | nil =>
    refine ⟨.ok t, [], Attempt.gives_pure t, truthful_nil, ?_⟩
    rintro _ ⟨⟩
    exact accounts_refl t
  | cons v vs ih =>
    cases checked : Route.check v with
    | error issues =>
      exact ⟨.error issues, [], Attempt.bind_gives_error (add_gives_error t checked),
        truthful_nil, nofun⟩
    | ok r =>
      obtain ⟨x, reports, gives, truthful, account⟩ := ih ⟨t.routes ++ [r]⟩
      have first := accounts_append_one t r
      refine ⟨x, _, Attempt.bind_yields (add_gives_ok t checked) gives,
        first.truthful.append truthful, fun t' same => first.trans (account t' same)⟩

theorem ofJson_accounts (v : Json) :
    ∃ x reports, (ofJson v).outcome.Gives x reports ∧ Truthful reports ∧
      ∀ t', x = .ok t' → Accounts empty t' reports := by
  unfold ofJson
  cases items? v with
  | none => exact ⟨_, [], Attempt.gives_throw Fault.notIterable, truthful_nil, nofun⟩
  | some items =>
    obtain ⟨x, reports, gives, truthful, account⟩ := addAll_accounts empty items
    refine ⟨_, reports, Attempt.gives_adapt gives Fault.notRoute, truthful, fun t' same => ?_⟩
    cases x with
    | error issues => cases same
    | ok filled =>
      cases same
      exact account t' rfl

theorem load_accounts (depth : Nat) (path : Text) (file : File) :
    ∃ x reports, (load depth path file).outcome.Gives x reports ∧ Truthful reports ∧
      ∀ t', x = .ok t' → Accounts empty t' reports := by
  cases found : itemsIn depth path file with
  | error fault => exact ⟨_, [], load_gives_error found, truthful_nil, nofun⟩
  | ok items =>
    have account : Accounts empty ⟨kept items⟩ (loadReports path items) :=
      accounts_of_warnings (warnings_loadReports path items) empty
    refine ⟨_, _, load_gives_ok found, account.truthful, ?_⟩
    rintro _ ⟨⟩
    exact account

/-! ### Updating -/

/-- What is reported of an update: the new route is announced if its pattern is another one. -/
def renameReports (m : Text) : Option Route → List Notice
  | none => []
  | some new => if new.pattern = m then [] else announcement new

theorem announceRenamed_reports (m : Text) (a : Option Route) :
    (announceRenamed m a).Gives () (renameReports m a) := by
  cases a with
  | none => exact Run.gives_pure ()
  | some new =>
    dsimp only [announceRenamed, renameReports]
    by_cases same : new.pattern = m
    · rw [if_neg (not_not.mpr same), if_pos same]
      exact Run.gives_pure ()
    · rw [if_pos same, if_neg same]
      exact announce_gives new

/-- An update that does not fail reports its route if the pattern has changed, and one that fails
reports nothing. -/
theorem update_reports (t : RouteTable) (m : Text) (options : Json) :
    (t.update m options).outcome.Gives (t.updated m options)
      (renameReports m ((t.updated m options).toOption.bind (·.1))) := by
  rw [update_eq]
  cases t.updated m options with
  | error fault => exact Run.gives_pure _
  | ok out => exact (announceRenamed_reports m out.1).map fun _ => Except.ok out

theorem renameReports_truthful (m : Text) (a : Option Route) : Truthful (renameReports m a) := by
  cases a with
  | none => exact truthful_nil
  | some new =>
    dsimp only [renameReports]
    split
    · exact truthful_nil
    · exact (accounts_append_one empty new).truthful

theorem updated_accounts {options : Json} {a : Option Route}
    (done : t.updated m options = .ok (a, t')) : Accounts t t' (renameReports m a) where
  announced r mem dead := by
    rcases updated_eq_ok_iff.mp done with
      ⟨_, rfl, rfl⟩ | ⟨front, old, back, new, split, _, here, _, rfl, put⟩
    · exact .inl (List.mem_map_of_mem mem)
    · rw [put] at mem
      rcases List.mem_append.mp mem with before | after
      · exact .inl (List.mem_map_of_mem (by rw [split]; exact List.mem_append_left _ before))
      · rcases List.mem_cons.mp after with rfl | behind
        · by_cases same : r.pattern = m
          · refine .inl (List.mem_map.mpr ⟨old, ?_, here.trans same.symm⟩)
            rw [split]
            exact List.mem_append_right _ List.mem_cons_self
          · right
            simp [renameReports, same, announcement, dead]
        · refine .inl (List.mem_map_of_mem ?_)
          rw [split]
          exact List.mem_append_right _ (List.mem_cons_of_mem _ behind)
  truthful := renameReports_truthful m a

/-! ### Every operation -/

/-- After an attempt that fails the table is as it was. -/
theorem orKept_accounts {ε α : Type} {x : Except ε (α × RouteTable)} (truthful : Truthful reports)
    (account : ∀ a t', x = .ok (a, t') → Accounts t t' reports) :
    Accounts t (t.orKept x).2 reports := by
  cases x with
  | ok out => exact account out.1 out.2 rfl
  | error e => exact accounts_of_subset (List.Subset.refl _) truthful

/-- A table that takes the place of another is accounted for by itself. -/
theorem filled_accounts {ε : Type} {x : Except ε RouteTable} (truthful : Truthful reports)
    (account : ∀ t', x = .ok t' → Accounts empty t' reports) (t : RouteTable) :
    Accounts t (t.orKept (x.map fun t' => ((), t'))).2 reports := by
  refine orKept_accounts truthful fun a t' same => ?_
  cases x with
  | error fault => cases same
  | ok filled =>
    cases same
    exact (account t' rfl).of_empty t

/-- **The step.** Whatever is done with a table, its reports account for the table afterwards. -/
theorem perform_accounts (t : RouteTable) (op : Operation) :
    ∃ out reports, (t.perform op).Gives out reports ∧ Accounts t out.2 reports := by
  cases op with
  | fill v =>
    obtain ⟨x, reports, gives, truthful, account⟩ := ofJson_accounts v
    exact ⟨_, reports, gives.map _, filled_accounts truthful account t⟩
  | fillWith rs =>
    exact ⟨_, _, (appendAll_gives empty rs).map _, (accounts_append empty rs).of_empty t⟩
  | load depth path file =>
    obtain ⟨x, reports, gives, truthful, account⟩ := load_accounts depth path file
    exact ⟨_, reports, gives.map _, filled_accounts truthful account t⟩
  | add v =>
    cases checked : Route.check v with
    | error issues =>
      exact ⟨_, _, (add_gives_error t checked).map _, accounts_refl t⟩
    | ok r => exact ⟨_, _, (add_gives_ok t checked).map _, accounts_append_one t r⟩
  | append r => exact ⟨_, _, (append_gives t r).map _, accounts_append_one t r⟩
  | find pattern => exact ⟨_, _, Run.gives_pure _, accounts_refl t⟩
  | remove pattern =>
    have old := List.filter_subset_self (p := (·.pattern != pattern)) t.routes
    exact ⟨_, _, Run.gives_pure _, accounts_of_subset old truthful_nil⟩
  | update pattern options =>
    refine ⟨_, _, (update_reports t pattern options).map _,
      orKept_accounts (renameReports_truthful _ _) fun a t' same => ?_⟩
    rw [same]
    exact updated_accounts same
  | select url =>
    exact ⟨_, _, (t.select_gives url).map _, accounts_refl t⟩
  | describe redact => exact ⟨_, _, Run.gives_pure _, accounts_refl t⟩
  | list => exact ⟨_, _, Run.gives_pure _, accounts_refl t⟩

/-- **The run.** The reports of operations one after the other account for the table that they
leave. -/
theorem doingAll_accounts (t : RouteTable) (ops : List Operation) :
    ∃ out reports, ((doingAll ops).run t).Gives out reports ∧ Accounts t out.2 reports := by
  induction ops generalizing t with
  | nil => exact ⟨_, [], Run.gives_pure _, accounts_refl t⟩
  | cons op ops ih =>
    obtain ⟨⟨a, middle⟩, first, step, account⟩ := t.perform_accounts op
    obtain ⟨⟨answers, last⟩, second, rest, account'⟩ := ih middle
    refine ⟨(⟨op, a⟩ :: answers, last), first ++ second, ?_, account.trans account'⟩
    rw [doingAll_cons_run]
    exact step.bind (rest.map fun out => (⟨op, a⟩ :: out.1, out.2))

/-! ### Dead routes -/

/-- A route that is selected has a pattern. -/
theorem compile_isSome_of_select {s : Session} (reached : s.cache.Reachable) {url : Json}
    (selected : (t.select url).outcome.result s = .ok (some r)) :
    Pattern.compile r.pattern ≠ none := by
  rw [(t.select_gives url).result_eq reached] at selected
  obtain ⟨i, first, _⟩ := selection_eq_some_iff.mp selected
  exact fun dead => Route.not_serves (.inr (.inl dead)) first.serves

/-- **Dead routes are announced, and announcements are true.** Over a run of operations that starts
without routes, and of which any may fail, every route of the table whose pattern is none has been
warned of by its pattern. Every warning names a text that is no pattern, and no route with this
pattern is ever selected from any table. An update warns of a new pattern that is none, and of no
pattern that it keeps. -/
theorem dead_announced {s : Session} (reached : s.cache.Reachable) (ops : List Operation) :
    let run := (doingAll ops).run empty
    ∃ t reports, (run.result s).2 = t ∧ (run.after s).reports = s.reports ++ reports ∧
      (∀ r ∈ t.routes, Pattern.compile r.pattern = none → .neverMatches r.pattern ∈ reports) ∧
      (∀ n ∈ reports, n.level = .warning → ∃ p, n = .neverMatches p ∧ Pattern.compile p = none ∧
        ∀ (s' : Session), s'.cache.Reachable → ∀ (t' : RouteTable) url r, r.pattern = p →
          (t'.select url).outcome.result s' ≠ .ok (some r)) ∧
      ∀ m options new t', let update := (t.update m options).outcome
        update.result (run.after s) = .ok (some new, t') →
          (update.after (run.after s)).reports = (run.after s).reports ++
            if new.pattern ≠ m ∧ Pattern.compile new.pattern = none
              then [.neverMatches new.pattern] else [] := by
  intro run
  obtain ⟨out, reports, gives, account⟩ := doingAll_accounts empty ops
  obtain ⟨value, added, next⟩ := gives s reached
  refine ⟨out.2, reports, congrArg Prod.snd value, added, fun r mem dead => ?_,
    fun n mem level => ?_, ?_⟩
  · rcases account.announced r mem dead with old | told
    · cases old
    · exact told
  · obtain ⟨p, rfl, dead⟩ := account.truthful n mem level
    refine ⟨p, rfl, dead, ?_⟩
    rintro s' reached' t' url r rfl selected
    exact compile_isSome_of_select reached' selected dead
  · intro m options new t' update done
    obtain ⟨result, told, _⟩ := update_reports out.2 m options (run.after s) next
    have updated : out.2.updated m options = .ok (some new, t') := result.symm.trans done
    rw [told, updated]
    congr 1
    by_cases same : new.pattern = m
    · simp [Except.toOption, renameReports, same]
    · simp [Except.toOption, renameReports, same, announcement]

/-- One dead pattern comes with a list and one by an update. A value that is no route and an
update of something else report nothing, and neither route is ever selected. -/
theorem dead_announced_renamed :
    let routeOf (pattern : Text) : Json := .obj [(Route.patternName, .str pattern)]
    let ops : List Operation := [.fill (.arr [routeOf "nope".toText, routeOf "http://a/*".toText]),
      .add (.int 1), .update "http://a/*".toText (routeOf "ftp://x/".toText),
      .update "nope".toText (.obj [(Route.disabledName, .bool false)])]
    let run := (doingAll ops).run empty
    ∃ t reports, (run.result Session.start).2 = t ∧ (run.after Session.start).reports = reports ∧
      t.patterns = ["nope".toText, "ftp://x/".toText] ∧
      reports = [.neverMatches "nope".toText, .neverMatches "ftp://x/".toText] ∧
      (∀ r ∈ t.routes, Pattern.compile r.pattern = none → .neverMatches r.pattern ∈ reports) ∧
      ∀ url r, r.pattern = "ftp://x/".toText →
        (t.select url).outcome.result Session.start ≠ .ok (some r) := by
  intro routeOf ops run
  have reached : Session.start.cache.Reachable := .ofCapacity _
  obtain ⟨t, reports, left, added, announced, truthful, _⟩ := dead_announced reached ops
  have told : reports = [.neverMatches "nope".toText, .neverMatches "ftp://x/".toText] := by
    rw [← List.nil_append reports]
    refine Eq.trans added.symm ?_
    decide +kernel
  refine ⟨t, reports, left, added, ?_, told, announced, fun url r here => ?_⟩
  · rw [← left]
    decide +kernel
  · have warned : Notice.neverMatches "ftp://x/".toText ∈ reports := by
      rw [told]
      exact List.mem_cons_of_mem _ List.mem_cons_self
    obtain ⟨p, same, _, never⟩ := truthful _ warned rfl
    cases same
    exact never _ reached t url r here

end RouteTable

end ProxySelection
