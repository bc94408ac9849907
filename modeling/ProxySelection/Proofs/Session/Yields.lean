import ProxySelection.Session
import ProxySelection.Proofs.Pattern.Cache

/-!
What operations give in every session.

A session is the cache and the notices. `Run.Yields r P reports` says what an operation does
whichever cache has come about: its value satisfies `P`, the notices that it adds are
`reports` (those about reading patterns aside, which tell what was in the cache), and the
cache that it leaves has come about in turn. The rules beside it follow the shape of
operations: a value, a sequence, an attempt that fails or goes on. The one rule that looks
into the cache is `yields_compile`: a look-up yields what reading anew gives.

An operation is `Settled` if it gives one value and one list of reports in all sessions, so
that nothing of it depends on the cache.
-/

namespace ProxySelection

/-- The notices of a session other than those about reading patterns. -/
def Session.reports (s : Session) : List Notice := s.notices.filter (·.source ≠ .patterns)

namespace Run

variable {α β : Type}

/-- What an operation gives within a session. -/
def result (r : Run α) (s : Session) : α := (r.run s).run.1

/-- The session after an operation. -/
def after (r : Run α) (s : Session) : Session := (r.run s).run.2

/-- Empties the cache. -/
def clearCache : Run Unit := modify fun s => { s with cache := s.cache.clear }

/-! ### In every session -/

/-- Within every session whose cache has come about, the operation gives a value that satisfies
`P`, adds `reports`, and leaves such a session. -/
def Yields (r : Run α) (P : α → Prop) (reports : List Notice) : Prop :=
  ∀ s : Session, s.cache.Reachable →
    P (r.result s) ∧ (r.after s).reports = s.reports ++ reports ∧ (r.after s).cache.Reachable

/-- Within every session whose cache has come about, the operation gives this value and adds
`reports`. -/
abbrev Gives (r : Run α) (a : α) (reports : List Notice) : Prop := r.Yields (· = a) reports

/-- The operation gives the same value and adds the same reports in all sessions. -/
def Settled (r : Run α) : Prop := ∃ a reports, r.Gives a reports

theorem Gives.yields {r : Run α} {a : α} {P : α → Prop} {reports : List Notice}
    (h : r.Gives a reports) (holds : P a) : r.Yields P reports := by
  intro s reached
  obtain ⟨value, added, next⟩ := h s reached
  exact ⟨value ▸ holds, added, next⟩

/-- What a function makes of the value. -/
theorem Yields.map {r : Run α} {f : α → β} {P : α → Prop} {Q : β → Prop} {reports : List Notice}
    (h : r.Yields P reports) (made : ∀ a, P a → Q (f a)) : (f <$> r).Yields Q reports := by
  intro s reached
  obtain ⟨value, added, next⟩ := h s reached
  exact ⟨made _ value, added, next⟩

theorem gives_pure (a : α) : (pure a : Run α).Gives a [] := by
  intro s reached
  exact ⟨rfl, (List.append_nil _).symm, reached⟩

/-- A sequence yields what its second part yields, and the reports of both. -/
theorem Yields.bind {r : Run α} {f : α → Run β} {P : α → Prop} {Q : β → Prop}
    {first second : List Notice} (h : r.Yields P first)
    (next : ∀ a, P a → (f a).Yields Q second) : (r >>= f).Yields Q (first ++ second) := by
  intro s reached
  obtain ⟨value, added, middle⟩ := h s reached
  obtain ⟨value', added', last⟩ := next _ value _ middle
  refine ⟨value', ?_, last⟩
  change ((f (r.result s)).after (r.after s)).reports = _
  rw [added', added, List.append_assoc]

theorem Gives.bind {r : Run α} {f : α → Run β} {a : α} {Q : β → Prop}
    {first second : List Notice} (h : r.Gives a first) (next : (f a).Yields Q second) :
    (r >>= f).Yields Q (first ++ second) :=
  Yields.bind h fun _ same => same ▸ next

/-- A first part that reports nothing adds nothing. -/
theorem Yields.bind_silent {r : Run α} {f : α → Run β} {P : α → Prop} {Q : β → Prop}
    {reports : List Notice} (h : r.Yields P []) (next : ∀ a, P a → (f a).Yields Q reports) :
    (r >>= f).Yields Q reports :=
  h.bind next

theorem Gives.map {r : Run α} {a : α} {reports : List Notice} (h : r.Gives a reports)
    (f : α → β) : (f <$> r).Gives (f a) reports :=
  Yields.map h fun _ same => congrArg f same

theorem Gives.result_eq {r : Run α} {a : α} {reports : List Notice} (h : r.Gives a reports)
    {s : Session} (reached : s.cache.Reachable) : r.result s = a :=
  (h s reached).1

/-- A notice that is not about reading patterns is reported. -/
theorem gives_note {n : Notice} (other : n.source ≠ .patterns) : (note n).Gives () [n] := by
  intro s reached
  refine ⟨rfl, ?_, reached⟩
  change (s.notices ++ [n]).filter _ = _
  rw [List.filter_append, List.filter_cons_of_pos (by simpa using other), List.filter_nil]
  rfl

theorem gives_note_pure {n : Notice} (other : n.source ≠ .patterns) (a : α) :
    (note n >>= fun _ => pure a).Gives a [n] :=
  (gives_note other).map fun _ => a

/-- A look-up yields what reading anew gives, and no reports. -/
theorem yields_compile (t : Text) :
    (compile t).Yields (fun c => c.map (·.pattern) = Pattern.compile t) [] := by
  intro s reached
  refine ⟨reached.get_pattern t, ?_, reached.get t⟩
  -- All that looking up gives notice of is about patterns, so nothing of it is a report.
  have silent : (s.cache.get t).2.2.filter (·.source ≠ .patterns) = [] := by
    rw [List.filter_eq_nil_iff]
    intro n mem
    simp [PatternCache.source_of_mem_get mem]
  change (s.notices ++ (s.cache.get t).2.2).filter _ = _
  rw [List.filter_append, silent]
  rfl

theorem gives_resizeCache (capacity : Int) : (resizeCache capacity).Gives () [] := by
  intro s reached
  exact ⟨rfl, (List.append_nil _).symm, reached.resize capacity⟩

theorem gives_clearCache : clearCache.Gives () [] := by
  intro s reached
  exact ⟨rfl, (List.append_nil _).symm, reached.clear⟩

/-! ### Settled operations -/

theorem Gives.settled {r : Run α} {a : α} {reports : List Notice} (h : r.Gives a reports) :
    r.Settled :=
  ⟨a, reports, h⟩

theorem Settled.map {r : Run α} (h : r.Settled) (f : α → β) : (f <$> r).Settled := by
  obtain ⟨a, reports, gives⟩ := h
  exact (gives.map f).settled

end Run

namespace Attempt

variable {ε ε' α β : Type}

/-! ### Attempts -/

theorem gives_pure (a : α) : (pure a : Attempt ε α).outcome.Gives (.ok a) [] :=
  Run.gives_pure (Except.ok a)

theorem gives_throw (e : ε) : (throw e : Attempt ε α).outcome.Gives (.error e) [] :=
  Run.gives_pure (Except.error e)

theorem ofExcept_ok_bind (a : α) (f : α → Attempt ε β) : (ofExcept (.ok a) >>= f) = f a := rfl

theorem gives_ofExcept (x : Except ε α) : (ofExcept x).outcome.Gives x [] := by
  cases x with
  | ok a => exact gives_pure a
  | error e => exact gives_throw e

/-- An attempt in two parts goes on after a success, and ends with a failure. -/
theorem outcome_bind (a : Attempt ε α) (f : α → Attempt ε β) :
    (a >>= f).outcome = a.outcome >>= fun
      | .ok x => (f x).outcome
      | .error e => pure (.error e) :=
  rfl

theorem bind_yields {a : Attempt ε α} {f : α → Attempt ε β} {x : α} {Q : Except ε β → Prop}
    {first second : List Notice} (h : a.outcome.Gives (.ok x) first)
    (next : (f x).outcome.Yields Q second) : (a >>= f).outcome.Yields Q (first ++ second) := by
  rw [outcome_bind]
  exact Run.Gives.bind h next

theorem bind_gives_error {a : Attempt ε α} {f : α → Attempt ε β} {e : ε} {reports : List Notice}
    (h : a.outcome.Gives (.error e) reports) : (a >>= f).outcome.Gives (.error e) reports := by
  rw [outcome_bind, ← List.append_nil reports]
  exact Run.Gives.bind h (Run.gives_pure _)

/-- An attempt goes on after an operation that cannot fail. -/
theorem lift_bind_yields {r : Run α} {f : α → Attempt ε β} {P : α → Prop}
    {Q : Except ε β → Prop} {first second : List Notice} (h : r.Yields P first)
    (next : ∀ a, P a → (f a).outcome.Yields Q second) :
    ((liftM r : Attempt ε α) >>= f).outcome.Yields Q (first ++ second) :=
  Run.Yields.bind h next

theorem lift_bind_pure {r : Run α} {f : α → β} {a : α} {reports : List Notice}
    (h : r.Gives a reports) :
    ((liftM r : Attempt ε α) >>= fun x => pure (f x)).outcome.Gives (.ok (f a)) reports := by
  rw [← List.append_nil reports]
  exact lift_bind_yields h fun _ same => same ▸ gives_pure _

theorem ofExcept_bind_yields {x : Except ε α} {f : α → Attempt ε β} {a : α}
    {Q : Except ε β → Prop} {reports : List Notice} (known : x = .ok a)
    (next : (f a).outcome.Yields Q reports) : (ofExcept x >>= f).outcome.Yields Q reports := by
  rw [known]
  exact bind_yields (gives_ofExcept _) next

theorem ofExcept_bind_gives_error {x : Except ε α} {f : α → Attempt ε β} {e : ε}
    (known : x = .error e) : (ofExcept x >>= f).outcome.Gives (.error e) [] := by
  rw [known]
  exact bind_gives_error (gives_ofExcept _)

theorem gives_adapt {a : Attempt ε α} {x : Except ε α} {reports : List Notice}
    (h : a.outcome.Gives x reports) (f : ε → ε') :
    (outcome (ExceptT.adapt f a)).Gives (x.mapError f) reports :=
  Run.Gives.map h (Except.mapError f)

/-- An attempt whose value something is made of fails as it does. -/
theorem gives_bind_pure {a : Attempt ε α} {x : Except ε α} {reports : List Notice}
    (h : a.outcome.Gives x reports) (f : α → β) :
    (a >>= fun v => pure (f v)).outcome.Gives (x.map f) reports := by
  cases x with
  | error e => exact bind_gives_error h
  | ok v =>
    rw [← List.append_nil reports]
    exact bind_yields h (gives_pure (f v))

/-- An attempt whose value goes through another check fails as it does, or as the check does. -/
theorem gives_bind_ofExcept {a : Attempt ε α} {x : Except ε α} {reports : List Notice}
    (h : a.outcome.Gives x reports) (f : α → Except ε β) :
    (a >>= fun v => ofExcept (f v)).outcome.Gives (x >>= f) reports := by
  cases x with
  | error e => exact bind_gives_error h
  | ok v =>
    rw [← List.append_nil reports]
    exact bind_yields h (gives_ofExcept (f v))

theorem settled_adapt {a : Attempt ε α} (h : a.outcome.Settled) (f : ε → ε') :
    (outcome (ExceptT.adapt f a)).Settled :=
  Run.Settled.map h (Except.mapError f)

end Attempt

end ProxySelection
