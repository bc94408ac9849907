import ProxySelection.Proofs.Session.Yields

/-!
Two operations in lockstep.

`Run.Lockstep R r r'` says that two operations, started in the same session, give values in the
relation `R` and leave the same session, so that they give the same notices and do the same to
the cache. `Attempt.Lockstep` says this of attempts, which also fail alike. The rules follow the
shape of operations. Operations in lockstep whose values are equal are the same operation:
`Lockstep.eq`.
-/

namespace ProxySelection

namespace Run

variable {α α' β β' : Type}

/-- In every session the operations give related values and leave the same session. -/
def Lockstep (R : α → α' → Prop) (r : Run α) (r' : Run α') : Prop :=
  ∀ s : Session, R (r.result s) (r'.result s) ∧ r'.after s = r.after s

theorem lockstep_refl (r : Run α) : Lockstep Eq r r := by
  intro s
  exact ⟨rfl, rfl⟩

theorem lockstep_pure {R : α → α' → Prop} {a : α} {a' : α'} (related : R a a') :
    Lockstep R (pure a : Run α) (pure a' : Run α') := by
  intro s
  exact ⟨related, rfl⟩

theorem Lockstep.bind {R : α → α' → Prop} {Q : β → β' → Prop} {r : Run α} {r' : Run α'}
    {f : α → Run β} {f' : α' → Run β'} (h : Lockstep R r r')
    (next : ∀ a a', R a a' → Lockstep Q (f a) (f' a')) :
    Lockstep Q (r >>= f) (r' >>= f') := by
  intro s
  obtain ⟨related, same⟩ := h s
  change Q ((f (r.result s)).result (r.after s)) ((f' (r'.result s)).result (r'.after s)) ∧
    (f' (r'.result s)).after (r'.after s) = (f (r.result s)).after (r.after s)
  rw [same]
  exact next _ _ related (r.after s)

/-- Operations that begin with the same one go on from the same value. -/
theorem lockstep_bind_same {Q : β → β' → Prop} (r : Run α) {f : α → Run β} {f' : α → Run β'}
    (next : ∀ a, Lockstep Q (f a) (f' a)) : Lockstep Q (r >>= f) (r >>= f') := by
  refine (lockstep_refl r).bind ?_
  rintro a _ rfl
  exact next a

theorem Lockstep.eq {r r' : Run α} (h : Lockstep Eq r r') : r' = r := by
  funext s
  obtain ⟨value, last⟩ := h s
  exact Prod.ext value.symm last

end Run

namespace Attempt

variable {ε ε' α α' β β' : Type}

/-- Outcomes that are related values or the same fault. -/
inductive Agree (R : α → α' → Prop) : Except ε α → Except ε α' → Prop where
  | ok {a : α} {a' : α'} (related : R a a') : Agree R (.ok a) (.ok a')
  | error (e : ε) : Agree R (.error e) (.error e)

theorem Agree.eq {o o' : Except ε α} (h : Agree Eq o o') : o' = o := by
  cases h with
  | ok same => rw [same]
  | error e => rfl

theorem Agree.mapError {R : α → α' → Prop} {o : Except ε α} {o' : Except ε α'} (h : Agree R o o')
    (f : ε → ε') : Agree R (o.mapError f) (o'.mapError f) := by
  cases h with
  | ok related => exact .ok related
  | error e => exact .error (f e)

theorem agree_refl (o : Except ε α) : Agree Eq o o := by
  cases o with
  | ok a => exact .ok rfl
  | error e => exact .error e

/-- In every session the attempts give related values or the same fault, and leave the same
session. -/
def Lockstep (R : α → α' → Prop) (a : Attempt ε α) (a' : Attempt ε α') : Prop :=
  Run.Lockstep (Agree R) a.outcome a'.outcome

theorem lockstep_refl (a : Attempt ε α) : Lockstep Eq a a := by
  intro s
  exact ⟨agree_refl _, rfl⟩

theorem lockstep_of_eq {a a' : Attempt ε α} (same : a' = a) : Lockstep Eq a a' :=
  same ▸ lockstep_refl a

theorem lockstep_pure {R : α → α' → Prop} {a : α} {a' : α'} (related : R a a') :
    Lockstep R (pure a : Attempt ε α) (pure a' : Attempt ε α') :=
  Run.lockstep_pure (.ok related)

theorem Lockstep.bind {R : α → α' → Prop} {Q : β → β' → Prop} {a : Attempt ε α}
    {a' : Attempt ε α'} {f : α → Attempt ε β} {f' : α' → Attempt ε β'} (h : Lockstep R a a')
    (next : ∀ x x', R x x' → Lockstep Q (f x) (f' x')) :
    Lockstep Q (a >>= f) (a' >>= f') := by
  rw [Lockstep, outcome_bind, outcome_bind]
  refine Run.Lockstep.bind h ?_
  rintro o o' (related | e)
  · exact next _ _ related
  · exact Run.lockstep_pure (.error e)

theorem lockstep_bind_same {Q : β → β' → Prop} (a : Attempt ε α) {f : α → Attempt ε β}
    {f' : α → Attempt ε β'} (next : ∀ x, Lockstep Q (f x) (f' x)) :
    Lockstep Q (a >>= f) (a >>= f') := by
  refine (lockstep_refl a).bind ?_
  rintro x _ rfl
  exact next x

/-- An attempt goes on after an operation that cannot fail. -/
theorem lockstep_lift_bind {R : α → α' → Prop} {Q : β → β' → Prop} {r : Run α} {r' : Run α'}
    {f : α → Attempt ε β} {f' : α' → Attempt ε β'} (h : Run.Lockstep R r r')
    (next : ∀ x x', R x x' → Lockstep Q (f x) (f' x')) :
    Lockstep Q ((liftM r : Attempt ε α) >>= f) ((liftM r' : Attempt ε α') >>= f') :=
  Run.Lockstep.bind h next

theorem Lockstep.adapt {R : α → α' → Prop} {a : Attempt ε α} {a' : Attempt ε α'}
    (h : Lockstep R a a') (f : ε → ε') :
    Lockstep R (ExceptT.adapt f a) (ExceptT.adapt f a') := by
  intro s
  obtain ⟨related, same⟩ := h s
  exact ⟨related.mapError f, same⟩

theorem Lockstep.eq {a a' : Attempt ε α} (h : Lockstep Eq a a') : a' = a := by
  have same : Run.Lockstep Eq a.outcome a'.outcome := by
    intro s
    obtain ⟨agree, last⟩ := h s
    exact ⟨agree.eq.symm, last⟩
  exact same.eq

end Attempt

end ProxySelection
