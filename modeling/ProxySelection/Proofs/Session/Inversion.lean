import ProxySelection.Proofs.Session.Yields

/-!
What has succeeded in an attempt that succeeds.

An attempt in two parts succeeds if both do, the second one in the session that the first one
leaves (`Attempt.result_bind_eq_ok_iff`); likewise for parts that do not touch the session
(`bind_eq_ok_iff`). With these rules a long attempt is taken apart, whatever the session.
-/

namespace ProxySelection

variable {ε ε' α β : Type}

/-! ### Without a session -/

theorem bind_eq_ok_iff {x : Except ε α} {f : α → Except ε β} {b : β} :
    (x >>= f) = .ok b ↔ ∃ a, x = .ok a ∧ f a = .ok b := by
  cases x <;> simp [bind, Except.bind]

theorem throw_ne_ok {e : ε} {a : α} : (throw e : Except ε α) ≠ .ok a := nofun

theorem mapError_eq_ok_iff {x : Except ε α} {f : ε → ε'} {a : α} :
    x.mapError f = .ok a ↔ x = .ok a := by
  cases x <;> simp [Except.mapError]

/-! ### In a session -/

theorem Run.result_bind (r : Run α) (f : α → Run β) (s : Session) :
    (r >>= f).result s = (f (r.result s)).result (r.after s) := rfl

namespace Attempt

variable {s : Session}

theorem result_pure_eq_ok_iff {a b : α} :
    (pure a : Attempt ε α).outcome.result s = .ok b ↔ a = b := by
  change Except.ok a = Except.ok b ↔ _
  rw [Except.ok.injEq]

theorem result_throw_ne_ok {e : ε} {a : α} :
    (throw e : Attempt ε α).outcome.result s ≠ .ok a := nofun

theorem result_ofExcept (x : Except ε α) : (ofExcept x).outcome.result s = x := by
  cases x <;> rfl

/-- An attempt in two parts succeeds if the second one does after the first one. -/
theorem result_bind_eq_ok_iff {a : Attempt ε α} {f : α → Attempt ε β} {b : β} :
    (a >>= f).outcome.result s = .ok b ↔
      ∃ x, a.outcome.result s = .ok x ∧ (f x).outcome.result (a.outcome.after s) = .ok b := by
  rw [outcome_bind, Run.result_bind]
  cases a.outcome.result s with
  | ok x => simp
  | error e =>
    constructor
    · rintro ⟨⟩
    · rintro ⟨_, ⟨⟩, _⟩

/-- An operation that cannot fail leaves it to the rest of the attempt to succeed. -/
theorem result_lift_bind (r : Run α) (f : α → Attempt ε β) :
    ((liftM r : Attempt ε α) >>= f).outcome.result s =
      (f (r.result s)).outcome.result (r.after s) := rfl

end Attempt

end ProxySelection
