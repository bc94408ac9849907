import Mathlib.Data.List.Basic
import ProxySelection.Proofs.Route.Server
import ProxySelection.Proofs.Table.Operation

/-!
Operations on the routes of one pattern.

A pattern is a key of a table, but several routes may have it. An operation on a key sees nothing of
the table but the routes of the key (`RouteTable.ofPattern`), which decide what it answers, and it
acts on the table by dropping all of them or by putting another route in the place of the first
(`RouteTable.Acts`). Acting on a key leaves the routes of every other key alone, and acts on two
keys can be swapped, with each other and with taking a route of another key in. So operations on
different keys give the same answers and the same table in either order:
`RouteTable.patterns_independent`.
-/

namespace ProxySelection

namespace Route

/-- The options name no text for the pattern. -/
def KeepsPattern (options : Json) : Prop :=
  ∀ ms t, options = .obj ms → Members.get? patternName ms ≠ some (.str t)

theorem pattern_of_change {r r' : Route} {ms : Members} (changed : r.change ms = .ok r') :
    r'.pattern = (textMember? ms patternName).getD r.pattern := by
  unfold change at changed
  cases named : ms.get? serverName with
  | none =>
    rw [named] at changed
    cases changed
    rfl
  | some v =>
    cases laid : r.server.overlay v with
    | error fault =>
      simp only [named, laid] at changed
      cases changed
    | ok w =>
      simp only [named, laid] at changed
      cases changed
      rfl

theorem KeepsPattern.update {r r' : Route} {options : Json} (keeps : KeepsPattern options)
    (updated : r.update options = .ok r') : r'.pattern = r.pattern := by
  rcases update_cases updated with ⟨rfl, _⟩ | ⟨ms, rfl, changed⟩
  · rfl
  · rw [pattern_of_change changed]
    unfold textMember?
    split
    · rename_i t named
      exact absurd named (keeps ms t rfl)
    · rfl

end Route

namespace RouteTable

variable {t : RouteTable} {m k : Text} {new r : Route} {rs : List Route}
  {f g : List Route → List Route}

/-! ### The routes of a pattern -/

/-- The routes of a pattern, in order. -/
def ofPattern (t : RouteTable) (m : Text) : List Route := t.routes.filter (·.pattern == m)

theorem find?_eq_head? (t : RouteTable) (m : Text) : t.find? m = (t.ofPattern m).head? :=
  (List.head?_filter ..).symm

/-- Which route of a pattern is found lies with the routes of the pattern. -/
theorem find?_congr {t' : RouteTable} (same : t'.ofPattern m = t.ofPattern m) :
    t'.find? m = t.find? m := by
  rw [find?_eq_head?, same, find?_eq_head?]

theorem count_remove (t : RouteTable) (m : Text) : (t.remove m).1 = (t.ofPattern m).length :=
  List.countP_eq_length_filter

/-! ### Replacing the first route of a pattern -/

theorem replaceFirst_cons_of_eq (here : r.pattern = m) (rs : List Route) :
    replaceFirst m new (r :: rs) = new :: rs :=
  if_pos here

theorem replaceFirst_cons_of_ne (other : r.pattern ≠ m) (rs : List Route) :
    replaceFirst m new (r :: rs) = r :: replaceFirst m new rs :=
  if_neg other

theorem replaceFirst_append (apart : ∀ q ∈ rs, q.pattern ≠ m) (back : List Route) :
    replaceFirst m new (rs ++ back) = rs ++ replaceFirst m new back := by
  induction rs with
  | nil => rfl
  | cons q rs ih =>
    obtain ⟨other, rest⟩ := List.forall_mem_cons.mp apart
    rw [List.cons_append, replaceFirst_cons_of_ne other, ih rest, List.cons_append]

/-- The first route of a pattern stands behind routes of other patterns. -/
theorem find?_eq_some_iff : t.find? m = some r ↔
    ∃ front back, t.routes = front ++ r :: back ∧ (∀ q ∈ front, q.pattern ≠ m) ∧
      r.pattern = m := by
  rw [find?, List.find?_eq_some_iff_append]
  simp only [beq_iff_eq, Bool.not_eq_true', beq_eq_false_iff_ne]
  constructor
  · rintro ⟨here, front, back, split, before⟩
    exact ⟨front, back, split, before, here⟩
  · rintro ⟨front, back, split, before, here⟩
    exact ⟨here, front, back, split, before⟩

/-- Where there is no route of a pattern none is replaced. -/
theorem replaceFirst_eq_self (apart : ∀ q ∈ rs, q.pattern ≠ m) : replaceFirst m new rs = rs := by
  have whole : replaceFirst m new (rs ++ []) = rs ++ replaceFirst m new [] :=
    replaceFirst_append apart []
  rwa [List.append_nil, replaceFirst, List.append_nil] at whole

/-! ### Acts on a pattern -/

/-- What an operation may do with the routes of a table for the sake of a pattern: nothing, drop all
routes of the pattern, or put a route of the pattern in the place of the first one. -/
inductive Acts (m : Text) : (List Route → List Route) → Prop where
  | keep : Acts m id
  | drop : Acts m (List.filter (·.pattern != m))
  | put {new : Route} : new.pattern = m → Acts m (replaceFirst m new)

theorem filter_replaceFirst {p : Route → Bool} (same : ∀ q : Route, q.pattern = m → p q = p new) :
    (replaceFirst m new rs).filter p =
      if p new then replaceFirst m new (rs.filter p) else rs.filter p := by
  induction rs with
  | nil => cases p new <;> rfl
  | cons q rs ih =>
    by_cases here : q.pattern = m
    · rw [replaceFirst_cons_of_eq here]
      by_cases kept : p new = true
      · have stays : p q = true := (same q here).trans kept
        rw [if_pos kept, List.filter_cons_of_pos kept, List.filter_cons_of_pos stays,
          replaceFirst_cons_of_eq here]
      · have goes : ¬ p q = true := by rwa [same q here]
        rw [if_neg kept, List.filter_cons_of_neg kept, List.filter_cons_of_neg goes]
    · rw [replaceFirst_cons_of_ne here]
      by_cases kept : p q = true
      · rw [List.filter_cons_of_pos kept, List.filter_cons_of_pos kept, ih,
          replaceFirst_cons_of_ne here]
        by_cases stays : p new = true
        · rw [if_pos stays, if_pos stays]
        · rw [if_neg stays, if_neg stays]
      · rw [List.filter_cons_of_neg kept, List.filter_cons_of_neg kept, ih]

/-- Replacing a route of one pattern leaves the routes of the others alone. -/
theorem filter_replaceFirst_other (other : k ≠ m) (apart : k ≠ new.pattern) :
    (replaceFirst m new rs).filter (·.pattern == k) = rs.filter (·.pattern == k) := by
  have gone : ¬ (new.pattern == k) = true := by simpa using Ne.symm apart
  have same : ∀ q : Route, q.pattern = m → (q.pattern == k) = (new.pattern == k) := by
    rintro q rfl
    rw [Bool.eq_false_iff.mpr gone, beq_eq_false_iff_ne]
    exact Ne.symm other
  rw [filter_replaceFirst same, if_neg gone]

theorem replaceFirst_comm {m' : Text} {new' : Route} (own : new.pattern = m)
    (own' : new'.pattern = m') (other : m ≠ m') :
    replaceFirst m new (replaceFirst m' new' rs) =
      replaceFirst m' new' (replaceFirst m new rs) := by
  induction rs with
  | nil => rfl
  | cons q rs ih =>
    by_cases here : q.pattern = m
    · have there : q.pattern ≠ m' := here ▸ other
      rw [replaceFirst_cons_of_ne there, replaceFirst_cons_of_eq here,
        replaceFirst_cons_of_eq here, replaceFirst_cons_of_ne (own ▸ other)]
    · by_cases there : q.pattern = m'
      · rw [replaceFirst_cons_of_eq there, replaceFirst_cons_of_ne here,
          replaceFirst_cons_of_eq there, replaceFirst_cons_of_ne (own' ▸ Ne.symm other)]
      · rw [replaceFirst_cons_of_ne there, replaceFirst_cons_of_ne here,
          replaceFirst_cons_of_ne here, replaceFirst_cons_of_ne there, ih]

theorem drop_replaceFirst {m' : Text} (own : new.pattern = m) (other : m ≠ m') :
    (replaceFirst m new rs).filter (·.pattern != m') =
      replaceFirst m new (rs.filter (·.pattern != m')) := by
  have stays : (new.pattern != m') = true := by simpa [own] using other
  have same : ∀ q : Route, q.pattern = m → (q.pattern != m') = (new.pattern != m') := by
    intro q here
    rw [here, own]
  rw [filter_replaceFirst same, if_pos stays]

/-- Acting on a pattern leaves the routes of the others alone. -/
theorem Acts.filter_other (acts : Acts m f) (other : k ≠ m) (rs : List Route) :
    (f rs).filter (·.pattern == k) = rs.filter (·.pattern == k) := by
  cases acts with
  | keep => rfl
  | drop =>
    rw [List.filter_filter]
    refine List.filter_congr fun q _ => ?_
    by_cases here : q.pattern = k
    · simpa [here] using other
    · simp [here]
  | put own => exact filter_replaceFirst_other other (own ▸ other)

theorem Acts.comm {m' : Text} (acts : Acts m f) (acts' : Acts m' g) (other : m ≠ m')
    (rs : List Route) : f (g rs) = g (f rs) := by
  cases acts with
  | keep => rfl
  | drop =>
    cases acts' with
    | keep => rfl
    | drop =>
      rw [List.filter_filter, List.filter_filter]
      exact List.filter_congr fun q _ => Bool.and_comm ..
    | put own' => exact drop_replaceFirst own' (Ne.symm other)
  | put own =>
    cases acts' with
    | keep => rfl
    | drop => exact (drop_replaceFirst own other).symm
    | put own' => exact replaceFirst_comm own own' other

/-- Routes of other patterns at the end are left alone. -/
theorem Acts.append {last : List Route} (acts : Acts m f) (apart : ∀ q ∈ last, q.pattern ≠ m)
    (rs : List Route) : f (rs ++ last) = f rs ++ last := by
  cases acts with
  | keep => rfl
  | drop =>
    have kept : last.filter (·.pattern != m) = last :=
      List.filter_eq_self.mpr fun q mem => by simpa using apart q mem
    rw [List.filter_append, kept]
  | put own =>
    induction rs with
    | nil => exact replaceFirst_eq_self apart
    | cons q rs ih =>
      by_cases here : q.pattern = m
      · rw [List.cons_append, replaceFirst_cons_of_eq here, replaceFirst_cons_of_eq here]
        rfl
      · rw [List.cons_append, replaceFirst_cons_of_ne here, replaceFirst_cons_of_ne here, ih]
        rfl

/-! ### Operations on a pattern -/

/-- The operations that change the routes of a pattern and do not rename them. -/
inductive Operation.ChangesOnly (m : Text) : Operation → Prop where
  | remove : ChangesOnly m (.remove m)
  | update {options : Json} : Route.KeepsPattern options → ChangesOnly m (.update m options)

/-- The operations that take a route in, if any, that is of another pattern. -/
inductive Operation.AddsApart (m : Text) : Operation → Prop where
  | add {v : Json} : (∀ r, Route.check v = .ok r → r.pattern ≠ m) → AddsApart m (.add v)
  | append {r : Route} : r.pattern ≠ m → AddsApart m (.append r)

theorem perform_update_eq {options : Json} (keeps : Route.KeepsPattern options) (t : RouteTable) :
    t.perform (.update m options) = pure (t.orKept (t.updated m options)) := by
  change t.orKept <$> (t.update m options).outcome = _
  rw [update_eq]
  unfold updated
  cases found : t.find? m with
  | none => rfl
  | some r =>
    obtain ⟨_, _, _, _, here⟩ := find?_eq_some_iff.mp found
    dsimp only
    cases changed : r.update options with
    | error fault => rfl
    | ok new =>
      have same : ¬ new.pattern ≠ m := not_not.mpr ((keeps.update changed).trans here)
      dsimp only [Except.map, announceRenamed]
      rw [if_neg same]
      rfl

/-- An operation on a pattern answers the same, and acts in the same way, on all tables with the
same routes of the pattern. -/
theorem perform_of_changesOnly {op : Operation} (h : op.ChangesOnly m) (t : RouteTable) :
    ∃ a f, Acts m f ∧ ∀ t' : RouteTable, t'.ofPattern m = t.ofPattern m →
      t'.perform op = pure (a, ⟨f t'.routes⟩) := by
  cases h with
  | remove =>
    refine ⟨(t.ofPattern m).length, _, .drop, fun t' same => ?_⟩
    rw [← same, ← count_remove]
    rfl
  | @update options keeps =>
    cases found : t.find? m with
    | none =>
      refine ⟨.ok none, _, .keep, fun t' same => ?_⟩
      rw [perform_update_eq keeps, updated, find?_congr same, found]
      rfl
    | some r =>
      obtain ⟨_, _, _, _, here⟩ := find?_eq_some_iff.mp found
      cases changed : r.update options with
      | error fault =>
        refine ⟨.error fault, _, .keep, fun t' same => ?_⟩
        rw [perform_update_eq keeps, updated, find?_congr same, found]
        simp only [changed]
        rfl
      | ok new =>
        have own : new.pattern = m := (keeps.update changed).trans here
        refine ⟨.ok (some new), _, .put own, fun t' same => ?_⟩
        rw [perform_update_eq keeps, updated, find?_congr same, found]
        simp only [changed]
        rfl

/-- An operation that takes a route in answers and reports the same whatever the table, and leaves
its routes in front. -/
theorem perform_of_addsApart {op : Operation} (h : op.AddsApart m) :
    ∃ (answer : Run op.Answer) (last : List Route), (∀ q ∈ last, q.pattern ≠ m) ∧
      ∀ t : RouteTable, t.perform op = (fun a => (a, ⟨t.routes ++ last⟩)) <$> answer := by
  cases h with
  | @add v apart =>
    cases checked : Route.check v with
    | error issues =>
      refine ⟨pure (.error issues), [], by simp, fun t => ?_⟩
      rw [List.append_nil]
      change t.orKept <$> (t.add v).outcome = _
      rw [add_eq_of_error t checked]
      rfl
    | ok r =>
      refine ⟨(fun _ => .ok r) <$> announce r, [r], by simpa using apart r checked, fun t => ?_⟩
      change t.orKept <$> (t.add v).outcome = _
      rw [add_eq_of_ok t checked]
      rfl
  | @append r apart => exact ⟨announce r, [r], by simpa using apart, fun t => rfl⟩

/-- Operations that have nothing to do with each other: changes of different patterns, and a change
of a pattern while a route of another one is taken in. -/
inductive Operation.Apart : Operation → Operation → Prop where
  | changes {m m' : Text} {op op' : Operation} : m ≠ m' → op.ChangesOnly m → op'.ChangesOnly m' →
      Apart op op'
  | adds {m : Text} {op op' : Operation} : op.AddsApart m → op'.ChangesOnly m → Apart op op'
  | symm {op op' : Operation} : Apart op op' → Apart op' op

/-! ### In either order -/

/-- Programs that work on a table within a session. -/
abbrev Program := StateT RouteTable Run

variable {α β γ : Type} {p : Program α} {q : Program β}

/-- An operation on the table. -/
def doing (op : Operation) : Program op.Answer := fun t => t.perform op

/-- Operations on the table, one after the other. -/
def doingAll : List Operation → Program (List (Σ op : Operation, op.Answer))
  | [] => return []
  | op :: ops => do
    let a ← doing op
    return ⟨op, a⟩ :: (← doingAll ops)

/-- A row of operations is its first one, and the rest on the table that this leaves. -/
theorem doingAll_cons_run (op : Operation) (ops : List Operation) (t : RouteTable) :
    (doingAll (op :: ops)).run t = t.perform op >>= fun out =>
      (fun rest => (⟨op, out.1⟩ :: rest.1, rest.2)) <$> (doingAll ops).run out.2 :=
  rfl

theorem doingAll_one {op : Operation} {a : op.Answer} {t' : RouteTable} {reports : List Notice}
    (done : (t.perform op).Gives (a, t') reports) :
    ((doingAll [op]).run t).Gives ([⟨op, a⟩], t') reports := by
  rw [doingAll_cons_run, ← List.append_nil reports]
  exact done.bind ((Run.gives_pure _).map _)

/-- What a row of operations does with a table does not depend on the cache. -/
theorem doingAll_settled (ops : List Operation) (t : RouteTable) :
    ((doingAll ops).run t).Settled := by
  induction ops generalizing t with
  | nil => exact (Run.gives_pure _).settled
  | cons op ops ih =>
    obtain ⟨out, first, step⟩ := t.perform_settled op
    obtain ⟨rest, second, gives⟩ := ih out.2
    rw [doingAll_cons_run]
    exact ⟨_, first ++ second, step.bind (gives.map _)⟩

/-- In either order two programs give the same answers, and leave the same table and session. -/
def Swap (p : Program α) (q : Program β) : Prop :=
  (do let a ← p; let b ← q; return (a, b)) = (do let b ← q; let a ← p; return (a, b))

/-- Programs that can be swapped can be swapped in front of others. -/
theorem Swap.bind_eq (h : Swap p q) (next : α → β → Program γ) :
    (p >>= fun a => q >>= fun b => next a b) = (q >>= fun b => p >>= fun a => next a b) := by
  have before := congrArg (fun both : Program (α × β) => both >>= fun x => next x.1 x.2) h
  simpa only [bind_assoc, pure_bind] using before

theorem Swap.symm (h : Swap p q) : Swap q p := (h.bind_eq fun a b => pure (b, a)).symm

theorem swap_pure (p : Program α) (b : β) : Swap p (pure b : Program β) := by
  unfold Swap
  simp only [pure_bind]

/-- A program that can be swapped with two others can be swapped with both in a row. -/
theorem Swap.bind {q' : Program γ} {δ : Type} (first : Swap p q) (second : Swap p q')
    (join : β → γ → δ) : Swap p (do let b ← q; let c ← q'; return join b c) := by
  unfold Swap
  simp only [bind_assoc, pure_bind]
  rw [first.bind_eq]
  refine congrArg _ (funext fun b => ?_)
  exact second.bind_eq fun a c => pure (a, join b c)

theorem swap_doing_iff {op op' : Operation} : Swap (doing op) (doing op') ↔ ∀ t : RouteTable,
    (t.perform op >>= fun x => x.2.perform op' >>= fun y => pure ((x.1, y.1), y.2)) =
      (t.perform op' >>= fun y => y.2.perform op >>= fun x => pure ((x.1, y.1), x.2)) :=
  funext_iff

/-- Operations that have nothing to do with each other can be swapped. -/
theorem Operation.Apart.swap {op op' : Operation} (apart : op.Apart op') :
    Swap (doing op) (doing op') := by
  induction apart with
  | symm _ ih => exact ih.symm
  | @changes m m' op op' other only only' =>
    rw [swap_doing_iff]
    intro t
    obtain ⟨a, f, acts, first⟩ := perform_of_changesOnly only t
    obtain ⟨b, g, acts', second⟩ := perform_of_changesOnly only' t
    -- Neither sees what the other has done, so each answers and acts as on the table before.
    have unseen : (⟨f t.routes⟩ : RouteTable).ofPattern m' = t.ofPattern m' :=
      acts.filter_other (Ne.symm other) t.routes
    have unseen' : (⟨g t.routes⟩ : RouteTable).ofPattern m = t.ofPattern m :=
      acts'.filter_other other t.routes
    rw [first t rfl, second t rfl, pure_bind, pure_bind, second _ unseen, first _ unseen',
      pure_bind, pure_bind, acts.comm acts' other]
  | @adds m op op' adds only =>
    rw [swap_doing_iff]
    intro t
    obtain ⟨answer, last, others, first⟩ := perform_of_addsApart adds
    obtain ⟨b, g, acts, second⟩ := perform_of_changesOnly only t
    have unseen : (⟨t.routes ++ last⟩ : RouteTable).ofPattern m = t.ofPattern m := by
      have none : last.filter (·.pattern == m) = [] :=
        List.filter_eq_nil_iff.mpr fun q mem => by simpa using others q mem
      rw [ofPattern, List.filter_append, none, List.append_nil]
      rfl
    rw [first t, second t rfl, pure_bind, first ⟨g t.routes⟩]
    simp only [map_eq_pure_bind, bind_assoc, pure_bind, second _ unseen, acts.append others]

/-- An operation that can be swapped with each of others can be swapped with all of them. -/
theorem swap_doingAll_right {ops : List Operation} (each : ∀ op ∈ ops, Swap p (doing op)) :
    Swap p (doingAll ops) := by
  induction ops with
  | nil => exact swap_pure p []
  | cons op ops ih =>
    obtain ⟨first, rest⟩ := List.forall_mem_cons.mp each
    exact first.bind (ih rest) fun a as => ⟨op, a⟩ :: as

/-- Two rows of operations can be swapped if each of the one can be swapped with each of the
other. -/
theorem swap_doingAll {ops ops' : List Operation}
    (each : ∀ op ∈ ops, ∀ op' ∈ ops', Swap (doing op) (doing op')) :
    Swap (doingAll ops) (doingAll ops') := by
  refine swap_doingAll_right fun op' mem' => Swap.symm (swap_doingAll_right fun op mem => ?_)
  exact (each op mem op' mem').symm

/-! ### What becomes of a table -/

/-- A pattern that is removed is found no more, and every other one is found as before. -/
theorem find?_remove (t : RouteTable) (m k : Text) :
    (t.remove m).2.find? k = if k = m then none else t.find? k := by
  by_cases same : k = m
  · subst same
    rw [if_pos rfl, find?_eq_head?]
    have none : (t.remove k).2.ofPattern k = [] := by
      simp [ofPattern, remove, List.filter_filter]
    rw [none, List.head?_nil]
  · rw [if_neg same]
    exact find?_congr (Acts.drop.filter_other same t.routes)

/-- What was removed and what is left make up the table. -/
theorem size_remove (t : RouteTable) (m : Text) :
    (t.remove m).1 + (t.remove m).2.size = t.size := by
  have left : (t.remove m).2.size = t.routes.countP (·.pattern != m) :=
    List.countP_eq_length_filter.symm
  have parts := List.length_eq_countP_add_countP (fun r : Route => r.pattern == m) (l := t.routes)
  have others : t.routes.countP (fun r => decide ¬(r.pattern == m) = true) =
      t.routes.countP (·.pattern != m) :=
    List.countP_congr fun r _ => by simp
  rw [left, size, parts, others]
  rfl

theorem count_routes_remove (t : RouteTable) (m : Text) (r : Route) :
    (t.remove m).2.routes.count r = if r.pattern = m then 0 else t.routes.count r := by
  by_cases own : r.pattern = m
  · rw [if_pos own, List.count_eq_zero]
    intro mem
    have kept := (List.mem_filter.mp mem).2
    simp [own] at kept
  · rw [if_neg own]
    exact List.count_filter (by simpa using own)

/-- An update that does not fail finds no route and changes nothing, or puts what the options make
of the first route of the pattern in its place. -/
theorem updated_eq_ok_iff {options : Json} {a : Option Route} {t' : RouteTable} :
    t.updated m options = .ok (a, t') ↔
      (t.find? m = none ∧ a = none ∧ t' = t) ∨
      ∃ front r back new, t.routes = front ++ r :: back ∧ (∀ q ∈ front, q.pattern ≠ m) ∧
        r.pattern = m ∧ r.update options = .ok new ∧ a = some new ∧
        t'.routes = front ++ new :: back := by
  cases found : t.find? m with
  | none =>
    constructor
    · intro done
      simp only [updated, found] at done
      cases done
      exact .inl ⟨rfl, rfl, rfl⟩
    · rintro (⟨_, rfl, rfl⟩ | ⟨front, r, back, new, split, before, here, _⟩)
      · simp only [updated, found]
      · rw [find?_eq_some_iff.mpr ⟨front, back, split, before, here⟩] at found
        cases found
  | some r =>
    obtain ⟨front, back, split, before, here⟩ := find?_eq_some_iff.mp found
    have replaced : ∀ new, replaceFirst m new t.routes = front ++ new :: back := by
      intro new
      rw [split, replaceFirst_append before, replaceFirst_cons_of_eq here]
    constructor
    · intro done
      cases changed : r.update options with
      | error fault =>
        simp only [updated, found, changed] at done
        cases done
      | ok new =>
        simp only [updated, found, changed] at done
        cases done
        exact .inr ⟨front, r, back, new, split, before, here, changed, rfl, replaced new⟩
    · rintro (⟨none, _⟩ | ⟨front', r', back', new, split', before', here', changed, rfl, routes⟩)
      · cases none
      · have same := find?_eq_some_iff.mpr ⟨front', back', split', before', here'⟩
        obtain rfl : r = r' := Option.some.inj (found.symm.trans same)
        have table : t' = ⟨replaceFirst m new t.routes⟩ := by
          obtain ⟨rs⟩ := t'
          rw [split', replaceFirst_append before', replaceFirst_cons_of_eq here', ← routes]
        simp only [updated, found, changed, table]
        rfl

/-- A pattern other than the one that is updated and the one that this leaves is found as before. -/
theorem find?_of_updated {front back : List Route} {t' : RouteTable}
    (split : t.routes = front ++ r :: back) (put : t'.routes = front ++ new :: back)
    (other : k ≠ r.pattern) (apart : k ≠ new.pattern) : t'.find? k = t.find? k := by
  have passed : (r.pattern == k) = false := beq_eq_false_iff_ne.mpr (Ne.symm other)
  have passed' : (new.pattern == k) = false := beq_eq_false_iff_ne.mpr (Ne.symm apart)
  rw [find?, find?, split, put, List.find?_append, List.find?_append, List.find?_cons_of_neg,
    List.find?_cons_of_neg]
  · rw [passed]
    decide
  · rw [passed']
    decide

/-! ### Independence -/

/-- **Operations on different patterns are independent.** Removing a pattern takes away every route
of it, says how many, and keeps the others in order; every other pattern is found as before. An
update that does not fail finds no route and changes nothing, or changes one place, that of the
first route of the pattern, and every pattern but the one before and the one after is found as
before. Two operations that have nothing to do with each other, and two rows of such operations,
give the same answers and the same table in either order. -/
theorem patterns_independent {s : Session} (reached : s.cache.Reachable) (t : RouteTable) :
    (∀ m n t', t.remove m = (n, t') →
      n + t'.size = t.size ∧ t'.routes.Sublist t.routes ∧
      (∀ r, t'.routes.count r = if r.pattern = m then 0 else t.routes.count r) ∧
      ∀ k, t'.find? k = if k = m then none else t.find? k) ∧
    (∀ m options a t', (t.update m options).outcome.result s = .ok (a, t') →
      t'.size = t.size ∧ (a = none ↔ t.find? m = none) ∧ (a = none → t' = t) ∧
      ∀ new, a = some new → ∃ front r back, t.routes = front ++ r :: back ∧
        (∀ q ∈ front, q.pattern ≠ m) ∧ r.pattern = m ∧ r.update options = .ok new ∧
        t'.routes = front ++ new :: back ∧
        ∀ k, k ≠ m → k ≠ new.pattern → t'.find? k = t.find? k) ∧
    (∀ op op', Operation.Apart op op' → Swap (doing op) (doing op')) ∧
    ∀ ops ops', (∀ op ∈ ops, ∀ op' ∈ ops', Operation.Apart op op') →
      Swap (doingAll ops) (doingAll ops') := by
  refine ⟨?_, ?_, fun _ _ apart => apart.swap, fun _ _ apart => ?_⟩
  · intro m n t' removed
    obtain rfl : (t.remove m).1 = n := congrArg Prod.fst removed
    obtain rfl : (t.remove m).2 = t' := congrArg Prod.snd removed
    exact ⟨t.size_remove m, List.filter_sublist, t.count_routes_remove m, t.find?_remove m⟩
  · intro m options a t' done
    obtain ⟨_, gives⟩ := t.update_gives m options
    rw [gives.result_eq reached] at done
    rcases updated_eq_ok_iff.mp done with
      ⟨absent, rfl, rfl⟩ | ⟨front, r, back, new, split, before, here, changed, rfl, put⟩
    · exact ⟨rfl, ⟨fun _ => absent, fun _ => rfl⟩, fun _ => rfl, nofun⟩
    · have found := find?_eq_some_iff.mpr ⟨front, back, split, before, here⟩
      refine ⟨?_, ?_, nofun, ?_⟩
      · rw [size, size, split, put, List.length_append, List.length_append]
        rfl
      · rw [found]
        simp
      · rintro _ ⟨⟩
        refine ⟨front, r, back, split, before, here, changed, put, fun k other apart => ?_⟩
        exact find?_of_updated split put (here ▸ other) apart
  · exact swap_doingAll fun op mem op' mem' => (apart op mem op' mem').swap

/-- Of a pattern that comes twice both routes are removed, and one of another pattern is updated,
before or after. -/
theorem patterns_independent_repeated :
    let t : RouteTable := ⟨[{ pattern := [char 'a'] }, { pattern := [char 'b'] },
      { pattern := [char 'a'], disabled := true }]⟩
    let options : Json := .obj [(Route.disabledName, .bool true)]
    let new : Route := { pattern := [char 'b'], disabled := true }
    ((t.remove [char 'a']).2.size = 1 ∧
        (t.remove [char 'a']).2.find? [char 'b'] = t.find? [char 'b']) ∧
      (∃ t', (t.update [char 'b'] options).outcome.result Session.start = .ok (some new, t') ∧
        t'.find? [char 'a'] = t.find? [char 'a']) ∧
      Swap (doing (.remove [char 'a'])) (doing (.update [char 'b'] options)) ∧
      Swap (doing (.append new)) (doing (.remove [char 'a'])) := by
  intro t options new
  have reached : Session.start.cache.Reachable := .ofCapacity _
  obtain ⟨removed, updated, swapped, _⟩ := patterns_independent reached t
  have keeps : Route.KeepsPattern (.obj [(Route.disabledName, .bool true)]) := by
    rintro ms text ⟨⟩ named
    cases named
  have done : (t.update [char 'b'] options).outcome.result Session.start =
      .ok (some new, ⟨replaceFirst [char 'b'] new t.routes⟩) := rfl
  obtain ⟨size, _, _, found⟩ := removed [char 'a'] 2 _ rfl
  obtain ⟨_, _, _, put⟩ := updated [char 'b'] options _ _ done
  obtain ⟨_, _, _, _, _, _, _, _, others⟩ := put new rfl
  refine ⟨⟨?_, found [char 'b']⟩, ⟨_, done, others [char 'a'] (by decide) (by decide)⟩, ?_, ?_⟩
  · have whole : 2 + (t.remove [char 'a']).2.size = 3 := size
    omega
  · exact swapped _ _ (.changes (by decide) .remove (.update keeps))
  · exact swapped _ _ (.adds (.append (by decide)) .remove)

end RouteTable

end ProxySelection
