import Mathlib.Logic.Function.Basic
import ProxySelection.Proofs.Table.Operation

/-!
The cache does not show.

`Session.Operation` lists what can be done in a session with several tables: looking values up
as patterns, resizing and emptying the cache, matching by a pattern or by a route, asking
whether a route is live, and everything that is done with a table. What is done in one step
answers what it answers without a cache, and leaves the tables and reports what it does in any
other session (`perform_gives`). By induction so does a whole run (`performAll_gives`). Two
sessions that start with whatever caches can therefore not be told apart by runs:
`cache_unobservable`.
-/

namespace ProxySelection

namespace Session

/-- What may be done in a session. -/
inductive Operation where
  /-- A value is looked up as a pattern. -/
  | look (v : Json)
  | resize (capacity : Int)
  | clear
  | test (pattern url : Json)
  | testRoute (r : Route) (url : Json)
  /-- The pattern of a route is looked up, to see whether it is one. -/
  | isLive (r : Route)
  /-- Something is done with the table at a place. -/
  | onTable (place : Nat) (op : RouteTable.Operation)

namespace Operation

/-- What an operation answers. A pattern is answered without what tells it from equal ones. -/
def Answer : Operation → Type
  | .look _ => Option Pattern
  | .resize _ => Unit
  | .clear => Unit
  | .test _ _ => Except Decimal.Fault Bool
  | .testRoute _ _ => Except Decimal.Fault Bool
  | .isLive _ => Bool
  | .onTable _ op => op.Answer

/-- The answer is the one that holds without a cache. -/
def Right : (op : Operation) → op.Answer → Prop
  | .look v, a => a = Pattern.ofJson? v
  | .test p u, a => a = Pattern.testFresh p u
  | .testRoute r u, a => a = Pattern.testFresh (.str r.pattern) u
  | .isLive r, a => a = r.isLive
  | _, _ => True

end Operation

/-- Does something in a session with the given tables: the answer and the tables afterwards. -/
def perform (ts : Nat → RouteTable) : (op : Operation) → Run (op.Answer × (Nat → RouteTable))
  | .look v => (fun c => (c.map (·.pattern), ts)) <$> Pattern.look v
  | .resize capacity => (fun a => (a, ts)) <$> Run.resizeCache capacity
  | .clear => (fun a => (a, ts)) <$> Run.clearCache
  | .test p u => (fun a => (a, ts)) <$> (Pattern.test p u).outcome
  | .testRoute r u => (fun a => (a, ts)) <$> (r.test u).outcome
  | .isLive r => (fun c => (c.isSome, ts)) <$> Run.compile r.pattern
  | .onTable i op => (fun out => (out.1, Function.update ts i out.2)) <$> (ts i).perform op

/-- Does one thing after the other: the answers in order, and the tables afterwards. -/
def performAll (ts : Nat → RouteTable) :
    List Operation → Run (List (Σ op : Operation, op.Answer) × (Nat → RouteTable))
  | [] => pure ([], ts)
  | op :: ops => do
    let (a, ts) ← perform ts op
    (fun out => (⟨op, a⟩ :: out.1, out.2)) <$> performAll ts ops

/-! ### One step -/

theorem look_yields (v : Json) :
    (Pattern.look v).Yields (fun c => c.map (·.pattern) = Pattern.ofJson? v) [] := by
  cases v with
  | str t => exact Run.yields_compile t
  | _ => exact (Run.gives_pure none).yields rfl

theorem isLive_yields (r : Route) :
    (Run.compile r.pattern).Yields (fun c => c.isSome = r.isLive) [] := by
  intro s reached
  obtain ⟨read, silent, next⟩ := Run.yields_compile r.pattern s reached
  refine ⟨?_, silent, next⟩
  rw [Route.isLive, ← read, Option.isSome_map]

/-- One step gives the answer that holds without a cache, and the same tables and reports in
every session. -/
theorem perform_gives (ts : Nat → RouteTable) (op : Operation) :
    ∃ a ts' reports, op.Right a ∧ (perform ts op).Gives (a, ts') reports := by
  cases op with
  | look v =>
    have given := (look_yields v).map (f := fun c => (c.map (·.pattern), ts))
      (Q := (· = (Pattern.ofJson? v, ts))) fun c read => by rw [read]
    exact ⟨_, _, _, rfl, given⟩
  | resize capacity => exact ⟨_, _, _, trivial, (Run.gives_resizeCache capacity).map _⟩
  | clear => exact ⟨_, _, _, trivial, Run.gives_clearCache.map _⟩
  | test p u => exact ⟨_, _, _, rfl, (Pattern.test_gives p u).map _⟩
  | testRoute r u => exact ⟨_, _, _, rfl, (Pattern.test_gives (.str r.pattern) u).map _⟩
  | isLive r =>
    have given := (isLive_yields r).map (f := fun c => (c.isSome, ts))
      (Q := (· = (r.isLive, ts))) fun c live => by rw [live]
    exact ⟨_, _, _, rfl, given⟩
  | onTable i op =>
    obtain ⟨out, reports, gives⟩ := (ts i).perform_settled op
    exact ⟨_, _, reports, trivial, gives.map _⟩

/-! ### A whole run -/

/-- A run gives answers that hold without a cache, and the same answers, tables and reports in
every session. -/
theorem performAll_gives (ts : Nat → RouteTable) (ops : List Operation) :
    ∃ answers ts' reports, (∀ x ∈ answers, x.1.Right x.2) ∧
      (performAll ts ops).Gives (answers, ts') reports := by
  induction ops generalizing ts with
  | nil => exact ⟨[], ts, [], by simp, Run.gives_pure _⟩
  | cons op ops ih =>
    obtain ⟨a, middle, first, right, step⟩ := perform_gives ts op
    obtain ⟨answers, last, second, allRight, rest⟩ := ih middle
    refine ⟨⟨op, a⟩ :: answers, last, first ++ second, ?_, ?_⟩
    · intro x mem
      rcases List.mem_cons.mp mem with rfl | later
      · exact right
      · exact allRight x later
    -- The step hands the tables over, whatever it did to the cache, and the rest starts there.
    · refine step.bind ?_
      exact rest.map fun out => (⟨op, a⟩ :: out.1, out.2)

/-- **The cache does not show.** In a run of any operations, each that looks up or matches
answers what holds without a cache, and afterwards every text is found to be the pattern that
reading it gives. Another session with any other cache gives the same answers, leaves the same
tables and adds the same reports. -/
theorem cache_unobservable {s s' : Session} (reached : s.cache.Reachable)
    (reached' : s'.cache.Reachable) (ts : Nat → RouteTable) (ops : List Operation) :
    (∀ x ∈ ((performAll ts ops).result s).1, x.1.Right x.2) ∧
      (∀ t, (((performAll ts ops).after s).cache.get t).1.map (·.pattern) =
        Pattern.compile t) ∧
      (performAll ts ops).result s' = (performAll ts ops).result s ∧
      ∃ reports, ((performAll ts ops).after s).reports = s.reports ++ reports ∧
        ((performAll ts ops).after s').reports = s'.reports ++ reports := by
  obtain ⟨answers, last, reports, right, gives⟩ := performAll_gives ts ops
  obtain ⟨value, added, next⟩ := gives s reached
  obtain ⟨value', added', _⟩ := gives s' reached'
  refine ⟨?_, next.get_pattern, ?_, reports, added, added'⟩
  · rw [value]
    exact right
  · rw [value, value']

/-- A cache that holds nothing and one that is full of a text, which the first step looks up. -/
theorem cache_unobservable_when_full :
    let bare : Session := ⟨.ofCapacity (-1), []⟩
    let full : Session := ⟨((PatternCache.ofCapacity 1).get "a".toText).2.1, []⟩
    let run := performAll (fun _ => .empty)
      [.look (.str "a".toText), .onTable 0 (.add (.obj [(Route.patternName, .str "a".toText)])),
        .resize 0, .test (.str "*://a/*".toText) (.str "http://a".toText)]
    full.cache ≠ bare.cache ∧ bare.cache.Reachable ∧ full.cache.Reachable ∧
      run.result full = run.result bare := by
  have bare : PatternCache.Reachable (.ofCapacity (-1)) := .ofCapacity (-1)
  have full := PatternCache.Reachable.get "a".toText (.ofCapacity 1)
  exact ⟨by decide, bare, full, (cache_unobservable bare full _ _).2.2.1⟩

end Session

end ProxySelection
