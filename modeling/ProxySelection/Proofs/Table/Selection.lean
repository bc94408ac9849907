import ProxySelection.Table.Basic
import ProxySelection.Proofs.Pattern.Matching
import ProxySelection.Proofs.Session.Lockstep

/-!
Which route is selected.

A route serves a value if it is enabled and its pattern is for the value (`Route.Serves`), and
the one selected is the first that serves (`RouteTable.IsFirst`). Routes that do not serve may come
and go anywhere, and routes behind the selected one as well. There is an exception: a value that is
no text and cannot be shown, because an integer in it has too many digits. At the first enabled
route whose pattern asks for a URL the search breaks off then (`Route.Breaks`), although the route
does not serve. `selection` is what a search comes to in every session (`select_gives`), and
`select_first` says when it finds a route, when it finds none and when it breaks off.
-/

namespace ProxySelection

/-- The route is enabled and its pattern is for the value. -/
def Route.Serves (r : Route) (url : Json) : Prop :=
  r.disabled = false ∧ Pattern.IsFor r.pattern url

instance (r : Route) (url : Json) : Decidable (r.Serves url) := by
  unfold Route.Serves
  infer_instance

/-- The route is enabled and matching the value with its pattern breaks off. -/
def Route.Breaks (r : Route) (url : Json) : Prop :=
  r.disabled = false ∧ Pattern.Breaks r.pattern url

instance (r : Route) (url : Json) : Decidable (r.Breaks url) := by
  unfold Route.Breaks
  infer_instance

theorem Route.test_gives (r : Route) (url : Json) :
    (r.test url).outcome.Gives (Pattern.testFresh (.str r.pattern) url) [] :=
  Pattern.test_gives (.str r.pattern) url

/-- A route that is disabled, whose pattern is none, or whose pattern is for other values does
not serve. -/
theorem Route.not_serves {r : Route} {url : Json}
    (h : r.disabled = true ∨ Pattern.compile r.pattern = none ∨ ¬ Pattern.IsFor r.pattern url) :
    ¬ r.Serves url := by
  rintro ⟨enabled, suited⟩
  rcases h with disabled | none | other
  · rw [enabled] at disabled
    cases disabled
  · exact Pattern.not_isFor_of_compile_eq_none none suited
  · exact other suited

/-- At a route that is disabled or whose pattern is none the search does not break off, and nor does
it for a value that can be shown. -/
theorem Route.not_breaks {r : Route} {url : Json}
    (h : r.disabled = true ∨ Pattern.compile r.pattern = none ∨ url.isShowable = true) :
    ¬ r.Breaks url := by
  rintro ⟨enabled, breaks⟩
  rcases h with disabled | none | shown
  · rw [enabled] at disabled
    cases disabled
  · have isPattern := breaks.isPattern
    rw [none] at isPattern
    cases isPattern
  · exact Pattern.not_breaks_of_showable shown _ breaks

/-- Where the search breaks off the route does not serve. -/
theorem Route.Breaks.not_serves {r : Route} {url : Json} (breaks : r.Breaks url) :
    ¬ r.Serves url := by
  rintro ⟨_, suited⟩
  have answer := Pattern.testFresh_eq_true_iff.mpr (Pattern.isFor_iff.mpr suited)
  rw [Pattern.testFresh_of_breaks breaks.2] at answer
  cases answer

namespace RouteTable

/-- The route `r` at place `i` serves the value, and none in front of it does. -/
structure IsFirst (t : RouteTable) (url : Json) (i : Nat) (r : Route) : Prop where
  at_place : t.routes[i]? = some r
  serves : r.Serves url
  none_before : ∀ j q, j < i → t.routes[j]? = some q → ¬ q.Serves url

/-- Nothing breaks off in front of place `i`. -/
def IsWholeUpTo (t : RouteTable) (url : Json) (i : Nat) : Prop :=
  ∀ j q, j < i → t.routes[j]? = some q → ¬ q.Breaks url

/-- At the route `r` at place `i` the search breaks off, and no route in front of it serves. -/
structure IsBreak (t : RouteTable) (url : Json) (i : Nat) (r : Route) : Prop where
  at_place : t.routes[i]? = some r
  breaks : r.Breaks url
  none_before : ∀ j q, j < i → t.routes[j]? = some q → ¬ q.Serves url
  whole_before : t.IsWholeUpTo url i

/-- The first of some routes that serves a value. -/
def firstServing (url : Json) (rs : List Route) : Option Route := rs.find? (·.Serves url)

/-- The search ends at a route. -/
abbrev Ends (url : Json) (r : Route) : Prop := r.Serves url ∨ r.Breaks url

/-- What a search for a value among some routes comes to. -/
def selection (url : Json) (rs : List Route) : Except Decimal.Fault (Option Route) :=
  match rs.find? fun r => decide (Ends url r) with
  | none => .ok none
  | some r => if r.Breaks url then .error .tooLongToWrite else .ok (some r)

/-! ### Step by step -/

theorem firstServing_cons_of_serves {url : Json} {r : Route} (taken : r.Serves url)
    (rs : List Route) : firstServing url (r :: rs) = some r :=
  List.find?_cons_of_pos (by simpa using taken)

theorem firstServing_cons_of_not_serves {url : Json} {r : Route} (passed : ¬ r.Serves url)
    (rs : List Route) : firstServing url (r :: rs) = firstServing url rs :=
  List.find?_cons_of_neg (by simpa using passed)

theorem selection_cons_of_serves {url : Json} {r : Route} (taken : r.Serves url)
    (rs : List Route) : selection url (r :: rs) = .ok (some r) := by
  rw [selection, List.find?_cons_of_pos (by simp [taken])]
  exact if_neg fun breaks => breaks.not_serves taken

theorem selection_cons_of_breaks {url : Json} {r : Route} (breaks : r.Breaks url)
    (rs : List Route) : selection url (r :: rs) = .error .tooLongToWrite := by
  rw [selection, List.find?_cons_of_pos (by simp [breaks])]
  exact if_pos breaks

theorem selection_cons_of_passed {url : Json} {r : Route} (passed : ¬ Ends url r)
    (rs : List Route) : selection url (r :: rs) = selection url rs := by
  rw [selection, selection, List.find?_cons_of_neg (by simpa using passed)]

/-- Searching comes to the same in every session, and reports nothing. -/
theorem selectAmong_gives (url : Json) (rs : List Route) :
    (selectAmong url rs).outcome.Gives (selection url rs) [] := by
  induction rs with
  | nil => exact Attempt.gives_pure none
  | cons r rs ih =>
    unfold selectAmong
    by_cases disabled : r.disabled = true
    · have passed : ¬ Ends url r :=
        not_or.mpr ⟨Route.not_serves (.inl disabled), Route.not_breaks (.inl disabled)⟩
      rw [if_pos disabled, selection_cons_of_passed passed]
      exact ih
    · rw [if_neg disabled]
      have enabled : r.disabled = false := by simpa using disabled
      have asked := r.test_gives url
      by_cases breaks : Pattern.Breaks r.pattern url
      · rw [Pattern.testFresh_of_breaks breaks] at asked
        rw [selection_cons_of_breaks ⟨enabled, breaks⟩]
        exact Attempt.bind_gives_error asked
      · rw [Pattern.testFresh_of_not_breaks breaks] at asked
        refine Attempt.bind_yields asked ?_
        by_cases suited : Pattern.IsFor r.pattern url
        · rw [selection_cons_of_serves ⟨enabled, suited⟩, Pattern.isFor_iff.mpr suited]
          exact Attempt.gives_pure (some r)
        · have passed : ¬ Ends url r := not_or.mpr ⟨fun h => suited h.2, fun h => breaks h.2⟩
          have answer : Pattern.isFor r.pattern url = false :=
            Bool.eq_false_iff.mpr (mt Pattern.isFor_iff.mp suited)
          rw [selection_cons_of_passed passed, answer]
          exact ih

theorem select_gives (t : RouteTable) (url : Json) :
    (t.select url).outcome.Gives (selection url t.routes) [] :=
  selectAmong_gives url t.routes

/-- For a value that can be shown the search gives the first route that serves. -/
theorem selection_of_showable {url : Json} (shown : url.isShowable = true) (rs : List Route) :
    selection url rs = .ok (firstServing url rs) := by
  induction rs with
  | nil => rfl
  | cons r rs ih =>
    have whole : ¬ r.Breaks url := Route.not_breaks (.inr (.inr shown))
    by_cases taken : r.Serves url
    · rw [selection_cons_of_serves taken, firstServing_cons_of_serves taken]
    · rw [selection_cons_of_passed (not_or.mpr ⟨taken, whole⟩),
        firstServing_cons_of_not_serves taken, ih]

theorem select_gives_text (t : RouteTable) (url : Text) :
    (t.select (.str url)).outcome.Gives (.ok (firstServing (.str url) t.routes)) [] := by
  have shown : (Json.str url).isShowable = true := rfl
  rw [← selection_of_showable shown]
  exact t.select_gives (.str url)

/-! ### Where the search ends -/

/-- The first of some routes with a property stands at a place before which there is none. -/
theorem find?_eq_some_iff_place {p : Route → Prop} [DecidablePred p] {rs : List Route} {r : Route} :
    rs.find? (fun r => decide (p r)) = some r ↔
      ∃ i : Nat, rs[i]? = some r ∧ p r ∧ ∀ (j : Nat) q, j < i → rs[j]? = some q → ¬ p q := by
  rw [List.find?_eq_some_iff_getElem]
  constructor
  · rintro ⟨holds, i, inside, rfl, before⟩
    refine ⟨i, List.getElem?_eq_getElem inside, by simpa using holds, ?_⟩
    intro j q earlier found
    obtain ⟨_, rfl⟩ := List.getElem?_eq_some_iff.mp found
    simpa using before j earlier
  · rintro ⟨i, found, holds, before⟩
    obtain ⟨inside, rfl⟩ := List.getElem?_eq_some_iff.mp found
    refine ⟨by simpa using holds, i, inside, rfl, ?_⟩
    intro j earlier
    simpa using before j _ earlier (List.getElem?_eq_getElem (by omega))

theorem firstServing_eq_some_iff {t : RouteTable} {url : Json} {r : Route} :
    firstServing url t.routes = some r ↔ ∃ i, t.IsFirst url i r :=
  find?_eq_some_iff_place.trans
    ⟨fun ⟨i, place, serves, before⟩ => ⟨i, place, serves, before⟩,
      fun ⟨i, place, serves, before⟩ => ⟨i, place, serves, before⟩⟩

theorem firstServing_eq_none_iff {url : Json} {rs : List Route} :
    firstServing url rs = none ↔ ∀ r ∈ rs, ¬ r.Serves url := by
  simp [firstServing]

theorem selection_eq_some_iff {t : RouteTable} {url : Json} {r : Route} :
    selection url t.routes = .ok (some r) ↔ ∃ i, t.IsFirst url i r ∧ t.IsWholeUpTo url i := by
  have ended : selection url t.routes = .ok (some r) ↔
      t.routes.find? (fun r => decide (Ends url r)) = some r ∧ ¬ r.Breaks url := by
    unfold selection
    cases t.routes.find? fun r => decide (Ends url r) with
    | none => simp
    | some q => by_cases breaks : q.Breaks url <;> simp [breaks] <;> rintro rfl <;> assumption
  rw [ended, find?_eq_some_iff_place]
  constructor
  · rintro ⟨⟨i, place, ends, before⟩, whole⟩
    exact ⟨i, ⟨place, ends.resolve_right whole, fun j q earlier found serves =>
      before j q earlier found (.inl serves)⟩,
      fun j q earlier found breaks => before j q earlier found (.inr breaks)⟩
  · rintro ⟨i, ⟨place, serves, unserved⟩, whole⟩
    exact ⟨⟨i, place, .inl serves, fun j q earlier found =>
      not_or.mpr ⟨unserved j q earlier found, whole j q earlier found⟩⟩,
      fun breaks => breaks.not_serves serves⟩

theorem selection_eq_none_iff {url : Json} {rs : List Route} :
    selection url rs = .ok none ↔ ∀ r ∈ rs, ¬ r.Serves url ∧ ¬ r.Breaks url := by
  unfold selection
  cases found : rs.find? fun r => decide (Ends url r) with
  | none =>
    refine iff_of_true rfl fun r mem => not_or.mp ?_
    simpa using List.find?_eq_none.mp found r mem
  | some r =>
    have passes := List.find?_some found
    have ends : Ends url r := of_decide_eq_true passes
    have mem := List.mem_of_find?_eq_some found
    refine iff_of_false ?_ fun all => not_or.mpr (all r mem) ends
    by_cases breaks : r.Breaks url <;> simp [breaks]

theorem selection_eq_error_iff {t : RouteTable} {url : Json} {fault : Decimal.Fault} :
    selection url t.routes = .error fault ↔
      fault = .tooLongToWrite ∧ ∃ i r, t.IsBreak url i r := by
  have ended : selection url t.routes = .error fault ↔ fault = .tooLongToWrite ∧
      ∃ r, t.routes.find? (fun r => decide (Ends url r)) = some r ∧ r.Breaks url := by
    unfold selection
    cases t.routes.find? fun r => decide (Ends url r) with
    | none => simp
    | some q => by_cases breaks : q.Breaks url <;> simp [breaks, eq_comm]
  rw [ended]
  refine and_congr_right fun _ => ?_
  constructor
  · rintro ⟨r, found, breaks⟩
    obtain ⟨i, place, _, before⟩ := find?_eq_some_iff_place.mp found
    exact ⟨i, r, place, breaks,
      fun j q earlier found serves => before j q earlier found (.inl serves),
      fun j q earlier found breaks => before j q earlier found (.inr breaks)⟩
  · rintro ⟨i, r, place, breaks, unserved, whole⟩
    exact ⟨r, find?_eq_some_iff_place.mpr ⟨i, place, .inr breaks, fun j q earlier found =>
      not_or.mpr ⟨unserved j q earlier found, whole j q earlier found⟩⟩, breaks⟩

/-! ### Other routes -/

/-- A route at which the search does not end may stand anywhere. -/
theorem selection_insert {url : Json} {q : Route} (passed : ¬ Ends url q)
    (front back : List Route) :
    selection url (front ++ q :: back) = selection url (front ++ back) := by
  unfold selection
  rw [List.find?_append, List.find?_append, List.find?_cons_of_neg (by simpa using passed)]

/-- Once the search has ended it does not matter what follows. -/
theorem selection_append {url : Json} {rs : List Route} {x : Except Decimal.Fault (Option Route)}
    (found : selection url rs = x) (ended : x ≠ .ok none) (more : List Route) :
    selection url (rs ++ more) = x := by
  unfold selection at found ⊢
  rw [List.find?_append]
  cases first : rs.find? fun r => decide (Ends url r) with
  | none =>
    rw [first] at found
    exact absurd found.symm ended
  | some r =>
    rw [first] at found
    exact found

/-- The first of some routes and the first of corresponding ones correspond. -/
theorem find?_rel {R : Route → Route → Prop} {p : Route → Bool} {rs rs' : List Route}
    (alike : ∀ r r', R r r' → p r' = p r) (h : List.Forall₂ R rs rs') :
    Option.Rel R (rs.find? p) (rs'.find? p) := by
  induction h with
  | nil => exact .none
  | @cons r r' rs rs' related _ ih =>
    rw [List.find?_cons, List.find?_cons, alike r r' related]
    cases p r with
    | true => exact .some related
    | false => exact ih

/-- Searches among corresponding routes come to corresponding routes or to the same fault if the
search ends at both of two such routes in the same way or at neither. -/
theorem selection_agree {R : Route → Route → Prop} {url : Json} {rs rs' : List Route}
    (serves : ∀ r r', R r r' → (r'.Serves url ↔ r.Serves url))
    (breaks : ∀ r r', R r r' → (r'.Breaks url ↔ r.Breaks url)) (h : List.Forall₂ R rs rs') :
    Attempt.Agree (Option.Rel R) (selection url rs) (selection url rs') := by
  have found : Option.Rel R (rs.find? fun r => decide (Ends url r))
      (rs'.find? fun r => decide (Ends url r)) :=
    find?_rel (fun r r' related =>
      decide_eq_decide.mpr (or_congr (serves r r' related) (breaks r r' related))) h
  unfold selection
  generalize rs.find? (fun r => decide (Ends url r)) = first at found
  generalize rs'.find? (fun r => decide (Ends url r)) = first' at found
  cases found with
  | none => exact .ok .none
  | @some r r' related =>
    simp only [breaks r r' related]
    split
    · exact .error _
    · exact .ok (.some related)

/-- **The first route that serves is selected.** Of any table, in any session, the route at some
place is selected for a value that can be shown, such as a text, exactly if it is the first that is
enabled and has a pattern for the value, and none is selected exactly if there is no such route. For
another value this is so as far as the search does not break off, which it does at the first enabled
route whose pattern asks for a URL, unless a route in front of it serves. A route at which the
search does not end changes nothing wherever it is put in or taken out; one is such a route if it is
disabled, has no pattern, or has one for other values while the value can be shown. Routes put at
the end change nothing once a route is selected or the search has broken off. -/
theorem select_first {s s' : Session} (reached : s.cache.Reachable)
    (reached' : s'.cache.Reachable) (t : RouteTable) (url : Json) :
    (url.isShowable = true →
      (∀ r, (t.select url).outcome.result s = .ok (some r) ↔ ∃ i, t.IsFirst url i r) ∧
      ((t.select url).outcome.result s = .ok none ↔ ∀ r ∈ t.routes, ¬ r.Serves url)) ∧
    (∀ r, (t.select url).outcome.result s = .ok (some r) ↔
      ∃ i, t.IsFirst url i r ∧ t.IsWholeUpTo url i) ∧
    ((t.select url).outcome.result s = .ok none ↔
      ∀ r ∈ t.routes, ¬ r.Serves url ∧ ¬ r.Breaks url) ∧
    (∀ fault, (t.select url).outcome.result s = .error fault ↔
      fault = .tooLongToWrite ∧ ∃ i r, t.IsBreak url i r) ∧
    (∀ q : Route, q.disabled = true ∨ Pattern.compile q.pattern = none ∨
        url.isShowable = true ∧ ¬ Pattern.IsFor q.pattern url →
      ¬ q.Serves url ∧ ¬ q.Breaks url) ∧
    (∀ front back q, t.routes = front ++ back → ¬ q.Serves url → ¬ q.Breaks url →
      (select ⟨front ++ q :: back⟩ url).outcome.result s' = (t.select url).outcome.result s) ∧
    (∀ more x, (t.select url).outcome.result s = x → x ≠ .ok none →
      (select ⟨t.routes ++ more⟩ url).outcome.result s' = x) := by
  rw [(t.select_gives url).result_eq reached]
  refine ⟨fun shown => ⟨fun r => ?_, ?_⟩, fun r => selection_eq_some_iff, selection_eq_none_iff,
    fun fault => selection_eq_error_iff, fun q passed => ?_,
    fun front back q split served whole => ?_, fun more x found ended => ?_⟩
  · rw [selection_of_showable shown, Except.ok.injEq]
    exact firstServing_eq_some_iff
  · rw [selection_of_showable shown, Except.ok.injEq]
    exact firstServing_eq_none_iff
  · rcases passed with disabled | none | ⟨shown, other⟩
    · exact ⟨Route.not_serves (.inl disabled), Route.not_breaks (.inl disabled)⟩
    · exact ⟨Route.not_serves (.inr (.inl none)), Route.not_breaks (.inr (.inl none))⟩
    · exact ⟨Route.not_serves (.inr (.inr other)), Route.not_breaks (.inr (.inr shown))⟩
  · rw [(select_gives _ url).result_eq reached', split]
    exact selection_insert (not_or.mpr ⟨served, whole⟩) front back
  · rw [(select_gives _ url).result_eq reached']
    exact selection_append found ended more

/-- For an integer of too many digits the search breaks off at a route that does not serve it;
without this route it ends with none. -/
theorem select_first_of_large :
    let r : Route := { pattern := "http://a/*".toText }
    let url := Json.int (10 ^ Decimal.digitLimit : Nat)
    (select ⟨[r]⟩ url).outcome.result Session.start = .error .tooLongToWrite ∧ ¬ r.Serves url ∧
      (select ⟨[]⟩ url).outcome.result Session.start = .ok none := by
  intro r url
  have reached : Session.start.cache.Reachable := .ofCapacity _
  have breaks : r.Breaks url :=
    ⟨rfl, rfl, by decide, Json.isShowable_int_eq_false (Nat.le_of_eq (Int.natAbs_natCast _).symm)⟩
  have first : IsBreak ⟨[r]⟩ url 0 r :=
    ⟨rfl, breaks, fun _ _ earlier => absurd earlier (Nat.not_lt_zero _),
      fun _ _ earlier => absurd earlier (Nat.not_lt_zero _)⟩
  obtain ⟨_, _, _, broken, _⟩ := select_first reached reached ⟨[r]⟩ url
  obtain ⟨_, _, nothing, _⟩ := select_first reached reached ⟨[]⟩ url
  exact ⟨(broken _).mpr ⟨rfl, 0, r, first⟩, breaks.not_serves,
    nothing.mpr fun _ mem => absurd mem List.not_mem_nil⟩

end RouteTable

end ProxySelection
