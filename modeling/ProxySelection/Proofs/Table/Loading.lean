import ProxySelection.Proofs.Table.Listing
import ProxySelection.Proofs.Text.Utf8

/-!
Tables loaded from files.

A file holds items if it is JSON text of a list, or of an object with the list in its member
`proxies` (`RouteTable.HoldsItems`), and then it gives the table of those items that are routes,
whatever stands between them: `RouteTable.load_keeps_valid`. What is reported of the items is told
apart by how much it matters: an error for an item that is left out, a warning for a route that
matches nothing, and the number of routes.
-/

namespace ProxySelection

namespace RouteTable

/-- Whether a value is a route. -/
def isRoute (v : Json) : Bool := (Route.check v).isOk

variable {items : List Json} {v : Json} {r : Route} {issues : List Issue}

/-! ### The items of a file -/

/-- The contents are JSON text of a list of items, or of an object whose member `proxies` is one;
without this member there are no items. At most `depth` arrays and objects lie inside each
other. -/
def HoldsItems (depth : Nat) (contents : List UInt8) (items : List Json) : Prop :=
  ∃ t v, Utf8.encode t = .ok contents ∧ Json.read depth t.withLineFeeds = .ok v ∧
    (v = .arr items ∨
      ∃ ms, v = .obj ms ∧ (Members.get? listName ms).getD (.arr []) = .arr items)

theorem listOf_eq_some_iff :
    listOf v = some items ↔ v = .arr items ∨
      ∃ ms, v = .obj ms ∧ (Members.get? listName ms).getD (.arr []) = .arr items := by
  cases v with
  | arr vs => simp [listOf]
  | obj ms =>
    cases found : Members.get? listName ms with
    | none => simp [listOf, found]
    | some w => cases w <;> simp [listOf, found]
  | _ => simp [listOf]

/-- Items are found exactly where a file holds them. -/
theorem itemsOf_eq_ok_iff {depth : Nat} {path : Text} {contents : List UInt8} :
    itemsOf depth path contents = .ok items ↔ HoldsItems depth contents items := by
  constructor
  · intro found
    unfold itemsOf at found
    split at found
    · cases found
    · rename_i t decoded
      simp only at found
      split at found
      · cases found
      · cases found
      · cases found
      · rename_i v read
        split at found
        · rename_i vs listed
          cases found
          exact ⟨t, v, Utf8.decode_eq_some_iff.mp decoded, read, listOf_eq_some_iff.mp listed⟩
        · cases found
  · rintro ⟨t, v, encoded, read, form⟩
    simp only [itemsOf, Utf8.decode_eq_some_iff.mpr encoded, read, listOf_eq_some_iff.mpr form]

theorem load_eq_ok_iff {s : Session} (reached : s.cache.Reachable) {depth : Nat} {path : Text}
    {file : File} {t : RouteTable} :
    (load depth path file).outcome.result s = .ok t ↔
      ∃ items, itemsIn depth path file = .ok items ∧ t = ⟨kept items⟩ := by
  cases found : itemsIn depth path file with
  | ok items =>
    rw [(load_gives_ok found).result_eq reached]
    simp [eq_comm]
  | error fault =>
    rw [(load_gives_error found).result_eq reached]
    simp

theorem load_eq_error_iff {s : Session} (reached : s.cache.Reachable) {depth : Nat} {path : Text}
    {file : File} {fault : LoadFault} :
    (load depth path file).outcome.result s = .error fault ↔
      itemsIn depth path file = .error fault := by
  cases found : itemsIn depth path file with
  | ok items =>
    rw [(load_gives_ok found).result_eq reached]
    simp
  | error fault =>
    rw [(load_gives_error found).result_eq reached]
    simp

/-! ### What is kept -/

theorem isRoute_iff : isRoute v = true ↔ ∃ r, Route.check v = .ok r := by
  cases checked : Route.check v <;> simp [isRoute, checked, Except.isOk, Except.toBool]

theorem not_isRoute_of_error (checked : Route.check v = .error issues) : ¬ isRoute v = true := by
  simp [isRoute, checked, Except.isOk, Except.toBool]

theorem kept_append (front back : List Json) : kept (front ++ back) = kept front ++ kept back :=
  List.filterMap_append

/-- Whether an item is kept, and as which route, does not depend on the other items. -/
theorem kept_split (front : List Json) (v : Json) (back : List Json) :
    kept (front ++ v :: back) = kept front ++ (Route.check v).toOption.toList ++ kept back := by
  rw [kept_append, List.append_assoc]
  congr 1
  cases checked : Route.check v with
  | ok r => exact kept_cons_of_ok checked back
  | error issues => exact kept_cons_of_error checked back

/-- What is kept are the routes that the valid items are, in order. -/
theorem forall₂_filter_kept (items : List Json) :
    List.Forall₂ (fun v r => Route.check v = .ok r) (items.filter isRoute) (kept items) := by
  induction items with
  | nil => exact .nil
  | cons v items ih =>
    cases checked : Route.check v with
    | ok r =>
      rw [List.filter_cons_of_pos (isRoute_iff.mpr ⟨r, checked⟩), kept_cons_of_ok checked]
      exact .cons checked ih
    | error issues =>
      rw [List.filter_cons_of_neg (not_isRoute_of_error checked), kept_cons_of_error checked]
      exact ih

/-! ### What is reported -/

/-- The report that an item is no route, which names its place. -/
def rejection? (path : Text) (item : Json × Nat) : Option Notice :=
  match Route.check item.1 with
  | .ok _ => none
  | .error issues => some (.rejectedItem item.2 path issues.length)

theorem filter_announcement (r : Route) (level : Level) :
    (announcement r).filter (·.level = level) =
      if level = .warning then announcement r else [] := by
  unfold announcement
  by_cases dead : (Pattern.compile r.pattern).isNone
  · rw [if_pos dead]
    cases level <;> rfl
  · rw [if_neg dead]
    simp

theorem flatMap_announcement (rs : List Route) :
    rs.flatMap announcement = (rs.filter fun r => !r.isLive).map (.neverMatches ·.pattern) := by
  induction rs with
  | nil => rfl
  | cons r rs ih =>
    rw [List.flatMap_cons, ih]
    by_cases live : r.isLive
    · have silent : announcement r = [] := by
        simpa [announcement, Route.isLive, Option.isSome_iff_ne_none] using live
      rw [silent, List.filter_cons_of_neg (by simp [live])]
      rfl
    · have told : announcement r = [.neverMatches r.pattern] := by
        simpa [announcement, Route.isLive] using live
      rw [told, List.filter_cons_of_pos (by simp [live])]
      rfl

/-- One error for each item that is no route, in order, by its place among all items. -/
theorem errors_loadReports (path : Text) (items : List Json) :
    (loadReports path items).filter (·.level = .error) =
      items.zipIdx.filterMap (rejection? path) := by
  have each : ∀ item, (itemReports path item).filter (·.level = .error) =
      (rejection? path item).toList := by
    intro item
    unfold itemReports rejection?
    cases Route.check item.1 with
    | ok r => exact filter_announcement r .error
    | error issues => rfl
  rw [loadReports, List.filter_append, List.filter_flatMap, List.filterMap_eq_flatMap_toList]
  simp only [each]
  exact List.append_nil _

/-- One warning for each route that is kept and has no pattern, in order. -/
theorem warnings_loadReports (path : Text) (items : List Json) :
    (loadReports path items).filter (·.level = .warning) =
      ((kept items).filter fun r => !r.isLive).map (.neverMatches ·.pattern) := by
  have each : ∀ item, (itemReports path item).filter (·.level = .warning) =
      (Route.check item.1).toOption.toList.flatMap announcement := by
    intro item
    unfold itemReports
    cases Route.check item.1 with
    | ok r =>
      rw [filter_announcement, if_pos rfl]
      exact (List.append_nil _).symm
    | error issues => rfl
  have places : items.zipIdx.flatMap (fun item =>
      (Route.check item.1).toOption.toList.flatMap announcement) =
        (kept items).flatMap announcement := by
    have forget := List.flatMap_map Prod.fst
      (fun v => (Route.check v).toOption.toList.flatMap announcement) (l := items.zipIdx)
    rw [List.zipIdx_map_fst] at forget
    rw [← forget, kept, List.filterMap_eq_flatMap_toList, List.flatMap_assoc]
  rw [loadReports, List.filter_append, List.filter_flatMap, ← flatMap_announcement]
  simp only [each, places]
  exact List.append_nil _

/-- How many routes are kept is told once. -/
theorem infos_loadReports (path : Text) (items : List Json) :
    (loadReports path items).filter (·.level = .info) = [.loaded (kept items).length path] := by
  have each : ∀ item, (itemReports path item).filter (·.level = .info) = [] := by
    intro item
    unfold itemReports
    cases Route.check item.1 with
    | ok r => exact filter_announcement r .info
    | error issues => rfl
  rw [loadReports, List.filter_append, List.filter_flatMap]
  simp only [each, List.flatMap_eq_nil_iff.mpr fun _ _ => rfl]
  rfl

/-! ### Loading -/

/-- **Loading keeps the valid items.** A file that holds items, under a path that the operating
system takes, gives the table of those that are routes, which is the one that these items alone
give. Each item counts by itself: it is kept in its place or left out, whatever stands before and
behind it. The items are reported in their turn, the number of routes at the end; so there is one
error for each item that is left out, by its place in the file, and one warning for each route
without a pattern. If all items are routes they give the same table without a file, and if not they
give none, for the issues of the first that is no route. -/
theorem load_keeps_valid {s s' : Session} (reached : s.cache.Reachable)
    (reached' : s'.cache.Reachable) {depth : Nat} {contents : List UInt8} {items : List Json}
    (holds : HoldsItems depth contents items) {path : Text} (native : path.nativeFault? = none) :
    ∃ t reports, (load depth path (.octets contents)).outcome.result s = .ok t ∧
      ((load depth path (.octets contents)).outcome.after s).reports = s.reports ++ reports ∧
      (ofJson (.arr (items.filter isRoute))).outcome.result s' = .ok t ∧
      List.Forall₂ (fun v r => Route.check v = .ok r) (items.filter isRoute) t.routes ∧
      (∀ front v back, items = front ++ v :: back →
        t.routes = kept front ++ (Route.check v).toOption.toList ++ kept back) ∧
      reports = items.zipIdx.flatMap (itemReports path) ++ [.loaded t.size path] ∧
      reports.filter (·.level = .error) = items.zipIdx.filterMap (rejection? path) ∧
      reports.filter (·.level = .warning) =
        (t.routes.filter fun r => !r.isLive).map (.neverMatches ·.pattern) ∧
      reports.filter (·.level = .info) = [.loaded t.size path] ∧
      ((∀ v ∈ items, isRoute v = true) → (ofJson (.arr items)).outcome.result s' = .ok t) ∧
      ((∃ v ∈ items, isRoute v = false) → ∃ front v back issues, items = front ++ v :: back ∧
        (∀ w ∈ front, isRoute w = true) ∧ Route.check v = .error issues ∧
        (ofJson (.arr items)).outcome.result s' = .error (.notRoute issues)) := by
  have found : itemsIn depth path (.octets contents) = .ok items := by
    simp only [itemsIn, native]
    exact itemsOf_eq_ok_iff.mpr holds
  obtain ⟨value, added, _⟩ := load_gives_ok found s reached
  have strict : (ofJson (.arr (items.filter isRoute))).outcome.result s' = .ok ⟨kept items⟩ :=
    (ofJson_arr_iff reached').mpr (forall₂_filter_kept items)
  refine ⟨⟨kept items⟩, loadReports path items, value, added, strict, forall₂_filter_kept items,
    ?_, rfl, errors_loadReports path items, warnings_loadReports path items,
    infos_loadReports path items, ?_, ?_⟩
  · rintro front v back rfl
    exact kept_split front v back
  · intro valid
    rwa [List.filter_eq_self.mpr valid] at strict
  · rintro ⟨v, mem, invalid⟩
    have failed : ¬ ∃ rs, items.mapM Route.check = .ok rs := by
      intro passed
      have valid := isRoute_iff.mpr (mapM_isOk_iff.mp passed v mem)
      rw [invalid] at valid
      cases valid
    cases gone : items.mapM Route.check with
    | ok rs => exact absurd ⟨rs, gone⟩ failed
    | error issues =>
      obtain ⟨front, w, back, split, valid, wrong⟩ := mapM_eq_error_iff.mp gone
      refine ⟨front, w, back, issues, split, fun x mem => isRoute_iff.mpr (valid x mem), wrong, ?_⟩
      rw [ofJson_result reached' rfl, gone]
      rfl

/-- Of four items the first and the last are routes, and the pattern of the last is none. -/
theorem load_keeps_valid_mixed :
    let path := "routes.json".toText
    let text := ("\x7b\"proxies\": [\x7b\"match\": \"http://a/*\"\x7d, \x7b\"match\": 1\x7d, 7, " ++
      "\x7b\"match\": \"x\"\x7d]\x7d").toText
    let t : RouteTable := ⟨[{ pattern := "http://a/*".toText }, { pattern := [char 'x'] }]⟩
    ∃ contents, Utf8.encode text = .ok contents ∧
      (load 3 path (.octets contents)).outcome.result Session.start = .ok t ∧
      ((load 3 path (.octets contents)).outcome.after Session.start).reports =
        [.rejectedItem 1 path 1, .rejectedItem 2 path 1, .neverMatches [char 'x'], .loaded 2 path] ∧
      ∃ issues, (ofJson (.arr [.obj [(Route.patternName, .str "http://a/*".toText)],
        .obj [(Route.patternName, .int 1)], .int 7,
        .obj [(Route.patternName, .str [char 'x'])]])).outcome.result Session.start =
          .error (.notRoute issues) := by
  intro path text t
  let items : List Json := [.obj [(Route.patternName, .str "http://a/*".toText)],
    .obj [(Route.patternName, .int 1)], .int 7, .obj [(Route.patternName, .str [char 'x'])]]
  have reached : Session.start.cache.Reachable := .ofCapacity _
  have read : Json.read 3 (Text.withLineFeeds text) = .ok (.obj [(listName, .arr items)]) := by
    with_unfolding_all rfl
  have encoded : Utf8.encode text = .ok (text.flatMap Utf8.octetsOf) :=
    if_pos (Utf8.isEncodable_toText _)
  have native : path.nativeFault? = none := rfl
  have holds : HoldsItems 3 (text.flatMap Utf8.octetsOf) items :=
    ⟨text, _, encoded, read, .inr ⟨_, rfl, rfl⟩⟩
  have valid : items.filter isRoute = [.obj [(Route.patternName, .str "http://a/*".toText)],
      .obj [(Route.patternName, .str [char 'x'])]] := rfl
  obtain ⟨t', reports, value, added, _, routes, _, told, _, _, _, _, strict⟩ :=
    load_keeps_valid reached reached holds native
  have same : t' = t := by
    obtain ⟨rs⟩ := t'
    rw [valid] at routes
    rcases routes with _ | ⟨first, _ | ⟨second, _ | _⟩⟩
    cases first
    cases second
    rfl
  subst same
  obtain ⟨_, _, _, issues, _, _, _, refused⟩ := strict ⟨.int 7, by simp [items], rfl⟩
  refine ⟨_, encoded, value, ?_, issues, refused⟩
  rw [added, told]
  rfl

end RouteTable

end ProxySelection
