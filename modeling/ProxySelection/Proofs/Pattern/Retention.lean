import Mathlib.Data.List.DropRight
import ProxySelection.Json.Basic
import ProxySelection.Proofs.Pattern.Cache

/-!
How long the cache holds a text.

A look-up of a text that is not held is a miss (`PatternCache.Misses`), if the cache holds
anything at all. `PatternCache.History` is a cache with the record of how it came about: what
every look-up gave so far, and the misses since the cache was last emptied. One operation takes
it to the next (`History.step`), and `History.Kept` is what every operation preserves: the cache
holds the last misses of the record, as many as its capacity allows (`Kept.step`, `Kept.after`).

From this record one reads off when a text comes and when it goes (`History.Retains`,
`retains_after`): a text stays from its miss until as many others have been missed as the cache
holds, and all the while it gives the very value that it gave first.
-/

namespace ProxySelection

namespace PatternCache

variable {c : PatternCache} {t : Text} {v : Option Compiled}

/-- What may be done with a cache. -/
inductive Operation where
  /-- A value is looked up. -/
  | look (v : Json)
  /-- It is asked whether a value is held. -/
  | contains (v : Json)
  | resize (capacity : Int)
  | clear

/-- Whether an operation empties the cache. -/
def Operation.empties : Operation → Bool
  | .look _ | .contains _ => false
  | .resize _ | .clear => true

/-- A look-up of the text adds it: it is not held, and the cache is one that holds texts. -/
def Misses (c : PatternCache) (t : Text) : Prop := 0 < c.capacity ∧ t ∉ c.keys

instance (c : PatternCache) (t : Text) : Decidable (c.Misses t) :=
  inferInstanceAs (Decidable (0 < c.capacity ∧ t ∉ c.keys))

/-- A cache, and how it came about. -/
structure History where
  cache : PatternCache
  /-- Every text that was looked up so far, and what it gave. -/
  given : List (Text × Option Compiled)
  /-- The texts missed since the cache was last emptied, and what they gave. -/
  missed : List (Text × Option Compiled)

namespace History

/-- The start with an empty cache. -/
def start (capacity : Int) : History := ⟨.ofCapacity capacity, [], []⟩

/-- What an operation makes of the cache and its record. A value that is no text is never held,
and looking it up gives nothing. -/
def step (h : History) : Operation → History
  | .look (.str t) =>
    let (v, cache, _) := h.cache.get t
    ⟨cache, h.given ++ [(t, v)], if h.cache.Misses t then h.missed ++ [(t, v)] else h.missed⟩
  | .look _ | .contains _ => h
  | .resize capacity => { h with cache := h.cache.resize capacity, missed := [] }
  | .clear => { h with cache := h.cache.clear, missed := [] }

/-- One operation after the other. -/
def after (h : History) (ops : List Operation) : History := ops.foldl step h

@[simp] theorem after_nil (h : History) : h.after [] = h := rfl

@[simp] theorem after_snoc (h : History) (ops : List Operation) (op : Operation) :
    h.after (ops ++ [op]) = (h.after ops).step op := by
  simp [after]

end History

/-! ### Looking up -/

theorem lookup_eq_none_iff_notMem : c.held.lookup t = none ↔ t ∉ c.keys := by
  rw [List.lookup_eq_none_iff, keys, List.mem_map]
  constructor
  · rintro absent ⟨x, mem, rfl⟩
    simpa using absent x mem
  · intro absent x mem
    rw [bne_iff_ne]
    rintro rfl
    exact absent ⟨x, mem, rfl⟩

/-- If the texts held are distinct, each is found with what stands beside it. -/
theorem lookup_of_mem (distinct : c.keys.Nodup) (mem : (t, v) ∈ c.held) :
    c.held.lookup t = some v := by
  obtain ⟨before, behind, split⟩ := List.append_of_mem mem
  refine List.lookup_eq_some_iff.mpr ⟨before, behind, split, fun x earlier => ?_⟩
  rw [keys, split, List.map_append, List.map_cons] at distinct
  have apart := (List.nodup_append.mp distinct).2.2
  rw [bne_iff_ne]
  exact (apart x.1 (List.mem_map_of_mem earlier) t List.mem_cons_self).symm

theorem get_of_mem (distinct : c.keys.Nodup) (enabled : 0 < c.capacity)
    (mem : (t, v) ∈ c.held) : c.get t = (v, c, []) := by
  have found := lookup_of_mem distinct mem
  rcases c.get_cases t with ⟨disabled, _⟩ | ⟨_, w, held, got⟩ | ⟨_, absent, _⟩
  · omega
  · rw [found] at held
    cases held
    exact got
  · rw [found] at absent
    cases absent

/-- A miss reads the text anew and holds it from then on. -/
theorem Misses.get_eq (miss : c.Misses t) :
    c.get t = ((c.make t).1, (c.make t).2.insert t (c.make t).1, noticesOf t) := by
  have absent := lookup_eq_none_iff_notMem.mpr miss.2
  rcases c.get_cases t with ⟨disabled, _⟩ | ⟨_, w, held, _⟩ | ⟨_, _, got⟩
  · have := miss.1
    omega
  · rw [absent] at held
    cases held
  · exact got

/-- A look-up that is no miss is answered by the cache, or by one that holds nothing. -/
theorem get_of_not_misses (hit : ¬ c.Misses t) :
    (c.capacity ≤ 0 ∧ c.get t = ((c.make t).1, (c.make t).2, noticesOf t)) ∨
      ∃ w, (t, w) ∈ c.held ∧ c.get t = (w, c, []) := by
  rcases c.get_cases t with disabled | ⟨_, w, found, got⟩ | ⟨enabled, absent, _⟩
  · exact .inl disabled
  · obtain ⟨before, behind, split, _⟩ := List.lookup_eq_some_iff.mp found
    exact .inr ⟨w, by rw [split]; simp, got⟩
  · exact absurd ⟨enabled, lookup_eq_none_iff_notMem.mp absent⟩ hit

@[simp] theorem make_capacity (c : PatternCache) (t : Text) :
    (c.make t).2.capacity = c.capacity := by
  unfold make
  split
  · rfl
  · split <;> rfl

@[simp] theorem get_capacity (c : PatternCache) (t : Text) :
    (c.get t).2.1.capacity = c.capacity := by
  rcases c.get_cases t with ⟨_, got⟩ | ⟨_, _, _, got⟩ | ⟨_, _, got⟩
  · rw [got]
    exact c.make_capacity t
  · rw [got]
  · rw [got]
    exact c.make_capacity t

/-- The oldest text goes if there is no room for another. -/
theorem insert_held_of_rtake {missed : List (Text × Option Compiled)} (enabled : 0 < c.capacity)
    (held : c.held = missed.rtake c.capacity.toNat) :
    (c.insert t v).held = (missed ++ [(t, v)]).rtake c.capacity.toNat := by
  obtain ⟨n, room⟩ : ∃ n, c.capacity.toNat = n + 1 := ⟨c.capacity.toNat - 1, by omega⟩
  have kept : (if (c.held.length : Int) ≥ c.capacity then c.held.drop 1 else c.held) =
      missed.rtake n := by
    rw [held, room, List.rtake, List.rtake, List.drop_drop, List.length_drop]
    split
    · congr 1
      omega
    · congr 1
      omega
  rw [room, List.rtake_concat_succ, ← kept]
  rfl

theorem insert_keys_nodup (distinct : c.keys.Nodup) (absent : t ∉ c.keys) :
    (c.insert t v).keys.Nodup := by
  have all : (c.keys ++ [t]).Nodup := by
    refine List.nodup_append.mpr ⟨distinct, by simp, fun u mem w last => ?_⟩
    obtain rfl := List.mem_singleton.mp last
    rintro rfl
    exact absent mem
  refine all.sublist ?_
  unfold insert keys
  rw [List.map_append]
  refine List.Sublist.append_right (List.Sublist.map _ ?_) _
  split
  · exact List.drop_sublist 1 c.held
  · exact List.Sublist.refl _

/-! ### Values told apart -/

/-- What a text was given when `made` values had been made: what reading it gives, and for the
text that is for everything the one value there is, for any other a value of those made. -/
structure Rightly (made : Nat) (t : Text) (v : Option Compiled) : Prop where
  pattern : v.map (·.pattern) = Pattern.compile t
  everything : t = Pattern.allUrls → v = some .everything
  serial : t ≠ Pattern.allUrls → ∀ x ∈ v, ∃ n < made, x.identity = .made n

theorem Rightly.mono {made made' : Nat} (right : Rightly made t v) (le : made ≤ made') :
    Rightly made' t v where
  pattern := right.pattern
  everything := right.everything
  serial other x mem := by
    obtain ⟨n, earlier, named⟩ := right.serial other x mem
    exact ⟨n, Nat.lt_of_lt_of_le earlier le, named⟩

theorem compile_allUrls : Pattern.compile Pattern.allUrls = some Pattern.everything :=
  Pattern.compile_eq_some_iff.mpr (.inl ⟨rfl, rfl⟩)

/-- No other text is read as the pattern for everything. -/
theorem not_isEverything_of_compile {p : Pattern} (read : Pattern.compile t = some p)
    (other : t ≠ Pattern.allUrls) : p.isEverything = false := by
  rcases Pattern.compile_eq_some_iff.mp read with ⟨all, _⟩ | ⟨_, _, _, pattern, rfl⟩
  · exact absurd all other
  · exact pattern.isEverything_eq_false

/-- Reading a pattern anew makes the next value. -/
theorem make_of_compile {p : Pattern} (read : Pattern.compile t = some p)
    (other : t ≠ Pattern.allUrls) :
    c.make t = (some ⟨.made c.made, p⟩, { c with made := c.made + 1 }) := by
  simp [make, read, not_isEverything_of_compile read other]

theorem make_allUrls : c.make Pattern.allUrls = (some .everything, c) := by
  simp [make, compile_allUrls, Pattern.everything, Pattern.isEverything]

theorem make_of_compile_eq_none (none : Pattern.compile t = none) : c.make t = (.none, c) := by
  simp [make, none]

theorem le_make_made (c : PatternCache) (t : Text) : c.made ≤ (c.make t).2.made := by
  unfold make
  split
  · exact Nat.le_refl _
  · split
    · exact Nat.le_refl _
    · exact Nat.le_succ _

theorem make_rightly (c : PatternCache) (t : Text) :
    Rightly (c.make t).2.made t (c.make t).1 where
  pattern := c.make_pattern t
  everything all := by
    subst all
    rw [make_allUrls]
  serial other x mem := by
    cases read : Pattern.compile t with
    | none =>
      rw [make_of_compile_eq_none read] at mem
      cases mem
    | some p =>
      rw [make_of_compile read other] at mem ⊢
      cases mem
      exact ⟨c.made, Nat.lt_succ_self _, rfl⟩

theorem le_get_made (c : PatternCache) (t : Text) : c.made ≤ (c.get t).2.1.made := by
  rcases c.get_cases t with ⟨_, got⟩ | ⟨_, _, _, got⟩ | ⟨_, _, got⟩
  · rw [got]
    exact c.le_make_made t
  · rw [got]
  · rw [got]
    exact c.le_make_made t

/-! ### What every operation preserves -/

namespace History

variable {h : History} {op : Operation}

/-- The cache holds the last texts missed, as many as it may, each with what it gave. -/
structure Kept (h : History) : Prop where
  held : h.cache.held = h.missed.rtake h.cache.capacity.toNat
  distinct : h.cache.keys.Nodup
  /-- What a miss gave is among all that was given. -/
  missed : ∀ x ∈ h.missed, x ∈ h.given
  given : ∀ x ∈ h.given, Rightly h.cache.made x.1 x.2

theorem kept_start (capacity : Int) : (start capacity).Kept where
  held := by simp [start, ofCapacity, List.rtake]
  distinct := List.nodup_nil
  missed := by simp [start]
  given := by simp [start]

/-- An emptied cache has no misses to show. -/
theorem Kept.emptied (kept : h.Kept) (capacity : Int) :
    Kept { h with cache := { h.cache with capacity, held := [] }, missed := [] } where
  held := by simp [List.rtake]
  distinct := List.nodup_nil
  missed := by simp
  given := kept.given

theorem step_look_of_misses (miss : h.cache.Misses t) :
    h.step (.look (.str t)) =
      ⟨(h.cache.get t).2.1, h.given ++ [(t, (h.cache.get t).1)],
        h.missed ++ [(t, (h.cache.get t).1)]⟩ := by
  simp [step, miss]

theorem step_look_of_not_misses (hit : ¬ h.cache.Misses t) :
    h.step (.look (.str t)) =
      ⟨(h.cache.get t).2.1, h.given ++ [(t, (h.cache.get t).1)], h.missed⟩ := by
  simp [step, hit]

/-- What a text gives is given rightly. -/
theorem Kept.rightly (kept : h.Kept) (t : Text) :
    Rightly (h.cache.get t).2.1.made t (h.cache.get t).1 := by
  by_cases miss : h.cache.Misses t
  · rw [miss.get_eq]
    exact h.cache.make_rightly t
  · rcases get_of_not_misses miss with ⟨_, got⟩ | ⟨w, mem, got⟩
    · rw [got]
      exact h.cache.make_rightly t
    · rw [got]
      have recorded : (t, w) ∈ h.missed := by
        rw [kept.held] at mem
        exact List.mem_of_mem_drop mem
      exact kept.given _ (kept.missed _ recorded)

theorem Kept.given_snoc (kept : h.Kept) (t : Text) :
    ∀ x ∈ h.given ++ [(t, (h.cache.get t).1)], Rightly (h.cache.get t).2.1.made x.1 x.2 := by
  intro x mem
  rcases List.mem_append.mp mem with earlier | now
  · exact (kept.given x earlier).mono (h.cache.le_get_made t)
  · obtain rfl := List.mem_singleton.mp now
    exact kept.rightly t

/-- A look-up keeps the record: a miss adds to what is held, and no other look-up changes it. -/
theorem Kept.look (kept : h.Kept) (t : Text) : (h.step (.look (.str t))).Kept := by
  by_cases miss : h.cache.Misses t
  · rw [step_look_of_misses miss]
    have held : (h.cache.make t).2.held = h.missed.rtake (h.cache.make t).2.capacity.toNat := by
      rw [make_held, make_capacity]
      exact kept.held
    have enabled : 0 < (h.cache.make t).2.capacity := by
      rw [make_capacity]
      exact miss.1
    have same : (h.cache.make t).2.keys = h.cache.keys := by rw [keys, make_held, keys]
    refine ⟨?_, ?_, ?_, kept.given_snoc t⟩
    · rw [miss.get_eq]
      exact insert_held_of_rtake enabled held
    · rw [miss.get_eq]
      refine insert_keys_nodup ?_ ?_
      · rw [same]
        exact kept.distinct
      · rw [same]
        exact miss.2
    · intro x mem
      rcases List.mem_append.mp mem with earlier | now
      · exact List.mem_append_left _ (kept.missed x earlier)
      · exact List.mem_append_right _ now
  · rw [step_look_of_not_misses miss]
    have same : (h.cache.get t).2.1.held = h.cache.held := by
      rcases get_of_not_misses miss with ⟨_, got⟩ | ⟨_, _, got⟩
      · rw [got]
        exact h.cache.make_held t
      · rw [got]
    refine ⟨?_, ?_, ?_, kept.given_snoc t⟩
    · rw [same, get_capacity]
      exact kept.held
    · rw [keys, same]
      exact kept.distinct
    · intro x mem
      exact List.mem_append_left _ (kept.missed x mem)

/-- **The step.** Whatever is done, the cache holds the last texts missed. -/
theorem Kept.step (kept : h.Kept) (op : Operation) : (h.step op).Kept := by
  cases op with
  | look v =>
    cases v with
    | str t => exact kept.look t
    | _ => exact kept
  | contains v => exact kept
  | resize capacity => exact kept.emptied capacity
  | clear => exact kept.emptied h.cache.capacity

/-- **The run.** So it is after any number of operations. -/
theorem Kept.after (kept : h.Kept) (ops : List Operation) : (h.after ops).Kept := by
  induction ops using List.reverseRecOn with
  | nil => exact kept
  | append_singleton ops op ih =>
    rw [after_snoc]
    exact ih.step op

/-! ### From a miss on -/

/-- Without emptying, a step keeps the capacity and adds a text that was not held to the misses,
or none. -/
theorem step_of_not_empties (h : History) (keeps : op.empties = false) :
    (h.step op).cache.capacity = h.cache.capacity ∧
      ((h.step op).missed = h.missed ∨
        ∃ t w, h.cache.Misses t ∧ (h.step op).missed = h.missed ++ [(t, w)]) := by
  cases op with
  | look v =>
    cases v with
    | str t =>
      refine ⟨h.cache.get_capacity t, ?_⟩
      by_cases miss : h.cache.Misses t
      · rw [step_look_of_misses miss]
        exact .inr ⟨t, _, miss, rfl⟩
      · rw [step_look_of_not_misses miss]
        exact .inl rfl
    | _ => exact ⟨rfl, .inl rfl⟩
  | contains v => exact ⟨rfl, .inl rfl⟩
  | resize capacity => cases keeps
  | clear => cases keeps

/-- What was missed is held while there is room for it and for all that was missed since. -/
theorem Kept.mem_held {before next : List (Text × Option Compiled)} (kept : h.Kept)
    (record : h.missed = before ++ (t, v) :: next)
    (room : next.length < h.cache.capacity.toNat) : (t, v) ∈ h.cache.held := by
  rw [kept.held, record, List.rtake, List.drop_append]
  have short : (before ++ (t, v) :: next).length - h.cache.capacity.toNat - before.length = 0 := by
    simp only [List.length_append, List.length_cons]
    omega
  rw [short, List.drop_zero]
  exact List.mem_append_right _ List.mem_cons_self

/-- When as many have been missed since as there is room for, those are what is held. -/
theorem Kept.held_eq {before next : List (Text × Option Compiled)} (kept : h.Kept)
    (record : h.missed = before ++ next) (full : next.length = h.cache.capacity.toNat) :
    h.cache.held = next := by
  rw [kept.held, record, List.rtake, List.length_append, full, Nat.add_sub_cancel]
  exact List.drop_left

/-- As long as a text that was missed has not been driven out, it is not missed again. -/
theorem Kept.after_miss (kept : h.Kept) {before : List (Text × Option Compiled)}
    (record : h.missed = before ++ [(t, v)]) (later : List Operation)
    (keeps : ∀ op ∈ later, op.empties = false) :
    (h.after later).cache.capacity = h.cache.capacity ∧
      ∃ next, (h.after later).missed = h.missed ++ next ∧
        (next.length ≤ h.cache.capacity.toNat → t ∉ next.map (·.1)) := by
  induction later using List.reverseRecOn with
  | nil => exact ⟨rfl, [], by simp, by simp⟩
  | append_singleton later op ih =>
    obtain ⟨capacity, next, missed, absent⟩ :=
      ih fun op mem => keeps op (List.mem_append_left _ mem)
    obtain ⟨capacity', grown⟩ := (h.after later).step_of_not_empties (keeps op (by simp))
    rw [after_snoc]
    refine ⟨capacity'.trans capacity, ?_⟩
    rcases grown with same | ⟨u, w, miss, grown⟩
    · exact ⟨next, same.trans missed, absent⟩
    · refine ⟨next ++ [(u, w)], by rw [grown, missed, List.append_assoc], fun room => ?_⟩
      rw [List.length_append, List.length_singleton] at room
      -- There was still room, so the text is held, and the one missed now is another.
      have since : (h.after later).missed = before ++ (t, v) :: next := by
        rw [missed, record, List.append_assoc, List.singleton_append]
      have held := (kept.after later).mem_held since (by omega)
      have other : t ≠ u := by
        rintro rfl
        exact miss.2 (List.mem_map_of_mem held)
      rw [List.map_append, List.mem_append, not_or]
      exact ⟨absent (by omega), by simpa using other⟩

/-! ### What the history tells -/

/-- What holds of a cache by its history. -/
structure Retains (h : History) : Prop where
  /-- The texts held are distinct. -/
  distinct : h.cache.keys.Nodup
  /-- They are no more than the capacity, and none if that is not positive. -/
  bounded : (h.cache.size : Int) ≤ max h.cache.capacity 0
  /-- They are the last ones missed since the cache was emptied, in their order, as many as the
  capacity allows. -/
  ordered : h.cache.keys = (h.missed.map (·.1)).rtake h.cache.capacity.toNat
  counted : h.cache.size = min h.cache.capacity.toNat h.missed.length
  /-- Asking whether a value is held changes nothing. -/
  asked : ∀ v, h.step (.contains v) = h
  /-- Looking up what is held or what is no text does not change the cache. -/
  hit : ∀ t ∈ h.cache.keys, (h.step (.look (.str t))).cache = h.cache
  noText : ∀ v : Json, v.text? = none → h.step (.look v) = h
  emptied : ∀ op : Operation, op.empties = true → (h.step op).cache.keys = []
  /-- From a miss on, and while nothing empties the cache, a text gives the value that the miss
  gave, and gives it from the cache, until as many others have been missed as the capacity says.
  Then it is no longer held. -/
  lifetime : ∀ t, h.cache.Misses t → ∀ later : List Operation,
    (∀ op ∈ later, op.empties = false) →
      let first := h.step (.look (.str t))
      let last := first.after later
      ∃ next, last.missed = first.missed ++ next ∧
        (next.length < h.cache.capacity.toNat →
          last.cache.get t = ((h.cache.get t).1, last.cache, [])) ∧
        (next.length = h.cache.capacity.toNat → t ∉ last.cache.keys)
  /-- The text that is for everything gives the one value there is. -/
  everything : (h.cache.get Pattern.allUrls).1 = some .everything
  /-- Without a capacity every other pattern gives a value that was not given before, equal to
  those that the same text gave. -/
  fresh : h.cache.capacity ≤ 0 → ∀ t p, Pattern.compile t = some p → t ≠ Pattern.allUrls →
    ∃ x, (h.cache.get t).1 = some x ∧ x.pattern = p ∧
      ∀ y ∈ h.given, ∀ x' ∈ y.2, x'.identity ≠ x.identity ∧ (y.1 = t → x'.pattern = p)

theorem Kept.counted (kept : h.Kept) :
    h.cache.size = min h.cache.capacity.toNat h.missed.length := by
  rw [size, kept.held, List.rtake, List.length_drop]
  omega

theorem Kept.hit (kept : h.Kept) (held : t ∈ h.cache.keys) :
    (h.step (.look (.str t))).cache = h.cache := by
  have known : ¬ h.cache.Misses t := fun miss => miss.2 held
  rw [step_look_of_not_misses known]
  rcases get_of_not_misses known with ⟨disabled, _⟩ | ⟨_, _, got⟩
  · have none : h.cache.size = 0 := by
      have := kept.counted
      omega
    have empty : h.cache.keys = [] := by
      rw [keys, List.eq_nil_of_length_eq_zero none, List.map_nil]
    rw [empty] at held
    cases held
  · rw [got]

theorem Kept.lifetime (kept : h.Kept) (miss : h.cache.Misses t) (later : List Operation)
    (keeps : ∀ op ∈ later, op.empties = false) :
    let first := h.step (.look (.str t))
    let last := first.after later
    ∃ next, last.missed = first.missed ++ next ∧
      (next.length < h.cache.capacity.toNat →
        last.cache.get t = ((h.cache.get t).1, last.cache, [])) ∧
      (next.length = h.cache.capacity.toNat → t ∉ last.cache.keys) := by
  intro first last
  have looked : first = _ := step_look_of_misses miss
  have record : first.missed = h.missed ++ [(t, (h.cache.get t).1)] := by rw [looked]
  have capacity : first.cache.capacity = h.cache.capacity := by
    rw [looked]
    exact h.cache.get_capacity t
  obtain ⟨same, next, missed, absent⟩ := (kept.look t).after_miss record later keeps
  have now : last.Kept := (kept.look t).after later
  have room : last.cache.capacity = h.cache.capacity := same.trans capacity
  refine ⟨next, missed, fun few => ?_, fun full => ?_⟩
  · have since : last.missed = h.missed ++ (t, (h.cache.get t).1) :: next := by
      rw [missed, record, List.append_assoc, List.singleton_append]
    refine get_of_mem now.distinct ?_ (now.mem_held since ?_)
    · rw [room]
      exact miss.1
    · rw [room]
      exact few
  · have held : last.cache.held = next := now.held_eq missed (by rw [room]; exact full)
    rw [keys, held]
    exact absent (by rw [capacity]; omega)

theorem Kept.fresh (kept : h.Kept) (disabled : h.cache.capacity ≤ 0) {p : Pattern}
    (read : Pattern.compile t = some p) (other : t ≠ Pattern.allUrls) :
    ∃ x, (h.cache.get t).1 = some x ∧ x.pattern = p ∧
      ∀ y ∈ h.given, ∀ x' ∈ y.2, x'.identity ≠ x.identity ∧ (y.1 = t → x'.pattern = p) := by
  have hit : ¬ h.cache.Misses t := fun miss => by
    have := miss.1
    omega
  have got : (h.cache.get t).1 = some ⟨.made h.cache.made, p⟩ := by
    rcases h.cache.get_cases t with ⟨_, got⟩ | ⟨enabled, _⟩ | ⟨enabled, _⟩
    · rw [got, make_of_compile read other]
    · omega
    · omega
  refine ⟨_, got, rfl, fun y mem x' value => ⟨?_, ?_⟩⟩
  · have right := kept.given y mem
    by_cases all : y.1 = Pattern.allUrls
    · have everything := right.everything all
      rw [everything] at value
      cases value
      nofun
    -- Every value made so far has a number below the one it has now.
    · obtain ⟨n, earlier, named⟩ := right.serial all x' value
      rw [named]
      intro same
      cases same
      exact Nat.lt_irrefl _ earlier
  · intro same
    have pattern := (kept.given y mem).pattern
    rw [same, read, Option.mem_def.mp value] at pattern
    exact Option.some_inj.mp pattern

theorem Kept.retains (kept : h.Kept) : h.Retains where
  distinct := kept.distinct
  bounded := by
    have := kept.counted
    omega
  ordered := by rw [keys, kept.held, List.rtake, List.rtake, List.map_drop, List.length_map]
  counted := kept.counted
  asked _ := rfl
  hit _ held := kept.hit held
  noText v none := by
    cases v with
    | str t => cases none
    | _ => rfl
  emptied op empties := by
    cases op with
    | look v => cases empties
    | contains v => cases empties
    | resize capacity => rfl
    | clear => rfl
  lifetime _ miss later keeps := kept.lifetime miss later keeps
  everything := (kept.rightly Pattern.allUrls).everything rfl
  fresh disabled _ _ read other := kept.fresh disabled read other

end History

/-- **A cache holds what was missed last.** After any run on a cache of any capacity, the texts
held are distinct and are the last ones missed since the cache was emptied, in their order and as
many as the capacity allows. A text gives the very value of its miss until as many others have
been missed, whatever hits come in between, and then it goes. -/
theorem retains_after (capacity : Int) (ops : List Operation) :
    ((History.start capacity).after ops).Retains :=
  ((History.kept_start capacity).after ops).retains

/-- With room for two, a text stays for one miss after its own, though it is looked up itself, and
goes with the second. Without room each look-up makes another value. -/
theorem retains_after_two_misses :
    let t := "http://a/*".toText
    let look (t : Text) : Operation := .look (.str t)
    let before := (History.start 2).after [look [char 'b']]
    let held := (before.step (look t)).after [look t, look [char 'c']]
    let bare := (History.start 0).after [look t]
    held.cache.get t = ((before.cache.get t).1, held.cache, []) ∧
      t ∉ (held.step (look [char 'd'])).cache.keys ∧
      ∃ x y, bare.given = [(t, some x)] ∧ (bare.cache.get t).1 = some y ∧
        x.identity ≠ y.identity ∧ x.pattern = y.pattern := by
  intro t look before held bare
  have miss : before.cache.Misses t := by decide +kernel
  have room : before.cache.capacity.toNat = 2 := by decide +kernel
  have own : (before.step (look t)).missed.length = 2 := by decide +kernel
  refine ⟨?_, ?_, ?_⟩
  · obtain ⟨next, missed, few, _⟩ :=
      (retains_after 2 [look [char 'b']]).lifetime t miss [look t, look [char 'c']] (by decide)
    have count : held.missed.length = (before.step (look t)).missed.length + next.length := by
      rw [← List.length_append]
      exact congrArg List.length missed
    have all : held.missed.length = 3 := by decide +kernel
    have less : next.length < before.cache.capacity.toNat := by omega
    exact few less
  · obtain ⟨next, missed, _, full⟩ :=
      (retains_after 2 [look [char 'b']]).lifetime t miss
        [look t, look [char 'c'], look [char 'd']] (by decide)
    have count : (held.step (look [char 'd'])).missed.length =
        (before.step (look t)).missed.length + next.length := by
      rw [← List.length_append]
      exact congrArg List.length missed
    have all : (held.step (look [char 'd'])).missed.length = 4 := by decide +kernel
    have same : next.length = before.cache.capacity.toNat := by omega
    exact full same
  · have read : Pattern.compile t = some _ := rfl
    obtain ⟨y, now, pattern, others⟩ :=
      (retains_after 0 [look t]).fresh (by decide) t _ read (by decide)
    have given : bare.given = [(t, some ⟨.made 0, y.pattern⟩)] := by
      rw [pattern]
      rfl
    obtain ⟨other, _⟩ := others _ (given ▸ List.mem_cons_self) _ rfl
    exact ⟨_, y, given, now, other, rfl⟩

end PatternCache

end ProxySelection
