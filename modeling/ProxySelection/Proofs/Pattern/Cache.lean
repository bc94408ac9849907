import ProxySelection.Pattern.Cache
import ProxySelection.Proofs.Pattern.Grammar

/-!
The cache holds what reading gives.

`PatternCache.Reachable` are the caches that come about, from an empty one of any capacity by
looking texts up, giving another capacity and clearing. In each of them every text stands
beside what reading it anew gives (`PatternCache.Sound`, `Reachable.sound`), texts that are no
pattern included. So looking a text up gives what reading it gives, wherever the answer comes
from: `Reachable.get_pattern`.
-/

namespace ProxySelection

namespace PatternCache

/-- The caches that come about. -/
inductive Reachable : PatternCache → Prop where
  | ofCapacity (capacity : Int) : Reachable (.ofCapacity capacity)
  | get {c : PatternCache} (t : Text) : Reachable c → Reachable (c.get t).2.1
  | resize {c : PatternCache} (capacity : Int) : Reachable c → Reachable (c.resize capacity)
  | clear {c : PatternCache} : Reachable c → Reachable c.clear

/-- Every text held stands beside what reading it anew gives. -/
def Sound (c : PatternCache) : Prop :=
  ∀ t value, (t, value) ∈ c.held → value.map (·.pattern) = Pattern.compile t

/-! ### Reading anew -/

/-- The only pattern that is for everything by its source is the one of `<all_urls>`. -/
theorem eq_everything_of_compile {t : Text} {p : Pattern} (read : Pattern.compile t = some p)
    (all : p.isEverything = true) : p = Pattern.everything := by
  rcases Pattern.compile_eq_some_iff.mp read with ⟨_, same⟩ | ⟨_, _, _, pattern, rfl⟩
  · exact same
  · rw [pattern.isEverything_eq_false] at all
    cases all

/-- What reading anew gives is the pattern of the text. -/
theorem make_pattern (c : PatternCache) (t : Text) :
    (c.make t).1.map (·.pattern) = Pattern.compile t := by
  unfold make
  cases read : Pattern.compile t with
  | none => rfl
  | some p =>
    by_cases all : p.isEverything = true
    · simp only [all, if_true, Option.map_some]
      exact congrArg some (eq_everything_of_compile read all).symm
    · simp [all]

@[simp] theorem make_held (c : PatternCache) (t : Text) : (c.make t).2.held = c.held := by
  unfold make
  split
  · rfl
  · split <;> rfl

theorem source_of_mem_noticesOf {t : Text} {n : Notice} (h : n ∈ noticesOf t) :
    n.source = .patterns := by
  unfold noticesOf at h
  split at h
  · obtain rfl := List.mem_singleton.mp h
    rfl
  · obtain rfl := List.mem_singleton.mp h
    rfl
  · cases h

/-! ### Looking up -/

/-- The ways of looking a text up: it is read anew and not held, it is held, or it is read anew
and held from then on. -/
theorem get_cases (c : PatternCache) (t : Text) :
    (c.capacity ≤ 0 ∧ c.get t = ((c.make t).1, (c.make t).2, noticesOf t)) ∨
    (0 < c.capacity ∧ ∃ value, c.held.lookup t = some value ∧ c.get t = (value, c, [])) ∨
    (0 < c.capacity ∧ c.held.lookup t = none ∧
      c.get t = ((c.make t).1, (c.make t).2.insert t (c.make t).1, noticesOf t)) := by
  unfold get
  by_cases disabled : c.capacity ≤ 0
  · exact .inl ⟨disabled, by simp [disabled]⟩
  · have enabled : 0 < c.capacity := by omega
    cases found : c.held.lookup t with
    | some value => exact .inr (.inl ⟨enabled, value, rfl, by simp [disabled]⟩)
    | none => exact .inr (.inr ⟨enabled, rfl, by simp [disabled]⟩)

/-- What is held stays sound when a text is put beside what reading it gives. -/
theorem Sound.insert {c : PatternCache} (sound : c.Sound) {t : Text} {value : Option Compiled}
    (read : value.map (·.pattern) = Pattern.compile t) : (c.insert t value).Sound := by
  intro t' value' mem
  have kept : (t', value') ∈ c.held ∨ (t', value') = (t, value) := by
    unfold PatternCache.insert at mem
    rcases List.mem_append.mp mem with old | new
    · left
      split at old
      · exact List.mem_of_mem_drop old
      · exact old
    · exact .inr (List.mem_singleton.mp new)
  rcases kept with old | new
  · exact sound t' value' old
  · cases new
    exact read

theorem Sound.lookup {c : PatternCache} (sound : c.Sound) {t : Text} {value : Option Compiled}
    (found : c.held.lookup t = some value) : value.map (·.pattern) = Pattern.compile t := by
  obtain ⟨before, after, held, _⟩ := List.lookup_eq_some_iff.mp found
  exact sound t value (by rw [held]; simp)

theorem Sound.of_held_eq {c c' : PatternCache} (sound : c.Sound) (same : c'.held = c.held) :
    c'.Sound := by
  intro t value mem
  exact sound t value (same ▸ mem)

theorem Sound.get_pattern {c : PatternCache} (sound : c.Sound) (t : Text) :
    (c.get t).1.map (·.pattern) = Pattern.compile t := by
  rcases c.get_cases t with ⟨_, got⟩ | ⟨_, value, found, got⟩ | ⟨_, _, got⟩
  · rw [got]
    exact c.make_pattern t
  · rw [got]
    exact sound.lookup found
  · rw [got]
    exact c.make_pattern t

theorem Sound.get {c : PatternCache} (sound : c.Sound) (t : Text) : (c.get t).2.1.Sound := by
  have made : (c.make t).2.Sound := sound.of_held_eq (c.make_held t)
  rcases c.get_cases t with ⟨_, got⟩ | ⟨_, value, _, got⟩ | ⟨_, _, got⟩
  · rw [got]
    exact made
  · rw [got]
    exact sound
  · rw [got]
    exact made.insert (c.make_pattern t)

/-- The caches that come about are sound. -/
theorem Reachable.sound {c : PatternCache} (reached : c.Reachable) : c.Sound := by
  induction reached with
  | ofCapacity capacity => intro t value mem; cases mem
  | get t _ sound => exact sound.get t
  | resize capacity _ _ => intro t value mem; cases mem
  | clear _ _ => intro t value mem; cases mem

/-- Looking a text up gives what reading it gives, whatever the capacity and whatever is
held. -/
theorem Reachable.get_pattern {c : PatternCache} (reached : c.Reachable) (t : Text) :
    (c.get t).1.map (·.pattern) = Pattern.compile t :=
  reached.sound.get_pattern t

theorem source_of_mem_get {c : PatternCache} {t : Text} {n : Notice}
    (h : n ∈ (c.get t).2.2) : n.source = .patterns := by
  rcases c.get_cases t with ⟨_, got⟩ | ⟨_, value, _, got⟩ | ⟨_, _, got⟩
  · rw [got] at h
    exact source_of_mem_noticesOf h
  · rw [got] at h
    cases h
  · rw [got] at h
    exact source_of_mem_noticesOf h

end PatternCache

end ProxySelection
