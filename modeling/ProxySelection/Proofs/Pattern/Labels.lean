import ProxySelection.Proofs.Pattern.Parts
import ProxySelection.Url.Basic

/-!
Domains by their labels.

Whether a rule is for the hosts below a domain is decided by characters: a host is the domain, or
ends with a point and the domain. `HostRule.Covers` says it by labels, the pieces between points.
The two agree because a point is where labels end and begin (`Text.parts_append_cons`), and because
labels in front of others are put together with a point behind them (`Text.joinWith_append`). Empty
labels count like all others. The port of a host has no points, so it belongs to the last label
(`Url.labels_remote`).

So a host that merely ends in the characters of a domain is not below it, and what is below a domain
that is below another is below that one too: `HostRule.suffix_by_labels`.
-/

namespace ProxySelection

/-! ### Pieces between separators -/

namespace Text

variable {c : CodePoint} {t : Text} {ps qs : List Text}

/-- At a separator the pieces of what stands in front of it end, and those of what stands behind
begin. -/
theorem parts_append_cons (c : CodePoint) (a b : Text) :
    parts c (a ++ c :: b) = parts c a ++ parts c b := by
  induction a with
  | nil => simp [parts]
  | cons x a ih =>
    by_cases same : x = c
    · simp [parts, same, ih]
    · obtain ⟨p, ps, pieces⟩ := List.exists_cons_of_ne_nil (parts_ne_nil c a)
      simp [parts, same, ih, pieces]

theorem parts_of_not_mem (free : c ∉ t) : parts c t = [t] := by
  induction t with
  | nil => rfl
  | cons x t ih =>
    simp only [List.mem_cons, not_or] at free
    simp [parts, Ne.symm free.1, ih free.2]

theorem not_mem_of_mem_parts {p : Text} (mem : p ∈ parts c t) : c ∉ p := by
  induction t generalizing p with
  | nil =>
    obtain rfl := List.mem_singleton.mp mem
    exact List.not_mem_nil
  | cons x t ih =>
    obtain ⟨q, qs, pieces⟩ := List.exists_cons_of_ne_nil (parts_ne_nil c t)
    by_cases same : x = c
    · simp only [parts, if_pos same, List.mem_cons] at mem
      rcases mem with rfl | later
      · exact List.not_mem_nil
      · exact ih later
    · simp only [parts, if_neg same, pieces, List.mem_cons] at mem
      rcases mem with rfl | later
      · have free := ih (pieces ▸ List.mem_cons_self)
        simp [Ne.symm same, free]
      · exact ih (pieces ▸ List.mem_cons_of_mem _ later)

/-- Putting pieces together puts a separator between the first ones and the rest. -/
theorem joinWith_append (front : ps ≠ []) (behind : qs ≠ []) :
    joinWith c (ps ++ qs) = joinWith c ps ++ c :: joinWith c qs := by
  induction ps with
  | nil => exact absurd rfl front
  | cons p ps ih =>
    cases ps with
    | nil =>
      obtain ⟨q, qs, rfl⟩ := List.exists_cons_of_ne_nil behind
      rfl
    | cons p' ps => simpa [joinWith] using ih (by simp)

theorem parts_joinWith (free : ∀ p ∈ ps, c ∉ p) (nonempty : ps ≠ []) :
    parts c (joinWith c ps) = ps := by
  induction ps with
  | nil => exact absurd rfl nonempty
  | cons p ps ih =>
    obtain ⟨first, rest⟩ := List.forall_mem_cons.mp free
    cases ps with
    | nil => exact parts_of_not_mem first
    | cons q ps =>
      rw [joinWith, parts_append_cons, parts_of_not_mem first, ih rest (by simp)]
      rfl

/-- The pieces of a text are the only texts without separators that give it when they are put
together. -/
theorem parts_eq_iff :
    parts c t = ps ↔ ps ≠ [] ∧ (∀ p ∈ ps, c ∉ p) ∧ joinWith c ps = t := by
  constructor
  · rintro rfl
    exact ⟨parts_ne_nil c t, fun _ => not_mem_of_mem_parts, joinWith_parts c t⟩
  · rintro ⟨nonempty, free, rfl⟩
    exact parts_joinWith free nonempty

/-- What is free of separators belongs to the last piece of the text that it is put behind. -/
theorem parts_append_of_not_mem (free : c ∉ t) (a : Text) :
    ∃ front last, parts c a = front ++ [last] ∧ parts c (a ++ t) = front ++ [last ++ t] := by
  have split := (List.dropLast_append_getLast (parts_ne_nil c a)).symm
  set front := (parts c a).dropLast
  set last := (parts c a).getLast (parts_ne_nil c a)
  obtain ⟨_, pieces, whole⟩ := parts_eq_iff.mp split
  obtain ⟨inFront, inLast⟩ := List.forall_mem_append.mp pieces
  refine ⟨front, last, split, parts_eq_iff.mpr ⟨by simp, ?_, ?_⟩⟩
  · have longer : c ∉ last ++ t := by simp [inLast last (by simp), free]
    exact List.forall_mem_append.mpr ⟨inFront, by simpa using longer⟩
  · rw [← whole]
    by_cases none : front = []
    · rw [none]
      rfl
    · rw [joinWith_append none (by simp), joinWith_append none (by simp)]
      simp [joinWith]

end Text

namespace HostRule

/-! ### Labels -/

/-- The labels of a text are the last ones of another exactly if the other is the text itself or
ends with a point and the text. -/
theorem labels_suffix_iff {d r : Text} :
    labels d <:+ labels r ↔ r = d ∨ ∃ name, r = name ++ char '.' :: d := by
  unfold labels
  constructor
  · rintro ⟨front, whole⟩
    -- Put together, the labels in front are what stands before the point, if there are any.
    have joined := congrArg (Text.joinWith '.') whole
    rw [Text.joinWith_parts] at joined
    by_cases none : front = []
    · rw [none, List.nil_append, Text.joinWith_parts] at joined
      exact .inl joined.symm
    · rw [Text.joinWith_append none (Text.parts_ne_nil '.' d), Text.joinWith_parts] at joined
      exact .inr ⟨_, joined.symm⟩
  · rintro (rfl | ⟨name, rfl⟩)
    · exact List.suffix_rfl
    · rw [Text.parts_append_cons]
      exact List.suffix_append _ _

/-- What a rule is for by characters, it is for by labels. -/
theorem covers_iff {rule : HostRule} {r : Text} : rule.covers r = true ↔ rule.Covers r := by
  cases rule with
  | any => exact iff_of_true rfl trivial
  | suffix d => rw [Pattern.suffix_covers_iff, Covers, labels_suffix_iff]
  | exact host => rw [covers, beq_iff_eq, Covers]

end HostRule

/-! ### Ports -/

namespace Url

variable {u : Url} {host remote shown : Text} {port : Int}

theorem point_not_mem_ofInt (n : Int) : char '.' ∉ Decimal.ofInt n := by
  have digits (n : Nat) : char '.' ∉ Decimal.ofNat n := fun mem =>
    absurd (Decimal.isDigit_of_mem_ofNat mem) (by decide)
  cases n with
  | ofNat n => exact digits n
  | negSucc n => simp [Decimal.ofInt, digits]

theorem portShown_cases {written : Option Text} (shows : portShown written port = .ok shown) :
    shown = Decimal.ofInt port ∨ shown.isDigits = true := by
  unfold portShown Decimal.write at shows
  split at shows
  · simp only [bind, Except.bind] at shows
    split at shows
    · exact .inl (Except.ok.inj shows).symm
    · split at shows
      · rename_i digits
        split at shows
        · cases shows
        · split at shows
          · exact .inr (Except.ok.inj shows ▸ digits)
          · exact .inl (Except.ok.inj shows).symm
      · exact .inl (Except.ok.inj shows).symm
  · cases shows

/-- A port is shown without points, in whatever digits it is written. -/
theorem point_not_mem_portShown {written : Option Text}
    (shows : portShown written port = .ok shown) : char '.' ∉ shown := by
  rcases portShown_cases shows with rfl | digits
  · exact point_not_mem_ofInt port
  · intro mem
    have all := List.all_eq_true.mp (Bool.and_eq_true_iff.mp digits).2
    exact absurd (all '.' mem) (by decide)

/-- The port that is shown behind a host belongs to the last label. -/
theorem labels_remote (hosted : u.host = some host) (given : u.port = some port)
    (shows : u.remote = .ok remote) :
    ∃ front last shown, remote = host ++ char ':' :: shown ∧
      HostRule.labels host = front ++ [last] ∧
      HostRule.labels remote = front ++ [last ++ char ':' :: shown] := by
  rw [Url.remote, hosted, given] at shows
  change (do let shown ← portShown u.portText port; pure (host ++ char ':' :: shown)) = _ at shows
  cases portText : portShown u.portText port with
  | error fault =>
    rw [portText] at shows
    cases shows
  | ok shown =>
    rw [portText] at shows
    obtain rfl := Except.ok.inj shows
    have free : char '.' ∉ char ':' :: shown := by simp [point_not_mem_portShown portText]
    obtain ⟨front, last, ofHost, ofBoth⟩ := Text.parts_append_of_not_mem free host
    exact ⟨front, last, shown, rfl, ofHost, ofBoth⟩

end Url

namespace HostRule

/-- **Domains go by labels.** The labels of a text are the only texts without points that give it
with points between them. A rule for a domain is for exactly the hosts whose last labels are those
of the domain; so what is below a domain that is below another is below that one too. A port that is
shown behind a host belongs to the last label. -/
theorem suffix_by_labels :
    (∀ t ls, labels t = ls ↔
      ls ≠ [] ∧ (∀ l ∈ ls, char '.' ∉ l) ∧ Text.joinWith '.' ls = t) ∧
    (∀ d r, (suffix d).covers r = true ↔ labels d <:+ labels r) ∧
    (∀ d e r, (suffix d).covers e = true → (suffix e).covers r = true →
      (suffix d).covers r = true) ∧
    (∀ (u : Url) host port remote, u.host = some host → u.port = some port →
      u.remote = .ok remote → ∃ front last shown, remote = host ++ char ':' :: shown ∧
        labels host = front ++ [last] ∧ labels remote = front ++ [last ++ char ':' :: shown]) := by
  have byLabels (d r : Text) : (suffix d).covers r = true ↔ labels d <:+ labels r := covers_iff
  refine ⟨fun t ls => Text.parts_eq_iff, byLabels, fun d e r above below => ?_,
    fun u host port remote => Url.labels_remote⟩
  rw [byLabels] at above below ⊢
  exact above.trans below

/-- Empty labels and ports are labels as well. A host that ends in the characters of a domain, but
not in its labels, is not below it. -/
theorem suffix_by_labels_of_points :
    let d := "example.com:8080".toText
    let e := ".example.com:8080".toText
    let r := "a..example.com:8080".toText
    (suffix d).covers e = true ∧ (suffix e).covers r = true ∧ (suffix d).covers r = true ∧
      (suffix "example.com".toText).covers "badexample.com".toText ≠ true ∧
      (suffix "example.com".toText).covers "a.example.com:8080".toText ≠ true := by
  intro d e r
  obtain ⟨_, byLabels, trans, _⟩ := suffix_by_labels
  have above : (suffix d).covers e = true := (byLabels d e).mpr ⟨[[]], rfl⟩
  have below : (suffix e).covers r = true := (byLabels e r).mpr ⟨[[char 'a']], rfl⟩
  refine ⟨above, below, trans d e r above below, ?_, ?_⟩
  · rw [Ne, byLabels]
    decide
  · rw [Ne, byLabels]
    decide

end HostRule

end ProxySelection
