import Mathlib.Tactic.Common
import ProxySelection.Text.Utf8

/-!
UTF-8 read back.

Decoding gives a text exactly if the octets are those in which the text is encoded, so a sequence
of octets either is the encoding of one text or is refused: `decode_eq_some_iff`. What joins the
two is `Forms`, the shortest form of a code point in one to four octets. A decoder that lets
surrogates pass gives each text for its octets (`decodeWith_eq_some_iff`); one that does not gives
only those that can be encoded.
-/

namespace ProxySelection

namespace CodePoint

theorem toNat_lt (c : CodePoint) : c.toNat < 0x110000 := by
  cases c with
  | char c =>
    have := toNat_char_bounds c
    rw [toNat_char]
    omega
  | surrogate index =>
    rw [toNat]
    omega

theorem toNat_ofNat {n : Nat} (range : n < 0x110000) : (ofNat n).toNat = n := by
  unfold ofNat
  split
  · rw [toNat]
    simp only
    omega
  · have valid : n.isValidChar := by
      unfold Nat.isValidChar
      omega
    rw [toNat_char, Char.ofNat, dif_pos valid]
    rfl

/-- The characters are the code points outside the range of the surrogates. -/
theorem isChar_iff {c : CodePoint} :
    c.isChar = true ↔ ¬ (0xD800 ≤ c.toNat ∧ c.toNat ≤ 0xDFFF) := by
  cases c with
  | char c =>
    have := toNat_char_bounds c
    rw [toNat_char]
    exact iff_of_true rfl (by omega)
  | surrogate index =>
    rw [toNat]
    exact iff_of_false Bool.false_ne_true (by omega)

end CodePoint

namespace Utf8

variable {surrogates : Bool}

/-- What a number denotes is the code point of that number, if it is let pass. -/
theorem pointFrom_eq_some_iff {least n : Nat} {c : CodePoint} :
    pointFrom surrogates least n = some c ↔
      least ≤ n ∧ c.toNat = n ∧ (surrogates = true ∨ c.isChar = true) := by
  rw [CodePoint.isChar_iff]
  unfold pointFrom
  constructor
  · intro h
    split at h
    · rename_i range
      cases h
      rw [CodePoint.toNat_ofNat (by omega)]
      exact ⟨range.1, rfl, range.2.2⟩
    · cases h
  · rintro ⟨above, rfl, passes⟩
    have bound := c.toNat_lt
    rw [if_pos ⟨above, by omega, passes⟩, CodePoint.ofNat_toNat]

theorem isTail_iff {b : UInt8} : isTail b = true ↔ 0x80 ≤ b.toNat ∧ b.toNat ≤ 0xBF := by
  simp [isTail]

theorem toUInt8_eq_iff {n : Nat} {b : UInt8} (small : n < 256) : n.toUInt8 = b ↔ b.toNat = n := by
  rw [← UInt8.toNat_inj, UInt8.toNat_ofNat_of_lt' small, eq_comm]

/-! ### The octets of a code point -/

/-- The octets are the shortest form of the code point, of one octet up to four. -/
inductive Forms (c : CodePoint) : List UInt8 → Prop where
  | one {a : UInt8} : a.toNat < 0x80 → c.toNat = a.toNat → Forms c [a]
  | two {a b : UInt8} : 0xC0 ≤ a.toNat → a.toNat < 0xE0 → isTail b = true → 0x80 ≤ c.toNat →
      c.toNat = (a.toNat - 0xC0) * 0x40 + (b.toNat - 0x80) → Forms c [a, b]
  | three {a b d : UInt8} : 0xE0 ≤ a.toNat → a.toNat < 0xF0 → isTail b = true → isTail d = true →
      0x800 ≤ c.toNat →
      c.toNat = (a.toNat - 0xE0) * 0x1000 + (b.toNat - 0x80) * 0x40 + (d.toNat - 0x80) →
      Forms c [a, b, d]
  | four {a b d e : UInt8} : 0xF0 ≤ a.toNat → isTail b = true → isTail d = true → isTail e = true →
      0x10000 ≤ c.toNat →
      c.toNat = (a.toNat - 0xF0) * 0x40000 + (b.toNat - 0x80) * 0x1000 + (d.toNat - 0x80) * 0x40 +
        (e.toNat - 0x80) → Forms c [a, b, d, e]

variable {c : CodePoint} {bs rest : List UInt8}

theorem Forms.octetsOf_eq (h : Forms c bs) : octetsOf c = bs := by
  have bound := c.toNat_lt
  unfold octetsOf
  cases h with
  | @one a small number =>
    simp only [number, if_pos small, List.cons.injEq, and_true]
    rw [toUInt8_eq_iff (by omega)]
  | @two a b lead lead' tail least number =>
    rw [isTail_iff] at tail
    have notOne : ¬ c.toNat < 0x80 := by omega
    have two : c.toNat < 0x800 := by omega
    simp only [if_neg notOne, if_pos two, List.cons.injEq, and_true]
    rw [toUInt8_eq_iff (by omega), toUInt8_eq_iff (by omega)]
    omega
  | @three a b d lead lead' tail tail' least number =>
    rw [isTail_iff] at tail tail'
    have notOne : ¬ c.toNat < 0x80 := by omega
    have notTwo : ¬ c.toNat < 0x800 := by omega
    have three : c.toNat < 0x10000 := by omega
    simp only [if_neg notOne, if_neg notTwo, if_pos three, List.cons.injEq, and_true]
    rw [toUInt8_eq_iff (by omega), toUInt8_eq_iff (by omega), toUInt8_eq_iff (by omega)]
    omega
  | @four a b d e lead tail tail' tail'' least number =>
    rw [isTail_iff] at tail tail' tail''
    have notOne : ¬ c.toNat < 0x80 := by omega
    have notTwo : ¬ c.toNat < 0x800 := by omega
    have notThree : ¬ c.toNat < 0x10000 := by omega
    simp only [if_neg notOne, if_neg notTwo, if_neg notThree, List.cons.injEq, and_true]
    rw [toUInt8_eq_iff (by omega), toUInt8_eq_iff (by omega), toUInt8_eq_iff (by omega),
      toUInt8_eq_iff (by omega)]
    omega

theorem Forms.decodeWith_append (h : Forms c bs) (passes : surrogates = true ∨ c.isChar = true) :
    decodeWith surrogates (bs ++ rest) = (decodeWith surrogates rest).map (c :: ·) := by
  cases h with
  | @one a small number =>
    have same : CodePoint.ofNat a.toNat = c := number ▸ CodePoint.ofNat_toNat c
    rw [List.singleton_append, decodeWith.eq_def]
    simp only [if_pos small, same]
  | @two a b lead two tail least number =>
    have found := pointFrom_eq_some_iff.mpr ⟨number ▸ least, number, passes⟩
    have notOne : ¬ a.toNat < 0x80 := by omega
    have leads : ¬ a.toNat < 0xC0 := by omega
    simp only [List.cons_append, List.nil_append]
    rw [decodeWith.eq_def]
    simp only [if_neg notOne, if_neg leads, tail, if_pos two, found]
    rfl
  | @three a b d lead three tail tail' least number =>
    have found := pointFrom_eq_some_iff.mpr ⟨number ▸ least, number, passes⟩
    have notOne : ¬ a.toNat < 0x80 := by omega
    have leads : ¬ a.toNat < 0xC0 := by omega
    have notTwo : ¬ a.toNat < 0xE0 := by omega
    simp only [List.cons_append, List.nil_append]
    rw [decodeWith.eq_def]
    simp only [if_neg notOne, if_neg leads, tail, tail', if_neg notTwo, if_pos three, found]
    rfl
  | @four a b d e lead tail tail' tail'' least number =>
    have found := pointFrom_eq_some_iff.mpr ⟨number ▸ least, number, passes⟩
    have notOne : ¬ a.toNat < 0x80 := by omega
    have leads : ¬ a.toNat < 0xC0 := by omega
    have notTwo : ¬ a.toNat < 0xE0 := by omega
    have notThree : ¬ a.toNat < 0xF0 := by omega
    simp only [List.cons_append, List.nil_append]
    rw [decodeWith.eq_def]
    simp only [if_neg notOne, if_neg leads, tail, tail', tail'', if_neg notTwo, if_neg notThree,
      found]
    rfl

theorem forms_octetsOf (c : CodePoint) : Forms c (octetsOf c) := by
  have bound := c.toNat_lt
  have octet : ∀ n < 256, n.toUInt8.toNat = n := fun _ => UInt8.toNat_ofNat_of_lt'
  unfold octetsOf
  by_cases one : c.toNat < 0x80
  · simp only [if_pos one]
    exact .one (by rwa [octet _ (by omega)]) (octet _ (by omega)).symm
  · by_cases two : c.toNat < 0x800
    · simp only [if_neg one, if_pos two]
      have a := octet (0xC0 + c.toNat / 0x40) (by omega)
      have b := octet (0x80 + c.toNat % 0x40) (by omega)
      exact .two (by omega) (by omega) (isTail_iff.mpr (by omega)) (by omega) (by omega)
    · by_cases three : c.toNat < 0x10000
      · simp only [if_neg one, if_neg two, if_pos three]
        have a := octet (0xE0 + c.toNat / 0x1000) (by omega)
        have b := octet (0x80 + c.toNat / 0x40 % 0x40) (by omega)
        have d := octet (0x80 + c.toNat % 0x40) (by omega)
        exact .three (by omega) (by omega) (isTail_iff.mpr (by omega)) (isTail_iff.mpr (by omega))
          (by omega) (by omega)
      · simp only [if_neg one, if_neg two, if_neg three]
        have a := octet (0xF0 + c.toNat / 0x40000) (by omega)
        have b := octet (0x80 + c.toNat / 0x1000 % 0x40) (by omega)
        have d := octet (0x80 + c.toNat / 0x40 % 0x40) (by omega)
        have e := octet (0x80 + c.toNat % 0x40) (by omega)
        exact .four (by omega) (isTail_iff.mpr (by omega)) (isTail_iff.mpr (by omega))
          (isTail_iff.mpr (by omega)) (by omega) (by omega)

/-! ### Texts -/

theorem decodeWith_flatMap {t : Text} (passes : surrogates = true ∨ isEncodable t = true) :
    decodeWith surrogates (t.flatMap octetsOf) = some t := by
  induction t with
  | nil => rfl
  | cons c t ih =>
    rw [isEncodable_cons, Bool.and_eq_true] at passes
    have here : surrogates = true ∨ c.isChar = true := passes.imp_right And.left
    have later : surrogates = true ∨ isEncodable t = true := passes.imp_right And.right
    rw [List.flatMap_cons, (forms_octetsOf c).decodeWith_append here, ih later]
    rfl

/-- The octets are those of the text, and what is in it is let pass. -/
def IsRead (surrogates : Bool) (bs : List UInt8) (t : Text) : Prop :=
  bs = t.flatMap octetsOf ∧ (surrogates = true ∨ isEncodable t = true)

theorem IsRead.cons {t : Text} (h : Forms c bs) (passes : surrogates = true ∨ c.isChar = true)
    (later : IsRead surrogates rest t) : IsRead surrogates (bs ++ rest) (c :: t) := by
  obtain ⟨rfl, others⟩ := later
  refine ⟨by rw [List.flatMap_cons, h.octetsOf_eq], ?_⟩
  rw [isEncodable_cons, Bool.and_eq_true]
  exact or_and_left.mpr ⟨passes, others⟩

theorem isRead_of_decodeWith {t : Text} (h : decodeWith surrogates bs = some t) :
    IsRead surrogates bs t := by
  -- The cases are those of the decoder: four in which a code point is read, and the refusals.
  fun_induction decodeWith surrogates bs generalizing t with
  | case1 =>
    cases h
    exact ⟨rfl, .inr rfl⟩
  | case2 a r small ih =>
    obtain ⟨t', rest, rfl⟩ := Option.map_eq_some_iff.mp h
    have number := CodePoint.toNat_ofNat (n := a.toNat) (by omega)
    have form : Forms (CodePoint.ofNat a.toNat) [a] := .one small number
    exact .cons form (.inr (CodePoint.isChar_iff.mpr (by omega))) (ih rest)
  | case6 a notOne lead b r tail two ih =>
    obtain ⟨c, found, later⟩ := Option.bind_eq_some_iff.mp h
    obtain ⟨t', rest, rfl⟩ := Option.map_eq_some_iff.mp later
    obtain ⟨least, number, passes⟩ := pointFrom_eq_some_iff.mp found
    have form : Forms c [a, b] :=
      .two (by omega) two (by simpa using tail) (number ▸ least) number
    exact .cons form passes (ih rest)
  | case9 a notOne lead b tail notTwo d r tail' three ih =>
    obtain ⟨c, found, later⟩ := Option.bind_eq_some_iff.mp h
    obtain ⟨t', rest, rfl⟩ := Option.map_eq_some_iff.mp later
    obtain ⟨least, number, passes⟩ := pointFrom_eq_some_iff.mp found
    have form : Forms c [a, b, d] :=
      .three (by omega) three (by simpa using tail) (by simpa using tail') (number ▸ least) number
    exact .cons form passes (ih rest)
  | case12 a notOne lead b tail notTwo d tail' notThree e r tail'' ih =>
    obtain ⟨c, found, later⟩ := Option.bind_eq_some_iff.mp h
    obtain ⟨t', rest, rfl⟩ := Option.map_eq_some_iff.mp later
    obtain ⟨least, number, passes⟩ := pointFrom_eq_some_iff.mp found
    have form : Forms c [a, b, d, e] :=
      .four (by omega) (by simpa using tail) (by simpa using tail') (by simpa using tail'')
        (number ▸ least) number
    exact .cons form passes (ih rest)
  | _ => cases h

/-- Octets are read as a text exactly if they are those of its code points, and these are let
pass. -/
theorem decodeWith_eq_some_iff {t : Text} :
    decodeWith surrogates bs = some t ↔ IsRead surrogates bs t :=
  ⟨isRead_of_decodeWith, fun ⟨same, passes⟩ => same ▸ decodeWith_flatMap passes⟩

theorem encode_eq_ok_iff {t : Text} : encode t = .ok bs ↔ IsRead false bs t := by
  unfold encode IsRead
  split
  · rename_i encodable
    simp [encodable, eq_comm]
  · rename_i other
    simp [other]

/-- **Decoding inverts encoding.** Octets are decoded as a text exactly if they are the text's. -/
theorem decode_eq_some_iff {t : Text} : decode bs = some t ↔ encode t = .ok bs := by
  rw [encode_eq_ok_iff, decode, decodeWith_eq_some_iff]

/-- No octets are those of two texts. -/
theorem encode_inj {t t' : Text} (encoded : encode t = .ok bs) (encoded' : encode t' = .ok bs) :
    t = t' := by
  have decoded := decode_eq_some_iff.mpr encoded
  rw [decode_eq_some_iff.mpr encoded'] at decoded
  exact (Option.some.inj decoded).symm

/-- Octets are refused exactly if they are no text's. -/
theorem decode_eq_none_iff : decode bs = none ↔ ∀ t, encode t ≠ .ok bs := by
  rw [Option.eq_none_iff_forall_ne_some]
  exact forall_congr' fun t => not_congr decode_eq_some_iff

end Utf8

end ProxySelection
