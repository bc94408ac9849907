import ProxySelection.Number.Integer

/-!
UTF-8: the octets of a text, and the text of a sequence of octets.

Every code point has octets (`octetsOf`), but those of a surrogate are not UTF-8: `encode` fails
for a text with a surrogate and tells where it is. `decode` takes the shortest forms only,
nothing above U+10FFFF and no surrogates, and refuses all else; `decodeWith` may let surrogates
pass.
-/

namespace ProxySelection

namespace Utf8

/-- The octets of one code point. -/
def octetsOf (c : CodePoint) : List UInt8 :=
  let n := c.toNat
  if n < 0x80 then [n.toUInt8]
  else if n < 0x800 then [(0xC0 + n / 0x40).toUInt8, (0x80 + n % 0x40).toUInt8]
  else if n < 0x10000 then
    [(0xE0 + n / 0x1000).toUInt8, (0x80 + n / 0x40 % 0x40).toUInt8, (0x80 + n % 0x40).toUInt8]
  else
    [(0xF0 + n / 0x40000).toUInt8, (0x80 + n / 0x1000 % 0x40).toUInt8,
      (0x80 + n / 0x40 % 0x40).toUInt8, (0x80 + n % 0x40).toUInt8]

/-! ### Encoding -/

/-- Whether there are only characters in a text, and no surrogate. -/
def isEncodable (t : Text) : Bool := t.all CodePoint.isChar

@[simp] theorem isEncodable_nil : isEncodable [] = true := rfl

@[simp] theorem isEncodable_cons (c : CodePoint) (t : Text) :
    isEncodable (c :: t) = (c.isChar && isEncodable t) := rfl

@[simp] theorem isEncodable_append (a b : Text) :
    isEncodable (a ++ b) = (isEncodable a && isEncodable b) := List.all_append

/-- A string holds characters only. -/
@[simp] theorem isEncodable_toText (s : String) : isEncodable s.toText = true := by
  simp [isEncodable, String.toText, CodePoint.isChar]

/-- Why a text is not encoded: the surrogates that stand together from the first one on that is
not, and how many code points are before them. -/
structure Fault where
  place : Nat
  surrogates : Text
  deriving DecidableEq

/-- The wording of a fault. -/
def Fault.message (fault : Fault) : Text :=
  "'utf-8' codec can't encode character".toText ++
    (match fault.surrogates with
      | [c] =>
        " '".toText ++ Text.numericEscape c.toNat ++ "' in position ".toText ++
          Decimal.ofNat fault.place
      | cs =>
        "s in position ".toText ++ Decimal.ofNat fault.place ++ char '-' ::
          Decimal.ofNat (fault.place + cs.length - 1)) ++
    ": surrogates not allowed".toText

/-- What is wrong with a text in which some code points are surrogates and do not pass. -/
def faultOf (passes : CodePoint → Bool) (t : Text) : Fault where
  place := (t.takeWhile passes).length
  surrogates := (t.dropWhile passes).takeWhile CodePoint.isSurrogate

/-- The octets of a text. -/
def encode (t : Text) : Except Fault (List UInt8) :=
  if isEncodable t then .ok (t.flatMap octetsOf) else .error (faultOf CodePoint.isChar t)

/-- A text for a reader of UTF-8 that takes every octet of a surrogate for one that it cannot
read. -/
def lossy (t : Text) : Text :=
  t.flatMap fun c => if c.isChar then [c] else List.replicate 3 (char '\uFFFD')

/-! ### Decoding -/

/-- Whether an octet continues a code point. -/
def isTail (b : UInt8) : Bool := 0x80 ≤ b.toNat && b.toNat ≤ 0xBF

/-- The code point of a number that lies between `least` and U+10FFFF and is no surrogate, unless
these are let pass. -/
def pointFrom (surrogates : Bool) (least n : Nat) : Option CodePoint :=
  if least ≤ n ∧ n ≤ 0x10FFFF ∧ (surrogates = true ∨ ¬ (0xD800 ≤ n ∧ n ≤ 0xDFFF)) then
    some (CodePoint.ofNat n)
  else none

/-- The text of a sequence of octets, if it is one. -/
def decodeWith (surrogates : Bool) : List UInt8 → Option Text
  | [] => some []
  | a :: r₁ =>
    if a.toNat < 0x80 then (decodeWith surrogates r₁).map (CodePoint.ofNat a.toNat :: ·)
    else if a.toNat < 0xC0 then none
    else
      match r₁ with
      | [] => none
      | b :: r₂ =>
        if !isTail b then none
        else if a.toNat < 0xE0 then do
          let c ← pointFrom surrogates 0x80 ((a.toNat - 0xC0) * 0x40 + (b.toNat - 0x80))
          (decodeWith surrogates r₂).map (c :: ·)
        else
          match r₂ with
          | [] => none
          | c :: r₃ =>
            if !isTail c then none
            else if a.toNat < 0xF0 then do
              let x ← pointFrom surrogates 0x800
                ((a.toNat - 0xE0) * 0x1000 + (b.toNat - 0x80) * 0x40 + (c.toNat - 0x80))
              (decodeWith surrogates r₃).map (x :: ·)
            else
              match r₃ with
              | [] => none
              | d :: r₄ =>
                if !isTail d then none
                else do
                  let x ← pointFrom surrogates 0x10000
                    ((a.toNat - 0xF0) * 0x40000 + (b.toNat - 0x80) * 0x1000 +
                      (c.toNat - 0x80) * 0x40 + (d.toNat - 0x80))
                  (decodeWith surrogates r₄).map (x :: ·)

/-- The text of a sequence of octets in UTF-8, if it is one. -/
def decode (octets : List UInt8) : Option Text := decodeWith false octets

end Utf8

end ProxySelection
