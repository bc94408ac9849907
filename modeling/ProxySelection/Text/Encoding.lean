import ProxySelection.Text.Utf8

/-!
Texts as octets: UTF-8, and UTF-16 and UTF-32 with either octet of a unit first.

`Encoding.read` takes the encoding from the mark in front of a text, which does not belong to it,
and tells the one of a text without mark by the places of its zero octets: a text that starts with
two ASCII characters, as every JSON text of more than one character does, has them. Surrogates
that stand alone are kept. `Text.ofPieces` takes code units together.
-/

namespace ProxySelection

/-! ### Code units -/

namespace Text

/-- A piece of a text: a unit of UTF-16, or a code point by itself. -/
inductive Piece where
  | unit (n : Nat)
  | whole (c : CodePoint)

/-- The code points of pieces: a unit that is a high surrogate and the low one after it are one
character together, and every other piece stands for itself. -/
def ofPieces : List Piece → Text
  | .unit high :: .unit low :: ps =>
    if 0xD800 ≤ high ∧ high ≤ 0xDBFF ∧ 0xDC00 ≤ low ∧ low ≤ 0xDFFF then
      CodePoint.ofNat (0x10000 + (high - 0xD800) * 0x400 + (low - 0xDC00)) :: ofPieces ps
    else CodePoint.ofNat high :: ofPieces (.unit low :: ps)
  | .unit n :: ps => CodePoint.ofNat n :: ofPieces ps
  | .whole c :: ps => c :: ofPieces ps
  | [] => []

end Text

/-! ### Encodings -/

/-- Which octet of a unit comes first, the one of the highest or of the lowest value. -/
inductive ByteOrder where
  | big
  | little
  deriving DecidableEq

/-- The number that octets denote. -/
def ByteOrder.value (order : ByteOrder) (octets : List UInt8) : Nat :=
  match order with
  | .big => octets.foldl (fun n b => 256 * n + b.toNat) 0
  | .little => octets.foldr (fun b n => b.toNat + 256 * n) 0

/-- How a text is written as octets. -/
inductive Encoding where
  | utf8
  | utf16 (order : ByteOrder)
  | utf32 (order : ByteOrder)
  deriving DecidableEq

namespace Encoding

/-- The encoding that fits the zeros among the octets of a text: true stands for a zero. -/
def ofZeros : List Bool → Encoding
  | true :: true :: _ :: _ :: _ => .utf32 .big
  | true :: false :: _ :: _ :: _ => .utf16 .big
  | false :: true :: true :: true :: _ => .utf32 .little
  | false :: true :: _ :: _ :: _ => .utf16 .little
  | [true, _] => .utf16 .big
  | [false, true] => .utf16 .little
  | _ => .utf8

/-- The encoding of a text, from its octets. -/
def detect (octets : List UInt8) : Encoding := ofZeros (octets.map (· == 0))

/-- The units of two octets each. -/
def units16 (order : ByteOrder) : List UInt8 → Option (List Nat)
  | [] => some []
  | a :: b :: rest => (units16 order rest).map (order.value [a, b] :: ·)
  | [_] => none

/-- The units of four octets each, none above U+10FFFF. -/
def units32 (order : ByteOrder) : List UInt8 → Option (List Nat)
  | [] => some []
  | a :: b :: c :: d :: rest =>
    let n := order.value [a, b, c, d]
    if n ≤ 0x10FFFF then (units32 order rest).map (n :: ·) else none
  | _ => none

/-- The encoding of a text with a mark in front, and the octets behind the mark. -/
def cutMark : List UInt8 → Option (Encoding × List UInt8)
  | 0x00 :: 0x00 :: 0xFE :: 0xFF :: rest => some (.utf32 .big, rest)
  | 0xFF :: 0xFE :: 0x00 :: 0x00 :: rest => some (.utf32 .little, rest)
  | 0xFE :: 0xFF :: rest => some (.utf16 .big, rest)
  | 0xFF :: 0xFE :: rest => some (.utf16 .little, rest)
  | 0xEF :: 0xBB :: 0xBF :: rest => some (.utf8, rest)
  | _ => none

/-- The text of octets in an encoding, if they are one. -/
def decode (octets : List UInt8) : Encoding → Option Text
  | .utf8 => Utf8.decodeWith true octets
  | .utf16 order => (units16 order octets).map fun units => Text.ofPieces (units.map .unit)
  | .utf32 order => (units32 order octets).map (List.map CodePoint.ofNat)

/-- The text of octets in the encoding that they show, if they are one. -/
def read (octets : List UInt8) : Option Text :=
  match cutMark octets with
  | some (encoding, rest) => encoding.decode rest
  | none => (detect octets).decode octets

end Encoding

end ProxySelection
