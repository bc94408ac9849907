import ProxySelection.Text.Utf8

/-!
Texts for the operating system: names of files, and variables with their values.

The system keeps octets, and those that are not UTF-8 stand in a text as surrogates from U+DC80 to
U+DCFF. A text with other surrogates, or with the null character, is not taken.
-/

namespace ProxySelection

/-- Whether a code point is a character or stands for an octet. -/
def CodePoint.isNative : CodePoint → Bool
  | char _ => true
  | surrogate index => 0x480 ≤ index.val && index.val < 0x500

namespace Text

/-- Why a text is not taken by the operating system. -/
inductive NativeFault where
  | notEncoded (fault : Utf8.Fault)
  | nullCharacter
  deriving DecidableEq

/-- The wording of a fault. -/
def NativeFault.message : NativeFault → Text
  | .notEncoded fault => fault.message
  | .nullCharacter => "embedded null byte".toText

/-- What keeps a text from being encoded. -/
def encodingFault? (t : Text) : Option NativeFault :=
  if t.all CodePoint.isNative then none
  else some (.notEncoded (Utf8.faultOf CodePoint.isNative t))

/-- What is wrong with a text that holds the null character. -/
def nullFault? (t : Text) : Option NativeFault :=
  if t.contains '\x00' then some .nullCharacter else none

/-- What is wrong with a text for the operating system. -/
def nativeFault? (t : Text) : Option NativeFault := encodingFault? t <|> nullFault? t

end Text

end ProxySelection
