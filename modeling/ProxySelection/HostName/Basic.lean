import ProxySelection.HostName.Composition
import ProxySelection.HostName.Direction
import ProxySelection.HostName.Joiner
import ProxySelection.HostName.Letters
import ProxySelection.HostName.Punycode

/-!
Internationalized host names: labels between points, each of which can be written in ASCII.

A label is composed, has letters, digits, marks and hyphens at their places, and goes in one
direction. It is written in ASCII as `xn--` and its Punycode, unless it is in ASCII already; a
label that is written so must stand for a label itself. A label and a whole name have a limited
length.
-/

namespace ProxySelection

namespace HostName

/-! ### Labels -/

/-- Whether the hyphens of a label are at places for them: not at an end, and not at the third
and fourth place together. -/
def areHyphensPlaced (t : Text) : Bool :=
  t.head? ≠ some (char '-') && t.getLast? ≠ some (char '-') &&
    (t.drop 2).take 2 ≠ [char '-', char '-']

/-- Whether a text in small letters is a label. -/
def isLabel (t : Text) : Bool :=
  !t.isEmpty && isComposed t && areHyphensPlaced t && !t.head?.any isMark && t.all isLetter &&
    allFit [] t && areInOrder (t.map direction)

/-- What a label starts with that is written in ASCII. -/
def asciiMark : Text := "xn--".toText

/-- A label in ASCII, if it is one. -/
def asciiLabel? (t : Text) : Option Text :=
  if t.all Punycode.isBasic then
    match asciiMark.isPrefixOf? t with
    | none => if isLabel t then some t else none
    | some code =>
      if code.isEmpty || code.getLast? = some (char '-') then none
      else do
        let label ← Punycode.decode code
        if lowerCase label = label && isLabel label then some t else none
  else if isLabel t then some (asciiMark ++ Punycode.encode t)
  else none

/-- How many characters a label in ASCII may have. -/
def labelLimit : Nat := 63

/-! ### Names -/

/-- How many characters a name in ASCII may have, a point at its end apart. -/
def nameLimit : Nat := 253

/-- A point between labels, in any of its forms. -/
def isPoint (c : CodePoint) : Bool :=
  c = '.' || c = '\u3002' || c = '\uFF0E' || c = '\uFF61'

/-- The labels of a name in small letters; a point at the end is followed by none. -/
def labels (t : Text) : List Text :=
  let ls := Text.parts '.' (t.map fun c => if isPoint c then '.' else c)
  if ls.getLast? = some [] then ls.dropLast else ls

/-- Whether labels in ASCII are short enough, each by itself and all of them together. -/
def areShort (ls : List Text) : Bool :=
  ls.all (·.length ≤ labelLimit) && (Text.joinWith '.' ls).length ≤ nameLimit

/-- Whether a text is a name that can be written in ASCII. Written so it never gets shorter, a
point at its end apart. -/
def isName (t : Text) : Bool :=
  t.length ≤ nameLimit + 1 && ((labels (lowerCase t)).mapM asciiLabel?).any areShort

end HostName

end ProxySelection
