import ProxySelection.HostName.Marks

/-!
Characters that may stand in a label only among certain others: joiners, which change how the
letters around them are joined, points and signs that belong to one script, and the two kinds
of Arabic digits. The tables follow Unicode 14 as far as characters of host names go.
-/

namespace ProxySelection

namespace HostName

/-! ### Letters that are joined -/

/-- Letters that are joined to the one after them; marks among them are not told apart. -/
def joinedForward : CodeRuns := [
  (0x620, 0x620), (0x626, 0x626), (0x628, 0x628), (0x62A, 0x62E), (0x633, 0x647), (0x649, 0x64A),
  (0x66E, 0x66F), (0x679, 0x687), (0x69A, 0x6BF), (0x6C1, 0x6C2), (0x6CC, 0x6CC), (0x6CE, 0x6CE),
  (0x6D0, 0x6D1), (0x6FA, 0x6FC), (0x6FF, 0x6FF), (0x712, 0x714), (0x71A, 0x71D), (0x71F, 0x727),
  (0x729, 0x729), (0x72B, 0x72B), (0x72D, 0x72E), (0x74E, 0x758), (0x75C, 0x76A), (0x76D, 0x770),
  (0x772, 0x772), (0x775, 0x777), (0x77A, 0x77F), (0x7CA, 0x7EA), (0x841, 0x845), (0x848, 0x848),
  (0x84A, 0x853), (0x855, 0x855), (0x860, 0x860), (0x862, 0x865), (0x868, 0x868), (0x886, 0x886),
  (0x889, 0x88D), (0x8A0, 0x8A9), (0x8AF, 0x8B0), (0x8B3, 0x8B8), (0x8BA, 0x8C8),
  (0x1820, 0x1878), (0x1887, 0x18AA), (0xA840, 0xA872), (0x10AC0, 0x10AC4), (0x10ACD, 0x10ACD),
  (0x10AD3, 0x10ADC), (0x10ADE, 0x10AE0), (0x10B80, 0x10B80), (0x10B82, 0x10B82),
  (0x10B86, 0x10B88), (0x10B8A, 0x10B8B), (0x10B8D, 0x10B8D), (0x10B90, 0x10B90),
  (0x10D00, 0x10D21), (0x10D23, 0x10D23), (0x10F30, 0x10F32), (0x10F34, 0x10F44),
  (0x10F70, 0x10F73), (0x10F76, 0x10FB0), (0x10FB2, 0x10FB3), (0x10FB8, 0x10FB8),
  (0x10FBB, 0x10FBC), (0x10FBE, 0x10FBF), (0x10FC1, 0x10FC1), (0x10FC4, 0x10FC4),
  (0x1E922, 0x1E943)]

/-- Letters that are joined to the one before them; marks among them are not told apart. -/
def joinedBackward : CodeRuns := [
  (0x620, 0x620), (0x622, 0x64A), (0x66E, 0x673), (0x679, 0x6D5), (0x6EE, 0x6EF), (0x6FA, 0x6FC),
  (0x6FF, 0x77F), (0x7CA, 0x7EA), (0x840, 0x860), (0x862, 0x865), (0x867, 0x882), (0x886, 0x886),
  (0x889, 0x8AC), (0x8AE, 0x8C8), (0x1820, 0x1878), (0x1887, 0x18AA), (0xA840, 0xA871),
  (0x10AC0, 0x10AC5), (0x10AC7, 0x10ACA), (0x10ACE, 0x10AD6), (0x10AD8, 0x10AE1),
  (0x10AE4, 0x10AE4), (0x10B80, 0x10B91), (0x10D01, 0x10D23), (0x10F30, 0x10F44),
  (0x10F70, 0x10FB0), (0x10FB2, 0x10FB6), (0x10FB8, 0x10FBF), (0x10FC1, 0x10FC4),
  (0x1E922, 0x1E943)]

/-- Characters besides nonspacing marks that do not keep the letters around them from being
joined. -/
def transparent : CodeRuns := [
  (0xCBF, 0xCBF), (0xCC6, 0xCC6), (0x1171E, 0x1171E), (0x11A07, 0x11A08), (0x11C3F, 0x11C3F),
  (0x1E94B, 0x1E94B)]

/-- Whether a character does not keep the letters around it from being joined. -/
def isTransparent (c : CodePoint) : Bool := nonspacingMarks.holds c || transparent.holds c

/-- Whether the first character of a text that is not transparent is one of the runs. -/
def leadsTo (runs : CodeRuns) (t : Text) : Bool :=
  (t.find? fun c => !isTransparent c).any runs.holds

/-! ### Scripts -/

/-- Greek letters. -/
def greek : CodeRuns := [
  (0x371, 0x3E1), (0x3F3, 0x3FC), (0x1D26, 0x1D2A), (0x1F00, 0x1FF6), (0xAB65, 0xAB65)]

/-- Hebrew letters. -/
def hebrew : CodeRuns := [
  (0x591, 0x5F4), (0xFB1E, 0xFB1E)]

/-- Kana and Chinese characters. -/
def japanese : CodeRuns := [
  (0x3005, 0x3005), (0x3007, 0x3007), (0x3041, 0x3096), (0x309D, 0x30FA), (0x30FD, 0x30FE),
  (0x31F0, 0x9FFF), (0xFA0E, 0xFA29), (0x16FE3, 0x16FE3), (0x16FF0, 0x16FF1), (0x1AFF0, 0x1B167),
  (0x20000, 0x3134A)]

/-- Arabic digits. -/
def westernArabicDigits : CodeRuns := [(0x660, 0x669)]

/-- Arabic digits as they are written in the east. -/
def easternArabicDigits : CodeRuns := [(0x6F0, 0x6F9)]

/-! ### Rules -/

/-- Whether a character may stand between what is before it, in reverse, and what is after
it. -/
def fitsBetween (before : Text) (c : CodePoint) (after : Text) : Bool :=
  let followsVirama := before.head?.any (combiningClass · = viramaClass)
  match c with
  | char '\u200C' => followsVirama || leadsTo joinedForward before && leadsTo joinedBackward after
  | char '\u200D' => followsVirama
  | char '\u00B7' => before.head? = some (char 'l') && after.head? = some (char 'l')
  | char '\u0375' => after.head?.any greek.holds
  | char '\u05F3' | char '\u05F4' => before.head?.any hebrew.holds
  | char '\u30FB' => (before ++ after).any fun c => c ≠ '\u30FB' && japanese.holds c
  | c =>
    let others := before ++ after
    !(westernArabicDigits.holds c && others.any easternArabicDigits.holds) &&
      !(easternArabicDigits.holds c && others.any westernArabicDigits.holds)

/-- Whether every character of a text fits between what is before it, in reverse, and what is
after it. -/
def allFit (before : Text) : Text → Bool
  | [] => true
  | c :: t => fitsBetween before c t && allFit (c :: before) t

end HostName

end ProxySelection
