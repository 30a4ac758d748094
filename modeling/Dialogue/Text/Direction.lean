import Dialogue.Text.Mark

/-! # Directions

The bidirectional class of a character says how it is placed in text that is written from right to
left. The tables are for version 17 of the Unicode character database. -/

namespace Dialogue.Text

/-- How a character is placed in text that is written from right to left. A separator is one of
lines, or a blank, or a mark of a change of direction. -/
inductive Direction where
  | leftToRight
  | rightToLeft
  | arabicLetter
  | europeanNumber
  | arabicNumber
  | europeanSeparator
  | europeanTerminator
  | commonSeparator
  | boundaryNeutral
  | otherNeutral
  | nonspacingMark
  | separator
  deriving DecidableEq, Repr

/-- The letters written from right to left, Arabic ones apart. -/
def rightToLeftRanges : Array (Nat × Nat) := #[
  (0x590, 0x590), (0x5BE, 0x5BE), (0x5C0, 0x5C0), (0x5C3, 0x5C3), (0x5C6, 0x5C6), (0x5C8, 0x5FF),
  (0x7C0, 0x7EA), (0x7F4, 0x7F5), (0x7FA, 0x7FC), (0x7FE, 0x815), (0x81A, 0x81A), (0x824, 0x824),
  (0x828, 0x828), (0x82E, 0x858), (0x85C, 0x85F), (0x200F, 0x200F), (0xFB1D, 0xFB1D),
  (0xFB1F, 0xFB28), (0xFB2A, 0xFB4F), (0x10800, 0x1091E), (0x10920, 0x10A00), (0x10A04, 0x10A04),
  (0x10A07, 0x10A0B), (0x10A10, 0x10A37), (0x10A3B, 0x10A3E), (0x10A40, 0x10AE4),
  (0x10AE7, 0x10B38), (0x10B40, 0x10CFF), (0x10D4A, 0x10D68), (0x10D6F, 0x10E5F),
  (0x10E7F, 0x10EAA), (0x10EAD, 0x10EBF), (0x10F00, 0x10F2F), (0x10F70, 0x10F81),
  (0x10F86, 0x10FFF), (0x1E800, 0x1E8CF), (0x1E8D7, 0x1E943), (0x1E94B, 0x1EC6F),
  (0x1ECC0, 0x1ECFF), (0x1ED50, 0x1EDFF), (0x1EF00, 0x1EFFF)]

/-- The letters of Arabic and of the scripts like it. -/
def arabicLetterRanges : Array (Nat × Nat) := #[
  (0x608, 0x608), (0x60B, 0x60B), (0x60D, 0x60D), (0x61B, 0x64A), (0x66D, 0x66F), (0x671, 0x6D5),
  (0x6E5, 0x6E6), (0x6EE, 0x6EF), (0x6FA, 0x710), (0x712, 0x72F), (0x74B, 0x7A5), (0x7B1, 0x7BF),
  (0x860, 0x88F), (0x892, 0x896), (0x8A0, 0x8C9), (0xFB50, 0xFBC2), (0xFBD3, 0xFD3D),
  (0xFD50, 0xFD8F), (0xFD92, 0xFDC7), (0xFDF0, 0xFDFC), (0xFE70, 0xFEFE), (0x10D00, 0x10D23),
  (0x10D28, 0x10D2F), (0x10D3A, 0x10D3F), (0x10EC0, 0x10ECF), (0x10ED9, 0x10EF9),
  (0x10F30, 0x10F45), (0x10F51, 0x10F6F), (0x1EC70, 0x1ECBF), (0x1ED00, 0x1ED4F),
  (0x1EE00, 0x1EEEF), (0x1EEF2, 0x1EEFF)]

/-- The European digits. -/
def europeanNumberRanges : Array (Nat × Nat) := #[
  (0x30, 0x39), (0xB2, 0xB3), (0xB9, 0xB9), (0x6F0, 0x6F9), (0x2070, 0x2070), (0x2074, 0x2079),
  (0x2080, 0x2089), (0x2488, 0x249B), (0xFF10, 0xFF19), (0x102E1, 0x102FB), (0x1CCF0, 0x1CCF9),
  (0x1D7CE, 0x1D7FF), (0x1F100, 0x1F10A), (0x1FBF0, 0x1FBF9)]

/-- The Arabic digits. -/
def arabicNumberRanges : Array (Nat × Nat) := #[
  (0x600, 0x605), (0x660, 0x669), (0x66B, 0x66C), (0x6DD, 0x6DD), (0x890, 0x891), (0x8E2, 0x8E2),
  (0x10D30, 0x10D39), (0x10D40, 0x10D49), (0x10E60, 0x10E7E)]

/-- The plus and the minus sign. -/
def europeanSeparatorRanges : Array (Nat × Nat) := #[
  (0x2B, 0x2B), (0x2D, 0x2D), (0x207A, 0x207B), (0x208A, 0x208B), (0x2212, 0x2212),
  (0xFB29, 0xFB29), (0xFE62, 0xFE63), (0xFF0B, 0xFF0B), (0xFF0D, 0xFF0D)]

/-- The signs of currencies and the like. -/
def europeanTerminatorRanges : Array (Nat × Nat) := #[
  (0x23, 0x25), (0xA2, 0xA5), (0xB0, 0xB1), (0x58F, 0x58F), (0x609, 0x60A), (0x66A, 0x66A),
  (0x9F2, 0x9F3), (0x9FB, 0x9FB), (0xAF1, 0xAF1), (0xBF9, 0xBF9), (0xE3F, 0xE3F), (0x17DB, 0x17DB),
  (0x2030, 0x2034), (0x20A0, 0x20CF), (0x212E, 0x212E), (0x2213, 0x2213), (0xA838, 0xA839),
  (0xFE5F, 0xFE5F), (0xFE69, 0xFE6A), (0xFF03, 0xFF05), (0xFFE0, 0xFFE1), (0xFFE5, 0xFFE6),
  (0x11FDD, 0x11FE0), (0x1E2FF, 0x1E2FF)]

/-- The comma, the point and the like. -/
def commonSeparatorRanges : Array (Nat × Nat) := #[
  (0x2C, 0x2C), (0x2E, 0x2F), (0x3A, 0x3A), (0xA0, 0xA0), (0x60C, 0x60C), (0x202F, 0x202F),
  (0x2044, 0x2044), (0xFE50, 0xFE50), (0xFE52, 0xFE52), (0xFE55, 0xFE55), (0xFF0C, 0xFF0C),
  (0xFF0E, 0xFF0F), (0xFF1A, 0xFF1A)]

/-- The characters that are not shown. -/
def boundaryNeutralRanges : Array (Nat × Nat) := #[
  (0x0, 0x8), (0xE, 0x1B), (0x7F, 0x84), (0x86, 0x9F), (0xAD, 0xAD), (0x180E, 0x180E),
  (0x200B, 0x200D), (0x2060, 0x2065), (0x206A, 0x206F), (0xFDD0, 0xFDEF), (0xFEFF, 0xFEFF),
  (0xFFF0, 0xFFF8), (0xFFFE, 0xFFFF), (0x1BCA0, 0x1BCA3), (0x1D173, 0x1D17A), (0x1FFFE, 0x1FFFF),
  (0x2FFFE, 0x2FFFF), (0x3FFFE, 0x3FFFF), (0x4FFFE, 0x4FFFF), (0x5FFFE, 0x5FFFF),
  (0x6FFFE, 0x6FFFF), (0x7FFFE, 0x7FFFF), (0x8FFFE, 0x8FFFF), (0x9FFFE, 0x9FFFF),
  (0xAFFFE, 0xAFFFF), (0xBFFFE, 0xBFFFF), (0xCFFFE, 0xCFFFF), (0xDFFFE, 0xE00FF),
  (0xE01F0, 0xE0FFF), (0xEFFFE, 0xEFFFF), (0xFFFFE, 0xFFFFF), (0x10FFFE, 0x10FFFF)]

/-- The symbols and the punctuation that fit either direction. -/
def otherNeutralRanges : Array (Nat × Nat) := #[
  (0x21, 0x22), (0x26, 0x2A), (0x3B, 0x40), (0x5B, 0x60), (0x7B, 0x7E), (0xA1, 0xA1), (0xA6, 0xA9),
  (0xAB, 0xAC), (0xAE, 0xAF), (0xB4, 0xB4), (0xB6, 0xB8), (0xBB, 0xBF), (0xD7, 0xD7), (0xF7, 0xF7),
  (0x2B9, 0x2BA), (0x2C2, 0x2CF), (0x2D2, 0x2DF), (0x2E5, 0x2ED), (0x2EF, 0x2FF), (0x374, 0x375),
  (0x37E, 0x37E), (0x384, 0x385), (0x387, 0x387), (0x3F6, 0x3F6), (0x58A, 0x58A), (0x58D, 0x58E),
  (0x606, 0x607), (0x60E, 0x60F), (0x6DE, 0x6DE), (0x6E9, 0x6E9), (0x7F6, 0x7F9), (0xBF3, 0xBF8),
  (0xBFA, 0xBFA), (0xC78, 0xC7E), (0xF3A, 0xF3D), (0x1390, 0x1399), (0x1400, 0x1400),
  (0x169B, 0x169C), (0x17F0, 0x17F9), (0x1800, 0x180A), (0x1940, 0x1940), (0x1944, 0x1945),
  (0x19DE, 0x19FF), (0x1FBD, 0x1FBD), (0x1FBF, 0x1FC1), (0x1FCD, 0x1FCF), (0x1FDD, 0x1FDF),
  (0x1FED, 0x1FEF), (0x1FFD, 0x1FFE), (0x2010, 0x2027), (0x2035, 0x2043), (0x2045, 0x205E),
  (0x207C, 0x207E), (0x208C, 0x208E), (0x2100, 0x2101), (0x2103, 0x2106), (0x2108, 0x2109),
  (0x2114, 0x2114), (0x2116, 0x2118), (0x211E, 0x2123), (0x2125, 0x2125), (0x2127, 0x2127),
  (0x2129, 0x2129), (0x213A, 0x213B), (0x2140, 0x2144), (0x214A, 0x214D), (0x2150, 0x215F),
  (0x2189, 0x218B), (0x2190, 0x2211), (0x2214, 0x2335), (0x237B, 0x2394), (0x2396, 0x2429),
  (0x2440, 0x244A), (0x2460, 0x2487), (0x24EA, 0x26AB), (0x26AD, 0x27FF), (0x2900, 0x2B73),
  (0x2B76, 0x2BFF), (0x2CE5, 0x2CEA), (0x2CF9, 0x2CFF), (0x2E00, 0x2E5D), (0x2E80, 0x2E99),
  (0x2E9B, 0x2EF3), (0x2F00, 0x2FD5), (0x2FF0, 0x2FFF), (0x3001, 0x3004), (0x3008, 0x3020),
  (0x3030, 0x3030), (0x3036, 0x3037), (0x303D, 0x303F), (0x309B, 0x309C), (0x30A0, 0x30A0),
  (0x30FB, 0x30FB), (0x31C0, 0x31E5), (0x31EF, 0x31EF), (0x321D, 0x321E), (0x3250, 0x325F),
  (0x327C, 0x327E), (0x32B1, 0x32BF), (0x32CC, 0x32CF), (0x3377, 0x337A), (0x33DE, 0x33DF),
  (0x33FF, 0x33FF), (0x4DC0, 0x4DFF), (0xA490, 0xA4C6), (0xA60D, 0xA60F), (0xA673, 0xA673),
  (0xA67E, 0xA67F), (0xA700, 0xA721), (0xA788, 0xA788), (0xA828, 0xA82B), (0xA874, 0xA877),
  (0xAB6A, 0xAB6B), (0xFBC3, 0xFBD2), (0xFD3E, 0xFD4F), (0xFD90, 0xFD91), (0xFDC8, 0xFDCF),
  (0xFDFD, 0xFDFF), (0xFE10, 0xFE19), (0xFE30, 0xFE4F), (0xFE51, 0xFE51), (0xFE54, 0xFE54),
  (0xFE56, 0xFE5E), (0xFE60, 0xFE61), (0xFE64, 0xFE66), (0xFE68, 0xFE68), (0xFE6B, 0xFE6B),
  (0xFF01, 0xFF02), (0xFF06, 0xFF0A), (0xFF1B, 0xFF20), (0xFF3B, 0xFF40), (0xFF5B, 0xFF65),
  (0xFFE2, 0xFFE4), (0xFFE8, 0xFFEE), (0xFFF9, 0xFFFD), (0x10101, 0x10101), (0x10140, 0x1018C),
  (0x10190, 0x1019C), (0x101A0, 0x101A0), (0x1091F, 0x1091F), (0x10B39, 0x10B3F),
  (0x10D6E, 0x10D6E), (0x10ED0, 0x10ED8), (0x11052, 0x11065), (0x11660, 0x1166C),
  (0x11FD5, 0x11FDC), (0x11FE1, 0x11FF1), (0x16FE2, 0x16FE2), (0x1CC00, 0x1CCD5),
  (0x1CCFA, 0x1CCFC), (0x1CD00, 0x1CEB3), (0x1CEBA, 0x1CED0), (0x1CEE0, 0x1CEF0),
  (0x1D1E9, 0x1D1EA), (0x1D200, 0x1D241), (0x1D245, 0x1D245), (0x1D300, 0x1D356),
  (0x1D6C1, 0x1D6C1), (0x1D6DB, 0x1D6DB), (0x1D6FB, 0x1D6FB), (0x1D715, 0x1D715),
  (0x1D735, 0x1D735), (0x1D74F, 0x1D74F), (0x1D76F, 0x1D76F), (0x1D789, 0x1D789),
  (0x1D7A9, 0x1D7A9), (0x1D7C3, 0x1D7C3), (0x1EEF0, 0x1EEF1), (0x1F000, 0x1F02B),
  (0x1F030, 0x1F093), (0x1F0A0, 0x1F0AE), (0x1F0B1, 0x1F0BF), (0x1F0C1, 0x1F0CF),
  (0x1F0D1, 0x1F0F5), (0x1F10B, 0x1F10F), (0x1F12F, 0x1F12F), (0x1F16A, 0x1F16F),
  (0x1F1AD, 0x1F1AD), (0x1F260, 0x1F265), (0x1F300, 0x1F6D8), (0x1F6DC, 0x1F6EC),
  (0x1F6F0, 0x1F6FC), (0x1F700, 0x1F7D9), (0x1F7E0, 0x1F7EB), (0x1F7F0, 0x1F7F0),
  (0x1F800, 0x1F80B), (0x1F810, 0x1F847), (0x1F850, 0x1F859), (0x1F860, 0x1F887),
  (0x1F890, 0x1F8AD), (0x1F8B0, 0x1F8BB), (0x1F8C0, 0x1F8C1), (0x1F8D0, 0x1F8D8),
  (0x1F900, 0x1FA57), (0x1FA60, 0x1FA6D), (0x1FA70, 0x1FA7C), (0x1FA80, 0x1FA8A),
  (0x1FA8E, 0x1FAC6), (0x1FAC8, 0x1FAC8), (0x1FACD, 0x1FADC), (0x1FADF, 0x1FAEA),
  (0x1FAEF, 0x1FAF8), (0x1FB00, 0x1FB92), (0x1FB94, 0x1FBEF), (0x1FBFA, 0x1FBFA)]

/-- The separators of lines, the blanks, and the marks of a change of direction. -/
def separatorRanges : Array (Nat × Nat) := #[
  (0x9, 0xD), (0x1C, 0x20), (0x85, 0x85), (0x1680, 0x1680), (0x2000, 0x200A), (0x2028, 0x202E),
  (0x205F, 0x205F), (0x2066, 0x2069), (0x3000, 0x3000)]

/-- The nonspacing marks that are placed like letters from left to right. -/
def leftToRightMarks : List Nat := [0xCBF, 0xCC6, 0x11A07, 0x11A08, 0x11C3F]

/-- The directions with the ranges of the characters that have them. -/
def directionTables : List (Direction × Array (Nat × Nat)) := [
  (.rightToLeft, rightToLeftRanges),
  (.arabicLetter, arabicLetterRanges),
  (.europeanNumber, europeanNumberRanges),
  (.arabicNumber, arabicNumberRanges),
  (.europeanSeparator, europeanSeparatorRanges),
  (.europeanTerminator, europeanTerminatorRanges),
  (.commonSeparator, commonSeparatorRanges),
  (.boundaryNeutral, boundaryNeutralRanges),
  (.otherNeutral, otherNeutralRanges),
  (.separator, separatorRanges)]

/-- The direction of a character. -/
def direction (c : Char) : Direction :=
  match directionTables.find? fun (_, ranges) => inRanges ranges c.toNat with
  | some (d, _) => d
  | none =>
    if isNonspacing c && !leftToRightMarks.contains c.toNat then .nonspacingMark else .leftToRight

end Dialogue.Text
