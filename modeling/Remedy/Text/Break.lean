import Remedy.Text.Alphabetic
import Remedy.Text.Marks
import Remedy.Text.Ranges
import Remedy.Text.Script
import Remedy.Text.Usage
/-!
# Break — where clusters, words and sentences break

Each of the three rules of text segmentation puts every character into one class.  The classes of a rule are apart
from each other; a character of none of them is left to no class here.
-/
namespace Remedy.Text

/-! ## Pictures among the characters -/

/-- Characters that can be shown as pictures. -/
def emoji : Ranges := ⟨#[
  (0x23, 0x23), (0x2A, 0x2A), (0x30, 0x39), (0xA9, 0xA9), (0xAE, 0xAE), (0x203C, 0x203C), (0x2049, 0x2049),
  (0x2122, 0x2122), (0x2139, 0x2139), (0x2194, 0x2199), (0x21A9, 0x21AA), (0x231A, 0x231B), (0x2328, 0x2328),
  (0x23CF, 0x23CF), (0x23E9, 0x23F3), (0x23F8, 0x23FA), (0x24C2, 0x24C2), (0x25AA, 0x25AB), (0x25B6, 0x25B6),
  (0x25C0, 0x25C0), (0x25FB, 0x25FE), (0x2600, 0x2604), (0x260E, 0x260E), (0x2611, 0x2611), (0x2614, 0x2615),
  (0x2618, 0x2618), (0x261D, 0x261D), (0x2620, 0x2620), (0x2622, 0x2623), (0x2626, 0x2626), (0x262A, 0x262A),
  (0x262E, 0x262F), (0x2638, 0x263A), (0x2640, 0x2640), (0x2642, 0x2642), (0x2648, 0x2653), (0x265F, 0x2660),
  (0x2663, 0x2663), (0x2665, 0x2666), (0x2668, 0x2668), (0x267B, 0x267B), (0x267E, 0x267F), (0x2692, 0x2697),
  (0x2699, 0x2699), (0x269B, 0x269C), (0x26A0, 0x26A1), (0x26A7, 0x26A7), (0x26AA, 0x26AB), (0x26B0, 0x26B1),
  (0x26BD, 0x26BE), (0x26C4, 0x26C5), (0x26C8, 0x26C8), (0x26CE, 0x26CF), (0x26D1, 0x26D1), (0x26D3, 0x26D4),
  (0x26E9, 0x26EA), (0x26F0, 0x26F5), (0x26F7, 0x26FA), (0x26FD, 0x26FD), (0x2702, 0x2702), (0x2705, 0x2705),
  (0x2708, 0x270D), (0x270F, 0x270F), (0x2712, 0x2712), (0x2714, 0x2714), (0x2716, 0x2716), (0x271D, 0x271D),
  (0x2721, 0x2721), (0x2728, 0x2728), (0x2733, 0x2734), (0x2744, 0x2744), (0x2747, 0x2747), (0x274C, 0x274C),
  (0x274E, 0x274E), (0x2753, 0x2755), (0x2757, 0x2757), (0x2763, 0x2764), (0x2795, 0x2797), (0x27A1, 0x27A1),
  (0x27B0, 0x27B0), (0x27BF, 0x27BF), (0x2934, 0x2935), (0x2B05, 0x2B07), (0x2B1B, 0x2B1C), (0x2B50, 0x2B50),
  (0x2B55, 0x2B55), (0x3030, 0x3030), (0x303D, 0x303D), (0x3297, 0x3297), (0x3299, 0x3299), (0x1F004, 0x1F004),
  (0x1F0CF, 0x1F0CF), (0x1F170, 0x1F171), (0x1F17E, 0x1F17F), (0x1F18E, 0x1F18E), (0x1F191, 0x1F19A),
  (0x1F1E6, 0x1F1FF), (0x1F201, 0x1F202), (0x1F21A, 0x1F21A), (0x1F22F, 0x1F22F), (0x1F232, 0x1F23A),
  (0x1F250, 0x1F251), (0x1F300, 0x1F321), (0x1F324, 0x1F393), (0x1F396, 0x1F397), (0x1F399, 0x1F39B),
  (0x1F39E, 0x1F3F0), (0x1F3F3, 0x1F3F5), (0x1F3F7, 0x1F4FD), (0x1F4FF, 0x1F53D), (0x1F549, 0x1F54E),
  (0x1F550, 0x1F567), (0x1F56F, 0x1F570), (0x1F573, 0x1F57A), (0x1F587, 0x1F587), (0x1F58A, 0x1F58D),
  (0x1F590, 0x1F590), (0x1F595, 0x1F596), (0x1F5A4, 0x1F5A5), (0x1F5A8, 0x1F5A8), (0x1F5B1, 0x1F5B2),
  (0x1F5BC, 0x1F5BC), (0x1F5C2, 0x1F5C4), (0x1F5D1, 0x1F5D3), (0x1F5DC, 0x1F5DE), (0x1F5E1, 0x1F5E1),
  (0x1F5E3, 0x1F5E3), (0x1F5E8, 0x1F5E8), (0x1F5EF, 0x1F5EF), (0x1F5F3, 0x1F5F3), (0x1F5FA, 0x1F64F),
  (0x1F680, 0x1F6C5), (0x1F6CB, 0x1F6D2), (0x1F6D5, 0x1F6D7), (0x1F6DC, 0x1F6E5), (0x1F6E9, 0x1F6E9),
  (0x1F6EB, 0x1F6EC), (0x1F6F0, 0x1F6F0), (0x1F6F3, 0x1F6FC), (0x1F7E0, 0x1F7EB), (0x1F7F0, 0x1F7F0),
  (0x1F90C, 0x1F93A), (0x1F93C, 0x1F945), (0x1F947, 0x1F9FF), (0x1FA70, 0x1FA7C), (0x1FA80, 0x1FA89),
  (0x1FA8F, 0x1FAC6), (0x1FACE, 0x1FADC), (0x1FADF, 0x1FAE9), (0x1FAF0, 0x1FAF8)]⟩

/-- Characters that are shown as pictures unless asked otherwise. -/
def emojiByDefault : Ranges := ⟨#[
  (0x231A, 0x231B), (0x23E9, 0x23EC), (0x23F0, 0x23F0), (0x23F3, 0x23F3), (0x25FD, 0x25FE), (0x2614, 0x2615),
  (0x2648, 0x2653), (0x267F, 0x267F), (0x2693, 0x2693), (0x26A1, 0x26A1), (0x26AA, 0x26AB), (0x26BD, 0x26BE),
  (0x26C4, 0x26C5), (0x26CE, 0x26CE), (0x26D4, 0x26D4), (0x26EA, 0x26EA), (0x26F2, 0x26F3), (0x26F5, 0x26F5),
  (0x26FA, 0x26FA), (0x26FD, 0x26FD), (0x2705, 0x2705), (0x270A, 0x270B), (0x2728, 0x2728), (0x274C, 0x274C),
  (0x274E, 0x274E), (0x2753, 0x2755), (0x2757, 0x2757), (0x2795, 0x2797), (0x27B0, 0x27B0), (0x27BF, 0x27BF),
  (0x2B1B, 0x2B1C), (0x2B50, 0x2B50), (0x2B55, 0x2B55), (0x1F004, 0x1F004), (0x1F0CF, 0x1F0CF), (0x1F18E, 0x1F18E),
  (0x1F191, 0x1F19A), (0x1F1E6, 0x1F1FF), (0x1F201, 0x1F201), (0x1F21A, 0x1F21A), (0x1F22F, 0x1F22F),
  (0x1F232, 0x1F236), (0x1F238, 0x1F23A), (0x1F250, 0x1F251), (0x1F300, 0x1F320), (0x1F32D, 0x1F335),
  (0x1F337, 0x1F37C), (0x1F37E, 0x1F393), (0x1F3A0, 0x1F3CA), (0x1F3CF, 0x1F3D3), (0x1F3E0, 0x1F3F0),
  (0x1F3F4, 0x1F3F4), (0x1F3F8, 0x1F43E), (0x1F440, 0x1F440), (0x1F442, 0x1F4FC), (0x1F4FF, 0x1F53D),
  (0x1F54B, 0x1F54E), (0x1F550, 0x1F567), (0x1F57A, 0x1F57A), (0x1F595, 0x1F596), (0x1F5A4, 0x1F5A4),
  (0x1F5FB, 0x1F64F), (0x1F680, 0x1F6C5), (0x1F6CC, 0x1F6CC), (0x1F6D0, 0x1F6D2), (0x1F6D5, 0x1F6D7),
  (0x1F6DC, 0x1F6DF), (0x1F6EB, 0x1F6EC), (0x1F6F4, 0x1F6FC), (0x1F7E0, 0x1F7EB), (0x1F7F0, 0x1F7F0),
  (0x1F90C, 0x1F93A), (0x1F93C, 0x1F945), (0x1F947, 0x1F9FF), (0x1FA70, 0x1FA7C), (0x1FA80, 0x1FA89),
  (0x1FA8F, 0x1FAC6), (0x1FACE, 0x1FADC), (0x1FADF, 0x1FAE9), (0x1FAF0, 0x1FAF8)]⟩

/-- The colours of skin. -/
def emojiModifiers : Ranges := ⟨#[
  (0x1F3FB, 0x1F3FF)]⟩

/-- Pictures that take a colour of skin. -/
def emojiBases : Ranges := ⟨#[
  (0x261D, 0x261D), (0x26F9, 0x26F9), (0x270A, 0x270D), (0x1F385, 0x1F385), (0x1F3C2, 0x1F3C4), (0x1F3C7, 0x1F3C7),
  (0x1F3CA, 0x1F3CC), (0x1F442, 0x1F443), (0x1F446, 0x1F450), (0x1F466, 0x1F478), (0x1F47C, 0x1F47C),
  (0x1F481, 0x1F483), (0x1F485, 0x1F487), (0x1F48F, 0x1F48F), (0x1F491, 0x1F491), (0x1F4AA, 0x1F4AA),
  (0x1F574, 0x1F575), (0x1F57A, 0x1F57A), (0x1F590, 0x1F590), (0x1F595, 0x1F596), (0x1F645, 0x1F647),
  (0x1F64B, 0x1F64F), (0x1F6A3, 0x1F6A3), (0x1F6B4, 0x1F6B6), (0x1F6C0, 0x1F6C0), (0x1F6CC, 0x1F6CC),
  (0x1F90C, 0x1F90C), (0x1F90F, 0x1F90F), (0x1F918, 0x1F91F), (0x1F926, 0x1F926), (0x1F930, 0x1F939),
  (0x1F93C, 0x1F93E), (0x1F977, 0x1F977), (0x1F9B5, 0x1F9B6), (0x1F9B8, 0x1F9B9), (0x1F9BB, 0x1F9BB),
  (0x1F9CD, 0x1F9CF), (0x1F9D1, 0x1F9DD), (0x1FAC3, 0x1FAC5), (0x1FAF0, 0x1FAF8)]⟩

/-- Characters that sequences of pictures are made of. -/
def emojiParts : Ranges := ⟨#[
  (0x23, 0x23), (0x2A, 0x2A), (0x30, 0x39), (0x200D, 0x200D), (0x20E3, 0x20E3), (0xFE0F, 0xFE0F), (0x1F1E6, 0x1F1FF),
  (0x1F3FB, 0x1F3FF), (0x1F9B0, 0x1F9B3), (0xE0020, 0xE007F)]⟩

/-- Pictures, and the code points kept free for them. -/
def pictographs : Ranges := ⟨#[
  (0xA9, 0xA9), (0xAE, 0xAE), (0x203C, 0x203C), (0x2049, 0x2049), (0x2122, 0x2122), (0x2139, 0x2139),
  (0x2194, 0x2199), (0x21A9, 0x21AA), (0x231A, 0x231B), (0x2328, 0x2328), (0x2388, 0x2388), (0x23CF, 0x23CF),
  (0x23E9, 0x23F3), (0x23F8, 0x23FA), (0x24C2, 0x24C2), (0x25AA, 0x25AB), (0x25B6, 0x25B6), (0x25C0, 0x25C0),
  (0x25FB, 0x25FE), (0x2600, 0x2605), (0x2607, 0x2612), (0x2614, 0x2685), (0x2690, 0x2705), (0x2708, 0x2712),
  (0x2714, 0x2714), (0x2716, 0x2716), (0x271D, 0x271D), (0x2721, 0x2721), (0x2728, 0x2728), (0x2733, 0x2734),
  (0x2744, 0x2744), (0x2747, 0x2747), (0x274C, 0x274C), (0x274E, 0x274E), (0x2753, 0x2755), (0x2757, 0x2757),
  (0x2763, 0x2767), (0x2795, 0x2797), (0x27A1, 0x27A1), (0x27B0, 0x27B0), (0x27BF, 0x27BF), (0x2934, 0x2935),
  (0x2B05, 0x2B07), (0x2B1B, 0x2B1C), (0x2B50, 0x2B50), (0x2B55, 0x2B55), (0x3030, 0x3030), (0x303D, 0x303D),
  (0x3297, 0x3297), (0x3299, 0x3299), (0x1F000, 0x1F0FF), (0x1F10D, 0x1F10F), (0x1F12F, 0x1F12F), (0x1F16C, 0x1F171),
  (0x1F17E, 0x1F17F), (0x1F18E, 0x1F18E), (0x1F191, 0x1F19A), (0x1F1AD, 0x1F1E5), (0x1F201, 0x1F20F),
  (0x1F21A, 0x1F21A), (0x1F22F, 0x1F22F), (0x1F232, 0x1F23A), (0x1F23C, 0x1F23F), (0x1F249, 0x1F3FA),
  (0x1F400, 0x1F53D), (0x1F546, 0x1F64F), (0x1F680, 0x1F6FF), (0x1F774, 0x1F77F), (0x1F7D5, 0x1F7FF),
  (0x1F80C, 0x1F80F), (0x1F848, 0x1F84F), (0x1F85A, 0x1F85F), (0x1F888, 0x1F88F), (0x1F8AE, 0x1F8FF),
  (0x1F90C, 0x1F93A), (0x1F93C, 0x1F945), (0x1F947, 0x1FAFF), (0x1FC00, 0x1FFFD)]⟩

/-! ## Ideographs, their parts and the signs that describe them -/

def ideographs : Ranges := ⟨#[
  (0x3006, 0x3007), (0x3021, 0x3029), (0x3038, 0x303A), (0x3400, 0x4DBF), (0x4E00, 0x9FFF), (0xF900, 0xFA6D),
  (0xFA70, 0xFAD9), (0x16FE4, 0x16FE4), (0x17000, 0x187F7), (0x18800, 0x18CD5), (0x18CFF, 0x18D08),
  (0x1B170, 0x1B2FB), (0x20000, 0x2A6DF), (0x2A700, 0x2B739), (0x2B740, 0x2B81D), (0x2B820, 0x2CEA1),
  (0x2CEB0, 0x2EBE0), (0x2EBF0, 0x2EE5D), (0x2F800, 0x2FA1D), (0x30000, 0x3134A), (0x31350, 0x323AF)]⟩

/-- The ideographs that several languages share. -/
def unifiedIdeographs : Ranges := ⟨#[
  (0x3400, 0x4DBF), (0x4E00, 0x9FFF), (0xFA0E, 0xFA0F), (0xFA11, 0xFA11), (0xFA13, 0xFA14), (0xFA1F, 0xFA1F),
  (0xFA21, 0xFA21), (0xFA23, 0xFA24), (0xFA27, 0xFA29), (0x20000, 0x2A6DF), (0x2A700, 0x2B739), (0x2B740, 0x2B81D),
  (0x2B820, 0x2CEA1), (0x2CEB0, 0x2EBE0), (0x2EBF0, 0x2EE5D), (0x30000, 0x3134A), (0x31350, 0x323AF)]⟩

/-- The parts that ideographs are ordered by. -/
def radicals : Ranges := ⟨#[
  (0x2E80, 0x2E99), (0x2E9B, 0x2EF3), (0x2F00, 0x2FD5)]⟩

/-- Signs that describe an ideograph by one other. -/
def unaryDescriptions : Ranges := ⟨#[
  (0x2FFE, 0x2FFF)]⟩

/-- Signs that describe an ideograph by two others. -/
def binaryDescriptions : Ranges := ⟨#[
  (0x2FF0, 0x2FF1), (0x2FF4, 0x2FFD), (0x31EF, 0x31EF)]⟩

/-- Signs that describe an ideograph by three others. -/
def ternaryDescriptions : Ranges := ⟨#[
  (0x2FF2, 0x2FF3)]⟩

/-! ## Clusters -/

def onePoint (n : Nat) : Ranges := ⟨#[(n, n)]⟩

/-- Characters that go with the one after them. -/
def prepended : Ranges := ⟨#[
  (0x600, 0x605), (0x6DD, 0x6DD), (0x70F, 0x70F), (0x890, 0x891), (0x8E2, 0x8E2), (0xD4E, 0xD4E), (0x110BD, 0x110BD),
  (0x110CD, 0x110CD), (0x111C2, 0x111C3), (0x113D1, 0x113D1), (0x1193F, 0x1193F), (0x11941, 0x11941),
  (0x11A3A, 0x11A3A), (0x11A84, 0x11A89), (0x11D46, 0x11D46), (0x11F02, 0x11F02)]⟩

/-- Marks that take room of their own and do not go with the character before them. -/
def freeMarks : Ranges := ⟨#[
  (0x102B, 0x102C), (0x1038, 0x1038), (0x1062, 0x1064), (0x1067, 0x106D), (0x1083, 0x1083), (0x1087, 0x108C),
  (0x108F, 0x108F), (0x109A, 0x109C), (0x1A61, 0x1A61), (0x1A63, 0x1A64), (0xAA7B, 0xAA7B), (0xAA7D, 0xAA7D),
  (0x11720, 0x11721)]⟩

/-- Controls, separators and ignorable code points that are not characters yet. -/
def clusterControls : Ranges :=
  (lineSeparators ∪ paragraphSeparators ∪ controls ∪ formats ∪ (ignorable ∩ unassigned))
    \ (onePoint 0x0D ∪ onePoint 0x0A ∪ onePoint 0x200D ∪ prepended ∪ extending)

/-- Vowels that go with a consonant before them. -/
def jamoVowels : Ranges := ⟨#[(0x1160, 0x11A7), (0xD7B0, 0xD7C6), (0x16D63, 0x16D63), (0x16D67, 0x16D6A)]⟩

/-- The syllables of a consonant and a vowel: every twenty-eighth of all. -/
def openSyllables : Ranges := Ranges.ofCodePoints ((List.range 399).map fun k => 0xAC00 + 28 * k)

/-- **The class of characters at the breaks of clusters with a name.** -/
def clusterBreak? (name : String) : Option Ranges :=
  match name with
  | "cr" => some (onePoint 0x0D)
  | "lf" => some (onePoint 0x0A)
  | "cn" | "control" => some clusterControls
  | "ex" | "extend" => some (extending ∪ emojiModifiers)
  | "zwj" => some (onePoint 0x200D)
  | "ri" | "regionalindicator" => some regionLetters
  | "pp" | "prepend" => some prepended
  | "sm" | "spacingmark" => some ((spacingMarks \ (extending ∪ freeMarks)) ∪ onePoint 0xE33 ∪ onePoint 0xEB3)
  | "l" => some ⟨#[(0x1100, 0x115F), (0xA960, 0xA97C)]⟩
  | "v" => some jamoVowels
  | "t" => some ⟨#[(0x11A8, 0x11FF), (0xD7CB, 0xD7FB)]⟩
  | "lv" => some openSyllables
  | "lvt" => some (⟨#[(0xAC00, 0xD7A3)]⟩ \ openSyllables)
  | _ => none

/-! ## Words -/

/-- Numbers, and the signs that stand before the digits they span. -/
def wordNumbers : Ranges := decimalDigits ∪ onePoint 0x66B ∪ onePoint 0x19DA ∪ (spanningMarks \ onePoint 0x70F)

/-- The letters of Katakana and the marks used with them. -/
def katakanaLetters : Ranges :=
  katakana ∪ ⟨#[(0x3031, 0x3035), (0x309B, 0x309C), (0x30A0, 0x30A0), (0x30FC, 0x30FC), (0xFF70, 0xFF70)]⟩

def hebrewLetters : Ranges := hebrew ∩ caselessLetters

/-- Marks and modifiers that go with the character before them. -/
def wordExtending : Ranges := (extending ∪ spacingMarks ∪ emojiModifiers) \ onePoint 0x200D

/-- Letters of scripts that are written without spaces between words. -/
def unspacedLetters : Ranges := ⟨#[
  (0xE01, 0xE30), (0xE32, 0xE33), (0xE40, 0xE46), (0xE81, 0xE82), (0xE84, 0xE84), (0xE86, 0xE8A), (0xE8C, 0xEA3),
  (0xEA5, 0xEA5), (0xEA7, 0xEB0), (0xEB2, 0xEB3), (0xEBD, 0xEBD), (0xEC0, 0xEC4), (0xEC6, 0xEC6), (0xEDC, 0xEDF),
  (0x1000, 0x102A), (0x103F, 0x103F), (0x1050, 0x1055), (0x105A, 0x105D), (0x1061, 0x1061), (0x1065, 0x1066),
  (0x106E, 0x1070), (0x1075, 0x1081), (0x108E, 0x108E), (0x1780, 0x17B3), (0x17D7, 0x17D7), (0x17DC, 0x17DC),
  (0x1950, 0x196D), (0x1970, 0x1974), (0x1980, 0x19AB), (0x19B0, 0x19C9), (0x1A20, 0x1A54), (0x1AA7, 0x1AA7),
  (0xA9E0, 0xA9E4), (0xA9E6, 0xA9EF), (0xA9FA, 0xA9FE), (0xAA60, 0xAA76), (0xAA7A, 0xAA7A), (0xAA7E, 0xAAAF),
  (0xAAB1, 0xAAB1), (0xAAB5, 0xAAB6), (0xAAB9, 0xAABD), (0xAAC0, 0xAAC0), (0xAAC2, 0xAAC2), (0xAADB, 0xAADD),
  (0x11700, 0x1171A), (0x11740, 0x11746)]⟩

/-- Signs that count as letters between letters. -/
def letterSigns : Ranges := ⟨#[
  (0xB8, 0xB8), (0x2C2, 0x2C5), (0x2D2, 0x2D7), (0x2DE, 0x2DF), (0x2E5, 0x2EB), (0x2ED, 0x2ED), (0x2EF, 0x2FF),
  (0x55A, 0x55C), (0x55E, 0x55E), (0x58A, 0x58A), (0x5F3, 0x5F3), (0x70F, 0x70F), (0xA708, 0xA716), (0xA720, 0xA721),
  (0xA789, 0xA78A), (0xAB5B, 0xAB5B)]⟩

def wordLetters : Ranges :=
  (alphabetics \ (ideographs ∪ katakanaLetters ∪ hiragana ∪ hebrewLetters ∪ wordExtending ∪ unspacedLetters))
    ∪ letterSigns

/-- Signs that keep digits together. -/
def betweenDigits : Ranges := ⟨#[
  (0x2C, 0x2C), (0x3B, 0x3B), (0x37E, 0x37E), (0x589, 0x589), (0x60C, 0x60D), (0x66C, 0x66C), (0x7F8, 0x7F8),
  (0x2044, 0x2044), (0xFE50, 0xFE50), (0xFE54, 0xFE54), (0xFF0C, 0xFF0C), (0xFF1B, 0xFF1B)]⟩

/-- Signs that keep letters together. -/
def betweenLetters : Ranges := ⟨#[
  (0x3A, 0x3A), (0xB7, 0xB7), (0x387, 0x387), (0x55F, 0x55F), (0x5F4, 0x5F4), (0x2027, 0x2027), (0xFE13, 0xFE13),
  (0xFE55, 0xFE55), (0xFF1A, 0xFF1A)]⟩

/-- Signs that keep letters or digits together. -/
def betweenBoth : Ranges := ⟨#[
  (0x2E, 0x2E), (0x2018, 0x2019), (0x2024, 0x2024), (0xFE52, 0xFE52), (0xFF07, 0xFF07), (0xFF0E, 0xFF0E)]⟩

/-- Signs that connect letters, digits and themselves. -/
def wordConnectors : Ranges := ⟨#[
  (0x5F, 0x5F), (0x202F, 0x202F), (0x203F, 0x2040), (0x2054, 0x2054), (0xFE33, 0xFE34), (0xFE4D, 0xFE4F),
  (0xFF3F, 0xFF3F)]⟩

/-- Spaces that stay together. -/
def wordSpaces : Ranges := ⟨#[
  (0x20, 0x20), (0x1680, 0x1680), (0x2000, 0x2006), (0x2008, 0x200A), (0x205F, 0x205F), (0x3000, 0x3000)]⟩

/-- **The class of characters at the breaks of words with a name.** -/
def wordBreak? (name : String) : Option Ranges :=
  match name with
  | "cr" => some (onePoint 0x0D)
  | "lf" => some (onePoint 0x0A)
  | "nl" | "newline" => some ⟨#[(0x0B, 0x0C), (0x85, 0x85), (0x2028, 0x2029)]⟩
  | "dq" | "doublequote" => some (onePoint 0x22)
  | "sq" | "singlequote" => some (onePoint 0x27)
  | "hl" | "hebrewletter" => some hebrewLetters
  | "le" | "aletter" => some wordLetters
  | "ka" | "katakana" => some katakanaLetters
  | "nu" | "numeric" => some wordNumbers
  | "ml" | "midletter" => some betweenLetters
  | "mn" | "midnum" => some betweenDigits
  | "mb" | "midnumlet" => some betweenBoth
  | "ex" | "extendnumlet" => some wordConnectors
  | "extend" => some wordExtending
  | "fo" | "format" => some (formats \ (prepended ∪ wordExtending ∪ ⟨#[(0x200B, 0x200B), (0x200D, 0x200D)]⟩))
  | "ri" | "regionalindicator" => some regionLetters
  | "wsegspace" => some wordSpaces
  | "zwj" => some (onePoint 0x200D)
  | _ => none

/-! ## Sentences -/

/-- Full stops, which end a sentence or an abbreviation. -/
def fullStops : Ranges := ⟨#[(0x2E, 0x2E), (0x2024, 0x2024), (0xFE52, 0xFE52), (0xFF0E, 0xFF0E)]⟩

/-- Ends of lines and paragraphs. -/
def sentenceSeparators : Ranges := ⟨#[(0x85, 0x85), (0x2028, 0x2029)]⟩

/-- Marks that go with the character before them. -/
def sentenceExtending : Ranges := extending ∪ spacingMarks ∪ onePoint 0x200D

/-- Quotation marks and ornaments that enclose parts of a sentence. -/
def otherEnclosing : Ranges := ⟨#[
  (0x22, 0x22), (0x27, 0x27), (0x275B, 0x2760), (0x2E00, 0x2E01), (0x2E06, 0x2E08), (0x2E0B, 0x2E0B),
  (0x1F676, 0x1F678)]⟩

/-- Signs after which a sentence goes on. -/
def sentenceContinuers : Ranges := ⟨#[
  (0x2C, 0x2D), (0x3A, 0x3B), (0x37E, 0x37E), (0x55D, 0x55D), (0x60C, 0x60D), (0x7F8, 0x7F8), (0x1802, 0x1802),
  (0x1808, 0x1808), (0x2013, 0x2014), (0x3001, 0x3001), (0xFE10, 0xFE11), (0xFE13, 0xFE14), (0xFE31, 0xFE32),
  (0xFE50, 0xFE51), (0xFE54, 0xFE55), (0xFE58, 0xFE58), (0xFE63, 0xFE63), (0xFF0C, 0xFF0D), (0xFF1A, 0xFF1B),
  (0xFF64, 0xFF64)]⟩

/-- Small letters; those of Georgian have capitals only in headlines. -/
def sentenceLower : Ranges := lowercase \ (extending ∪ ⟨#[(0x10D0, 0x10FA), (0x10FD, 0x10FF)]⟩)

/-- Capital letters, those for headlines left out. -/
def sentenceUpper : Ranges := (titleLetters ∪ uppercase) \ ⟨#[(0x1C90, 0x1CBA), (0x1CBD, 0x1CBF)]⟩

/-- Numbers, with the signs in and before them. -/
def sentenceNumbers : Ranges := wordNumbers ∪ onePoint 0x66C

/-- **The class of characters at the breaks of sentences with a name.** -/
def sentenceBreak? (name : String) : Option Ranges :=
  match name with
  | "cr" => some (onePoint 0x0D)
  | "lf" => some (onePoint 0x0A)
  | "ex" | "extend" => some sentenceExtending
  | "se" | "sep" => some sentenceSeparators
  | "fo" | "format" => some (formats \ (sentenceNumbers ∪ sentenceExtending))
  | "sp" => some (whiteSpace \ (onePoint 0x0A ∪ onePoint 0x0D ∪ sentenceSeparators))
  | "lo" | "lower" => some sentenceLower
  | "up" | "upper" => some sentenceUpper
  | "le" | "oletter" =>
    some ((alphabetics ∪ onePoint 0x5F3) \ (sentenceLower ∪ sentenceUpper ∪ sentenceExtending))
  | "nu" | "numeric" => some sentenceNumbers
  | "at" | "aterm" => some fullStops
  | "sc" | "scontinue" => some sentenceContinuers
  | "st" | "sterm" => some (sentenceEnds \ fullStops)
  | "cl" | "close" => some (openings ∪ closings ∪ initialQuotes ∪ finalQuotes ∪ otherEnclosing)
  | _ => none

end Remedy.Text
