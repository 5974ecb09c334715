import Phrasebook.Unicode.CodePointSet

/-!
# Letters written as one

Letters that are drawn as a single sign with the letter before or behind them, and the marks that
may stand between them.
-/
namespace Phrasebook.Unicode

/-- Arabic letters with the shape of lam. -/
def lam : CodePointSet := ⟨[
    0x644, 0x645, 0x6B5, 0x6B9, 0x76A, 0x76B, 0x8A6, 0x8A7, 0x8C7, 0x8C8]⟩

/-- Arabic letters with the shape of alef, which stand in one sign with a lam before them. -/
def alef : CodePointSet := ⟨[
    0x622, 0x624, 0x625, 0x626, 0x627, 0x628, 0x671, 0x674, 0x675, 0x676, 0x773, 0x775, 0x870,
    0x883]⟩

/-- Characters that keep Arabic letters apart although they take no room. -/
def separatesArabic : CodePointSet := ⟨[
    0x1160, 0x1161, 0x180E, 0x180F, 0x200C, 0x200E, 0x2066, 0x206A, 0x3164, 0x3165, 0xFFA0,
    0xFFA1]⟩

/-- Khmer letters that are drawn below the letter before them, and so take no room, behind the sign
that asks for it. -/
def khmerSubscript : CodePointSet := ⟨[
    0x1780, 0x1783, 0x1784, 0x1788, 0x1789, 0x178D, 0x178E, 0x1794, 0x1795, 0x1799, 0x179B, 0x179E,
    0x17A0, 0x17A1, 0x17A2, 0x17A3, 0x17A7, 0x17A8, 0x17AB, 0x17AD, 0x17AF, 0x17B0]⟩

/-- Tone letters of Lisu that come first in a pair. -/
def lisuFirstTone : CodePointSet := ⟨[0xA4F8, 0xA4FC]⟩

/-- Tone letters of Lisu that come second in a pair. -/
def lisuSecondTone : CodePointSet := ⟨[0xA4FC, 0xA4FE]⟩

/-- Consonants of Tifinagh. -/
def tifinaghConsonant : CodePointSet := ⟨[0x2D31, 0x2D66, 0x2D6F, 0x2D70]⟩

/-- The consonants that are drawn as one with a consonant before them. -/
def joinable : CodePointSet := ⟨[
    0x5DC, 0x5DD, 0x1A10, 0x1A11, 0x2D31, 0x2D66, 0x2D6F, 0x2D70, 0xA4FC, 0xA4FE, 0x10C03, 0x10C04]⟩

end Phrasebook.Unicode
