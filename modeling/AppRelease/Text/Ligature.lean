import AppRelease.Text.Visible

/-!
# Letters that are shown as one

Data: the letters that a terminal draws in one column together with a letter before them. An alef
after a lam is the best known pair. The others are tone letters, consonants with a joiner between
them, letters written below the one before, and vowel signs that are made of two.
-/

namespace AppRelease.Text

/-- Whether a character is an alef. -/
def isAlef (c : Char) : Bool :=
  inRanges c.toNat
    [(0x622, 0x623), (0x625, 0x625), (0x627, 0x627), (0x671, 0x673), (0x675, 0x675), (0x773, 0x774),
     (0x870, 0x882)]

/-- Whether a character is a lam. -/
def isLam (c : Char) : Bool :=
  inRanges c.toNat
    [(0x644, 0x644), (0x6B5, 0x6B8), (0x76A, 0x76A), (0x8A6, 0x8A6), (0x8C7, 0x8C7)]

/-- The characters of no column that part a lam from an alef, as ascending ranges. -/
def partingRanges : List (Nat × Nat) :=
  [
    (0x605, 0x605), (0x890, 0x891), (0x8E2, 0x8E2), (0x9BE, 0x9BE), (0x9D7, 0x9D7), (0xB3E, 0xB3E),
    (0xB57, 0xB57), (0xBBE, 0xBBE), (0xBD7, 0xBD7), (0xCC0, 0xCC0), (0xCC2, 0xCC2), (0xCC7, 0xCC8),
    (0xCCA, 0xCCB), (0xCD5, 0xCD6), (0xD3E, 0xD3E), (0xD4E, 0xD4E), (0xD57, 0xD57), (0xDCF, 0xDCF),
    (0xDDF, 0xDDF), (0x1160, 0x11FF), (0x1715, 0x1715), (0x1734, 0x1734), (0x180E, 0x180E),
    (0x1B35, 0x1B35), (0x1B3B, 0x1B3B), (0x1B3D, 0x1B3D), (0x1B43, 0x1B44), (0x1BAA, 0x1BAA),
    (0x1BF2, 0x1BF3), (0x200C, 0x200D), (0x2065, 0x2069), (0x302E, 0x302F), (0x3164, 0x3164),
    (0xA8FA, 0xA8FA), (0xA953, 0xA953), (0xA9C0, 0xA9C0), (0xD7B0, 0xD7C6), (0xD7CB, 0xD7FB),
    (0xFFA0, 0xFFA0), (0xFFF0, 0xFFF8), (0x111C0, 0x111C0), (0x111C2, 0x111C3), (0x11235, 0x11235),
    (0x1133E, 0x1133E), (0x1134D, 0x1134D), (0x11357, 0x11357), (0x113B8, 0x113B8),
    (0x113C2, 0x113C2), (0x113C5, 0x113C5), (0x113C7, 0x113C9), (0x113CF, 0x113CF),
    (0x113D1, 0x113D1), (0x114B0, 0x114B0), (0x114BD, 0x114BD), (0x115AF, 0x115AF),
    (0x116B6, 0x116B6), (0x11930, 0x11930), (0x1193D, 0x1193D), (0x1193F, 0x1193F),
    (0x11941, 0x11941), (0x11A3A, 0x11A3A), (0x11A84, 0x11A89), (0x11D46, 0x11D46),
    (0x11F02, 0x11F02), (0x11F41, 0x11F41), (0x1D165, 0x1D166), (0x1D16D, 0x1D172),
    (0xE0000, 0xE0000), (0xE0002, 0xE001F), (0xE0080, 0xE00FF), (0xE01F0, 0xE0FFF)]

/-- Whether a character is a mark that is never shown. Such a mark does not part letters. -/
def isIgnoredMark (c : Char) : Bool :=
  inRanges c.toNat
    [(0x34F, 0x34F), (0x17B4, 0x17B5), (0x180B, 0x180D), (0x180F, 0x180F), (0xFE00, 0xFE0F),
     (0xE0100, 0xE01EF)]

/-- Whether a character is a Khmer letter that has a form below the letter before it. -/
def isSubscriptKhmer (c : Char) : Bool :=
  inRanges c.toNat
    [(0x1780, 0x1782), (0x1784, 0x1787), (0x1789, 0x178C), (0x178E, 0x1793), (0x1795, 0x1798),
     (0x179B, 0x179D), (0x17A0, 0x17A0), (0x17A2, 0x17A2), (0x17A7, 0x17A7), (0x17AB, 0x17AC),
     (0x17AF, 0x17AF)]

/-- The sign that puts a Khmer letter below the one before it. -/
def khmerSubscript : Char := '\u17D2'

/-- Whether a character is a Tifinagh consonant. -/
def isTifinagh (c : Char) : Bool :=
  inRanges c.toNat [(0x2D31, 0x2D65), (0x2D6F, 0x2D6F)]

/-- The sign that joins two Tifinagh consonants. -/
def tifinaghJoiner : Char := '\u2D7F'

/-- Whether a character is the first of two Lisu tone letters. -/
def isFirstLisuTone (c : Char) : Bool := 0xA4F8 ≤ c.toNat && c.toNat ≤ 0xA4FB

/-- Whether a character is the second of two Lisu tone letters. -/
def isSecondLisuTone (c : Char) : Bool := 0xA4FC ≤ c.toNat && c.toNat ≤ 0xA4FD

/-- Whether a character is a curly quote. -/
def isCurlyQuote (c : Char) : Bool :=
  c = '\u2018' || c = '\u2019' || c = '\u201C' || c = '\u201D'

/-- The character that asks for a wide curly quote. -/
def wideSelector : Char := '\uFE01'

end AppRelease.Text
