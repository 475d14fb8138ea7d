import FormRecovery.Text.Glyph

/-!
Ligatures of scripts: characters that take fewer columns together than each alone. A
text is read from its end, so that the last letter of a ligature comes first.
-/
namespace FormRecovery.Text

/-- The Arabic letters that a lam before them is joined to. -/
def alefs : Ranges :=
  [(0x622, 0x623), (0x625, 0x625), (0x627, 0x627), (0x671, 0x673), (0x675, 0x675),
   (0x773, 0x774), (0x870, 0x882)]

def lams : Ranges :=
  [(0x644, 0x644), (0x6b5, 0x6b8), (0x76a, 0x76a), (0x8a6, 0x8a6), (0x8c7, 0x8c7)]

/-- Characters that take no column alone and yet keep a lam and an alef apart: those whose
joining type is not transparent. -/
def separating : Ranges :=
  [(0x605, 0x605), (0x890, 0x891), (0x8e2, 0x8e2), (0x9be, 0x9be), (0x9d7, 0x9d7), (0xb3e, 0xb3e),
   (0xb57, 0xb57), (0xbbe, 0xbbe), (0xbd7, 0xbd7), (0xcc0, 0xcc0), (0xcc2, 0xcc2), (0xcc7, 0xcc8),
   (0xcca, 0xccb), (0xcd5, 0xcd6), (0xd3e, 0xd3e), (0xd4e, 0xd4e), (0xd57, 0xd57), (0xdcf, 0xdcf),
   (0xddf, 0xddf), (0x1160, 0x11ff), (0x1715, 0x1715), (0x1734, 0x1734), (0x180e, 0x180e),
   (0x1b35, 0x1b35), (0x1b3b, 0x1b3b), (0x1b3d, 0x1b3d), (0x1b43, 0x1b44), (0x1baa, 0x1baa),
   (0x1bf2, 0x1bf3), (0x200c, 0x200d), (0x2065, 0x2069), (0x302e, 0x302f), (0x3164, 0x3164),
   (0xa8fa, 0xa8fa), (0xa953, 0xa953), (0xa9c0, 0xa9c0), (0xd7b0, 0xd7c6), (0xd7cb, 0xd7fb),
   (0xffa0, 0xffa0), (0xfff0, 0xfff8), (0x111c0, 0x111c0), (0x111c2, 0x111c3), (0x11235, 0x11235),
   (0x1133e, 0x1133e), (0x1134d, 0x1134d), (0x11357, 0x11357), (0x113b8, 0x113b8),
   (0x113c2, 0x113c2), (0x113c5, 0x113c5), (0x113c7, 0x113c9), (0x113cf, 0x113cf),
   (0x113d1, 0x113d1), (0x114b0, 0x114b0), (0x114bd, 0x114bd), (0x115af, 0x115af),
   (0x116b6, 0x116b6), (0x11930, 0x11930), (0x1193d, 0x1193d), (0x1193f, 0x1193f),
   (0x11941, 0x11941), (0x11a3a, 0x11a3a), (0x11a84, 0x11a89), (0x11d46, 0x11d46),
   (0x11f02, 0x11f02), (0x11f41, 0x11f41), (0x16ff0, 0x16ff1), (0x1d165, 0x1d166),
   (0x1d16d, 0x1d172), (0xe0000, 0xe0000), (0xe0002, 0xe001f), (0xe0080, 0xe00ff),
   (0xe01f0, 0xe0fff)]

/-- Whether a character stands between a lam and an alef without keeping them apart. -/
def isTransparent (c : Char) : Bool := charColumns c == 0 && !separating.contains c

/-- Ignorable marks, which stand inside every other ligature without breaking it. -/
def ignorableMarks : Ranges :=
  [(0x34f, 0x34f), (0x17b4, 0x17b5), (0x180b, 0x180d), (0x180f, 0x180f), (0xfe00, 0xfe0f),
   (0xe0100, 0xe01ef)]

/-- The Khmer letters with a form below another letter. -/
def subscriptLetters : Ranges :=
  [(0x1780, 0x1782), (0x1784, 0x1787), (0x1789, 0x178c), (0x178e, 0x1793), (0x1795, 0x1798),
   (0x179b, 0x179d), (0x17a0, 0x17a0), (0x17a2, 0x17a2), (0x17a7, 0x17a7), (0x17ab, 0x17ac),
   (0x17af, 0x17af)]

def tifinaghConsonants : Ranges := [(0x2d31, 0x2d65), (0x2d6f, 0x2d6f)]

/-- Lisu tone letters that a tone letter may stand before. -/
def secondTones : Ranges := [(0xa4fc, 0xa4fd)]

def firstTones : Ranges := [(0xa4f8, 0xa4fb)]

/-- What was read of a ligature, from its end. -/
inductive LigatureEnd where
  /-- A Hebrew lamed, which an alef is joined to by a joiner. -/
  | lamed
  /-- A Buginese ya, which a vowel sign i is joined to by a joiner. -/
  | ya
  /-- A Buginese ya with the vowel sign i joined to it. -/
  | yaAfterVowel
  /-- An Old Turkic i, which an ec is joined to by a joiner. -/
  | orkhonI
  | tifinagh
  /-- A Tifinagh consonant after the joiner of consonants. -/
  | joinedTifinagh
  | secondTone
  | subscriptLetter
  /-- A Kirat Rai vowel sign e, the last part of longer vowel signs. -/
  | vowelE
  /-- The Kirat Rai vowel sign ai, in one character or two. -/
  | vowelAi
  deriving DecidableEq

namespace LigatureEnd

/-- The ligature that may end with this character. -/
def ofChar? (c : Char) : Option LigatureEnd :=
  if c = '\u05dc' then some lamed
  else if c = '\u1a10' then some ya
  else if c.toNat = 0x10c03 then some orkhonI
  else if c.toNat = 0x16d67 then some vowelE
  else if c.toNat = 0x16d68 then some vowelAi
  else if tifinaghConsonants.contains c then some tifinagh
  else if secondTones.contains c then some secondTone
  else if subscriptLetters.contains c then some subscriptLetter
  else none

/-- How a character joins the end of a ligature after it: the columns that it adds to those of
the end, and what is read then, which is nothing when the ligature is complete. `joiner` says
whether a joiner stands between the two. -/
def extend? (c : Char) (joiner : Bool) : LigatureEnd → Option (Int × Option LigatureEnd)
  | lamed => if joiner && c = '\u05d0' then some (0, none) else none
  | ya => if joiner && c = '\u1a17' then some (0, some yaAfterVowel) else none
  | yaAfterVowel => if c = '\u1a15' then some (0, none) else none
  | orkhonI => if joiner && c.toNat = 0x10c32 then some (0, none) else none
  | tifinagh =>
    if c = '\u2d7f' then some (1, some joinedTifinagh)
    else if joiner && tifinaghConsonants.contains c then some (0, none)
    else none
  | joinedTifinagh => if tifinaghConsonants.contains c then some (-1, none) else none
  | secondTone => if firstTones.contains c then some (0, none) else none
  | subscriptLetter => if c = '\u17d2' then some (-1, none) else none
  | vowelE =>
    if c.toNat = 0x16d63 || c.toNat = 0x16d69 then some (0, none)
    else if c.toNat = 0x16d67 then some (0, some vowelAi)
    else if c.toNat = 0x16d68 then some (1, some vowelE)
    else none
  | vowelAi => if c.toNat = 0x16d63 then some (0, none) else none

end LigatureEnd

end FormRecovery.Text
