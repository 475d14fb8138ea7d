import FormRecovery.Text.Extending
import FormRecovery.Text.Wide

/-!
The number of terminal columns that a character takes when it stands alone: two if it
is wide, none if it is not drawn or is drawn on another character, and one otherwise,
but for a few characters with columns of their own.
-/
namespace FormRecovery.Text

/-- Default-ignorable characters, which are not drawn. -/
def ignorable : Ranges :=
  [(0xad, 0xad), (0x34f, 0x34f), (0x61c, 0x61c), (0x1160, 0x1160), (0x17b4, 0x17b5),
   (0x180b, 0x180f), (0x200b, 0x200f), (0x202a, 0x202e), (0x2060, 0x206f), (0x3164, 0x3164),
   (0xfe00, 0xfe0f), (0xfeff, 0xfeff), (0xffa0, 0xffa0), (0xfff0, 0xfff8), (0x1bca0, 0x1bca3),
   (0x1d173, 0x1d17a), (0xe0000, 0xe0fff)]

/-- Vowels and final consonants that join the syllable before them. -/
def joining : Ranges := [(0x1160, 0x11ff), (0xd7b0, 0xd7c6), (0xd7cb, 0xd7fb)]

/-- Signs and consonants drawn on the characters after them, a sign that marks an omission
between two letters, and points. -/
def attached : Ranges :=
  [(0x5c8, 0x5c9), (0x605, 0x605), (0x70f, 0x70f), (0x890, 0x891), (0x8e2, 0x8e2), (0xd4e, 0xd4e),
   (0xa8fa, 0xa8fa), (0x10ecf, 0x10ecf), (0x111c2, 0x111c3), (0x113d1, 0x113d1),
   (0x1193f, 0x1193f), (0x11941, 0x11941), (0x11a3a, 0x11a3a), (0x11a84, 0x11a89),
   (0x11d46, 0x11d46), (0x11f02, 0x11f02), (0x1d127, 0x1d127)]

/-- Characters that take the given columns whatever sets they are in: voiced sound marks with a
cell of their own, the joiner of Tifinagh consonants, a vowel of two parts and a sign of three. -/
def ownColumns? (c : Char) : Option Nat :=
  match c with
  | '\uff9e' => some 1
  | '\uff9f' => some 1
  | '\u2d7f' => some 1
  | '\u17a4' => some 2
  | '\u17d8' => some 3
  | _ => none

def isAscii (c : Char) : Bool := c.toNat < 128

/-- Columns of a character that stands alone. -/
def charColumns (c : Char) : Nat :=
  if isAscii c then 1
  else
    match ownColumns? c with
    | some n => n
    | none =>
      if extending.contains c || ignorable.contains c || joining.contains c ||
          attached.contains c then 0
      else if wide.contains c then 2
      else 1

end FormRecovery.Text
