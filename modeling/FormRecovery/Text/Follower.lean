import FormRecovery.Text.Emoji
import FormRecovery.Text.Ligature

/-!
How many columns a character adds to a text. This depends on what follows it: emoji
and letters of some scripts are drawn together and take the columns of one, and
selectors choose how the character before them is drawn.
-/
namespace FormRecovery.Text

/-- What was read of the name of a region in a flag, from its end: letters, and digits before
them. -/
structure RegionEnd where
  letters : Nat
  digits : Nat
  deriving DecidableEq

namespace RegionEnd

def tagLetters : Ranges := [(0xe0061, 0xe007a)]

def tagDigits : Ranges := [(0xe0030, 0xe0039)]

/-- A name has up to six letters, or three digits and up to four letters after them. -/
def extend? (c : Char) (e : RegionEnd) : Option RegionEnd :=
  if tagLetters.contains c then
    if e.digits = 0 ∧ e.letters < 6 then some ⟨e.letters + 1, 0⟩ else none
  else if tagDigits.contains c then
    if e.digits < 3 ∧ e.letters ≤ 4 then some ⟨e.letters, e.digits + 1⟩ else none
  else none

/-- Whether the flag may stand before what was read. -/
def isName (e : RegionEnd) : Bool :=
  if e.digits = 0 then 3 ≤ e.letters && e.letters ≤ 6 else e.digits == 3

end RegionEnd

/-- The beginning of a text, as far as the columns of a character before it depend on it.
A picture is joined to one before it by a joiner. -/
inductive Beginning where
  | other
  | lineFeed
  | modifier
  | flagLetter
  /-- At least two letters of flags. -/
  | flagLetters
  | picture
  /-- A joiner and a picture. -/
  | joined
  /-- A keycap mark that is joined to a picture. -/
  | joinedKeycap
  /-- One letter of a flag that is joined to a picture. -/
  | joinedFlagLetter
  /-- Flags of two letters that are joined to a picture. -/
  | joinedFlags
  /-- The letters of flags, an odd number of at least three, that are joined to a picture. -/
  | joinedFlagsAndLetter
  | joinedRegion (read : RegionEnd)
  /-- An Arabic alef, with transparent marks before it or without. -/
  | alef
  | ligature (read : LigatureEnd) (joiner : Bool)
  deriving DecidableEq

/-- Chooses how the character before it is drawn. -/
inductive Selector where
  | picture
  | text
  | fullwidth
  deriving DecidableEq

/-- What follows a character: a selector or none, and the text after that. -/
structure Follower where
  selector : Option Selector
  beginning : Beginning
  deriving DecidableEq

namespace Selector

def ofChar? (c : Char) : Option Selector :=
  match c with
  | '\ufe0f' => some picture
  | '\ufe0e' => some text
  | '\ufe01' => some fullwidth
  | _ => none

end Selector

/-- Whether a character is drawn as a picture before the selector of pictures. -/
def hasPictureForm (c : Char) : Bool := picturable.contains c || textual.contains c

/-- Whether a pictured character takes one column before the selector of text. Those of the
block of enclosed ideographs stay wide. -/
def hasNarrowTextForm (c : Char) : Bool :=
  textual.contains c && !(0x1f200 ≤ c.toNat && c.toNat ≤ 0x1f2ff)

/-- Whether a character is a quotation mark with a fullwidth form. -/
def isCurlyQuote (c : Char) : Bool :=
  c == '\u2018' || c == '\u2019' || c == '\u201c' || c == '\u201d'

namespace Beginning

/-- The beginning of a text whose first character stands alone. -/
def ofChar (c : Char) : Beginning :=
  if c = '\n' then lineFeed
  else if modifiers.contains c then modifier
  else if regionalIndicators.contains c then flagLetter
  else if pictured.contains c then picture
  else if alefs.contains c then alef
  else
    match LigatureEnd.ofChar? c with
    | some e => ligature e false
    | none => other

/-- Whether a selector may stand inside, as an ignorable mark does. -/
def admitsSelector : Beginning → Bool
  | alef => true
  | ligature _ _ => true
  | _ => false

/-- Whether a picture before this is drawn together with it. -/
def isJoined : Beginning → Bool
  | joined => true
  | joinedKeycap => true
  | _ => false

/-- How a character joins the text after it, if it does: the columns that it adds, and the
beginning of the text that includes it. Of a picture made of several characters, the last
part is counted when it is met, and the parts before it add nothing. -/
def extend? (c : Char) : Beginning → Option (Int × Beginning)
  | other => none
  | lineFeed => if c = '\r' then some (0, other) else none
  | modifier =>
    if modifiable.contains c then some (0, picture)
    else if c = '\u200d' then some (0, joined)
    else none
  | flagLetter => if regionalIndicators.contains c then some (1, flagLetters) else none
  | flagLetters =>
    if regionalIndicators.contains c then some (1, flagLetters)
    else if c = '\u200d' then some (0, joined)
    else none
  | picture => if c = '\u200d' then some (0, joined) else none
  | joined =>
    if c = '\u20e3' then some (0, joinedKeycap)
    else if regionalIndicators.contains c then some (1, joinedFlagLetter)
    else if modifiers.contains c then some (0, modifier)
    else if c.toNat = 0xe007f then some (0, joinedRegion ⟨0, 0⟩)
    else if pictured.contains c then some (0, picture)
    else none
  | joinedKeycap => none
  | joinedFlagLetter => if regionalIndicators.contains c then some (-1, joinedFlags) else none
  | joinedFlags =>
    if regionalIndicators.contains c then some (3, joinedFlagsAndLetter)
    else if c = '\u200d' then some (0, joined)
    else none
  | joinedFlagsAndLetter =>
    if regionalIndicators.contains c then some (-1, joinedFlags)
    else if c = '\u200d' then some (0, joined)
    else none
  | joinedRegion read =>
    if c.toNat = 0x1f3f4 then if read.isName then some (0, picture) else none
    else (read.extend? c).map fun read => (0, joinedRegion read)
  | alef =>
    if lams.contains c then some (0, other)
    else if isTransparent c then some (0, alef)
    else none
  | ligature read joiner =>
    if c = '\u200d' then some (0, ligature read true)
    else if ignorableMarks.contains c then some (0, ligature read joiner)
    else
      (read.extend? c joiner).map fun (columns, read) =>
        (columns,
          match read with
          | some e => ligature e false
          | none => other)

end Beginning

namespace Follower

/-- The end of a text. -/
def nothing : Follower := ⟨none, .other⟩

def plain (b : Beginning) : Follower := ⟨none, b⟩

/-- A character whose form a selector chooses: the columns that it adds, and what it is for the
character before it. A picture that is joined to another one adds nothing. -/
def selected? (c : Char) (next : Follower) : Option (Int × Follower) :=
  match next.selector with
  | some .picture =>
    if hasPictureForm c then some (if next.beginning.isJoined then 0 else 2, plain .picture)
    else none
  | some .text => if hasNarrowTextForm c then some (1, nothing) else none
  | some .fullwidth => if isCurlyQuote c then some (2, nothing) else none
  | none => none

/-- The text after a selector that chooses nothing; joined pictures are no longer joined by it. -/
def unselected (next : Follower) : Beginning :=
  match next.selector with
  | some _ => if next.beginning.admitsSelector then next.beginning else .other
  | none => next.beginning

/-- A selector before a text. Only the selector of pictures may stand between a picture and a
joiner. -/
def select (s : Selector) (b : Beginning) : Follower :=
  ⟨some s, if b.admitsSelector || s = .picture && b.isJoined then b else .other⟩

/-- The columns that a character adds to the text after it, and what it is, with that text, for
the character before it. -/
def columnsBefore (c : Char) (next : Follower) : Int × Follower :=
  match next.selected? c with
  | some r => r
  | none =>
    match Selector.ofChar? c with
    | some s => (0, select s next.unselected)
    | none =>
      match next.unselected.extend? c with
      | some (columns, b) => (columns, plain b)
      | none => (charColumns c, plain (.ofChar c))

end Follower

end FormRecovery.Text
