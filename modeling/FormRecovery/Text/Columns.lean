import FormRecovery.Text.Follower

/-!
The number of terminal columns that a text takes. An ASCII text takes one column
for each character. Any other text is read from its end, and each character adds the
columns that it takes before what follows it.
-/
namespace FormRecovery.Text

/-- Columns of a text with characters outside ASCII, and what it is for a character before it. -/
def readColumns (cs : List Char) : Int × Follower :=
  cs.foldr (fun c (sum, next) =>
    let (columns, next) := next.columnsBefore c
    (columns + sum, next)) (0, .nothing)

def columns (s : String) : Nat :=
  if s.toList.all isAscii then s.length else (readColumns s.toList).1.toNat

end FormRecovery.Text
