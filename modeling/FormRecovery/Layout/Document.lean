import FormRecovery.Text.Columns

/-!
Documents with optional line breaks, laid out within a width. A group is set on one
line if it fits there together with what follows it up to the next break; otherwise
its own breaks are taken, and the groups inside it are tried in turn.
-/
namespace FormRecovery.Layout

/-- A part of a text that is laid out. -/
inductive Fragment where
  | text (s : String)
  /-- A line break and the indentation of the next line. -/
  | newline (indent : Nat)
  deriving DecidableEq

namespace Fragment

/-- The text of the fragments. -/
def written : List Fragment → String
  | [] => ""
  | text s :: fs => s ++ written fs
  | newline indent :: fs => "\n" ++ (String.ofList (List.replicate indent ' ') ++ written fs)

/-- The text with each break, and its indentation, as one space. -/
def joined : List Fragment → String
  | [] => ""
  | text s :: fs => s ++ joined fs
  | newline _ :: fs => " " ++ joined fs

@[simp] theorem written_append (fs gs : List Fragment) :
    written (fs ++ gs) = written fs ++ written gs := by
  induction fs with
  | nil => simp [written]
  | cons f fs ih => cases f <;> simp [written, ih, String.append_assoc]

@[simp] theorem joined_append (fs gs : List Fragment) :
    joined (fs ++ gs) = joined fs ++ joined gs := by
  induction fs with
  | nil => simp [joined]
  | cons f fs ih => cases f <;> simp [joined, ih, String.append_assoc]

end Fragment

inductive Document where
  | empty
  | text (s : String)
  /-- A space on one line, or a break. -/
  | line
  | append (first second : Document)
  /-- Breaks inside are indented by `depth` more. -/
  | nest (depth : Nat) (body : Document)
  /-- All breaks directly inside are taken, or none. -/
  | group (body : Document)

namespace Document

instance : Append Document := ⟨append⟩

/-- The text with every break as a space. -/
def flat : Document → String
  | empty => ""
  | text s => s
  | line => " "
  | append first second => first.flat ++ second.flat
  | nest _ body => body.flat
  | group body => body.flat

/-- Columns taken with every break as a space. -/
def flatColumns : Document → Nat
  | empty => 0
  | text s => Text.columns s
  | line => 1
  | append first second => first.flatColumns + second.flatColumns
  | nest _ body => body.flatColumns
  | group body => body.flatColumns

/-- Columns needed up to the first break when all breaks are taken; `after` are the columns
needed after the document. -/
def lead (after : Nat) : Document → Nat
  | empty => after
  | text s => Text.columns s + after
  | line => 0
  | append first second => first.lead (second.lead after)
  | nest _ body => body.lead after
  | group body => body.lead after

/-- Whether the document has no piece at all. -/
def isEmpty : Document → Bool
  | empty => true
  | text s => s.isEmpty
  | line => false
  | append first second => first.isEmpty && second.isEmpty
  | nest _ body => body.isEmpty
  | group body => body.isEmpty

/-- The document laid out and the column after it, from the given column; `after` are the columns
needed after the document up to the next break, and `next` is the indentation of what follows the
document, if anything does. A break is indented for the piece that stands on the next line, which
is outside the document if nothing follows the break inside it. -/
def layout (width : Nat) : Document → (indent column after : Nat) → (next : Option Nat) →
    List Fragment × Nat
  | empty, _, column, _, _ => ([], column)
  | text s, _, column, _, _ => ([.text s], column + Text.columns s)
  | line, indent, _, _, next => ([.newline (next.getD indent)], next.getD indent)
  | append first second, indent, column, after, next =>
    let (fs, column) := first.layout width indent column (second.lead after)
      (if second.isEmpty then next else some indent)
    let (gs, column) := second.layout width indent column after next
    (fs ++ gs, column)
  | nest depth body, indent, column, after, next =>
    body.layout width (indent + depth) column after next
  | group body, indent, column, after, next =>
    if column + body.flatColumns + after ≤ width then
      ([.text body.flat], column + body.flatColumns)
    else body.layout width indent column after next

/-- The document laid out within a width, from the start of a line. -/
def fragments (width : Nat) (d : Document) : List Fragment := (d.layout width 0 0 0 none).1

/-- The text of the document within a width. -/
def render (width : Nat) (d : Document) : String := Fragment.written (d.fragments width)

/-- The documents, each after a break. -/
def broken : List Document → Document
  | [] => empty
  | d :: rest => line ++ (d ++ broken rest)

def parenthesized (d : Document) : Document := text "(" ++ (d ++ text ")")

@[simp] theorem flat_append (d e : Document) : (d ++ e).flat = d.flat ++ e.flat := rfl

@[simp] theorem flatColumns_append (d e : Document) :
    (d ++ e).flatColumns = d.flatColumns + e.flatColumns := rfl

@[simp] theorem lead_append (after : Nat) (d e : Document) :
    (d ++ e).lead after = d.lead (e.lead after) := rfl

@[simp] theorem isEmpty_append (d e : Document) : (d ++ e).isEmpty = (d.isEmpty && e.isEmpty) := rfl

@[simp] theorem flat_parenthesized (d : Document) :
    (parenthesized d).flat = "(" ++ (d.flat ++ ")") := rfl

end Document

end FormRecovery.Layout
