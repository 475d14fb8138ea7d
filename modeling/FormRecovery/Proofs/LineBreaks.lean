import FormRecovery.Layout.Document
import Mathlib.Data.List.Chain

/-!
What a width does to a text. A renderer lays a document out within a width: texts as they stand, and
each group on one line or with its breaks taken, each with the indentation of the nests around it. A
document that is one group stays on one line exactly if it has room there. Nothing else is known of
a renderer, and the one at hand keeps these laws. So the text with each break and its indentation as
one space is the document on one line. If no two spaces stand next to each other there, the
indentation can be told from the text: it is all the spaces after the break.
-/
namespace FormRecovery

namespace Layout

/-- The first text is the second one with some of its spaces as breaks, each followed by the
indentation of the next line. -/
inductive Wraps : List Char → List Char → Prop where
  | nil : Wraps [] []
  | keep {c : Char} {t u : List Char} (other : c ≠ '\n') (rest : Wraps t u) :
      Wraps (c :: t) (c :: u)
  | wrap (indent : Nat) {t u : List Char} (rest : Wraps t u) :
      Wraps ('\n' :: (List.replicate indent ' ' ++ t)) (' ' :: u)

namespace Wraps

variable {t t' u u' : List Char}

theorem append (h : Wraps t u) (h' : Wraps t' u') : Wraps (t ++ t') (u ++ u') := by
  induction h with
  | nil => exact h'
  | keep other _ ih => exact .keep other ih
  | wrap indent _ ih =>
    rw [List.cons_append, List.append_assoc]
    exact .wrap indent ih

theorem of_no_newline (h : '\n' ∉ t) : Wraps t t := by
  induction t with
  | nil => exact .nil
  | cons c t ih =>
    rw [List.mem_cons, not_or] at h
    exact .keep (Ne.symm h.1) (ih h.2)

end Wraps

/-- Reads each break and the indentation after it as one space. `indented` says whether only
indentation stands between the last break and the text. -/
def unwrap (indented : Bool) : List Char → List Char
  | [] => []
  | c :: t =>
    if c = '\n' then ' ' :: unwrap true t
    else if indented && c = ' ' then unwrap true t
    else c :: unwrap false t

/-- No two spaces stand next to each other. -/
def SingleSpaced (t : List Char) : Prop := t.IsChain fun c d => c = ' ' → d ≠ ' '

/-- A text of words with one space between them, so that a space fits on either side. -/
def Compact (t : List Char) : Prop := SingleSpaced (' ' :: (t ++ [' ']))

theorem Compact.singleSpaced {t : List Char} (h : Compact t) : SingleSpaced t :=
  h.tail.left_of_append

theorem singleSpaced_word {t : List Char} (h : ' ' ∉ t) : SingleSpaced t := by
  induction t with
  | nil => exact .nil
  | cons c t ih =>
    rw [List.mem_cons, not_or] at h
    exact (ih h.2).cons fun d _ hspace => absurd hspace.symm h.1

theorem compact_word {t : List Char} (hne : t ≠ []) (h : ' ' ∉ t) : Compact t := by
  have hend : SingleSpaced (t ++ [' ']) := by
    refine (singleSpaced_word h).append (.singleton _) ?_
    intro c hc d _ hspace
    exact absurd (hspace ▸ List.mem_of_mem_getLast? hc) h
  refine hend.cons ?_
  intro c hc _ hspace
  rw [List.head?_append_of_ne_nil _ hne] at hc
  exact h (hspace ▸ List.mem_of_mem_head? hc)

theorem Compact.join {t u : List Char} (ht : Compact t) (hu : Compact u) :
    Compact (t ++ ' ' :: u) := by
  -- the space after the first text is the space before the second
  have hafter : SingleSpaced ((' ' :: t) ++ [' ']) := ht
  have hbefore : SingleSpaced ([' '] ++ (u ++ [' '])) := hu
  have hboth : SingleSpaced ((' ' :: t) ++ [' '] ++ (u ++ [' '])) :=
    hafter.append_overlap hbefore nofun
  simpa [Compact] using hboth

theorem Compact.parenthesized {t : List Char} (ht : Compact t) : Compact ('(' :: (t ++ [')'])) := by
  have hclose : SingleSpaced (t ++ [')', ' ']) :=
    ht.singleSpaced.append (.cons_cons (by simp) (.singleton _)) (by simp)
  have hopen : SingleSpaced (' ' :: '(' :: (t ++ [')', ' '])) :=
    (hclose.cons (by simp)).cons (by simp)
  simpa [Compact] using hopen

theorem unwrap_replicate (indent : Nat) (t : List Char) :
    unwrap true (List.replicate indent ' ' ++ t) = unwrap true t := by
  induction indent with
  | zero => rfl
  | succ indent ih => simpa [List.replicate_succ, unwrap] using ih

/-- Indentation ends where the text goes on with anything but a space. -/
theorem unwrap_indented {t u : List Char} (h : Wraps t u) (hu : ∀ c ∈ u.head?, c ≠ ' ') :
    unwrap true t = unwrap false t := by
  cases h with
  | nil => rfl
  | keep other _ =>
    have hspace := hu _ rfl
    simp [unwrap, other, hspace]
  | wrap => exact absurd rfl (hu ' ' rfl)

theorem unwrap_of_wraps {t u : List Char} (h : Wraps t u) (hu : SingleSpaced u) :
    unwrap false t = u := by
  induction h with
  | nil => rfl
  | keep other _ ih => simp [unwrap, other, ih hu.tail]
  | wrap indent rest ih =>
    have hhead := unwrap_indented rest fun c hc => hu.rel_head? hc rfl
    simp [unwrap, unwrap_replicate, hhead, ih hu.tail]

namespace Document

/-- The texts that stand in the document. -/
def texts : Document → List String
  | empty => []
  | text s => [s]
  | line => []
  | append first second => first.texts ++ second.texts
  | nest _ body => body.texts
  | group body => body.texts

/-- Some break stands outside of all groups. -/
def breaks : Document → Bool
  | empty => false
  | text _ => false
  | line => true
  | append first second => first.breaks || second.breaks
  | nest _ body => body.breaks
  | group _ => false

/-- No break stands in the document. -/
def isPlain : Document → Bool
  | empty => true
  | text _ => true
  | line => false
  | append first second => first.isPlain && second.isPlain
  | nest _ body => body.isPlain
  | group body => body.isPlain

@[simp] theorem isPlain_append (d e : Document) : (d ++ e).isPlain = (d.isPlain && e.isPlain) := rfl

@[simp] theorem breaks_append (d e : Document) : (d ++ e).breaks = (d.breaks || e.breaks) := rfl

/-- What is said of texts holds of all texts of the document. -/
def All (p : String → Prop) (d : Document) : Prop := ∀ s ∈ d.texts, p s

/-- No text of the document holds a line break. -/
def OneLined : Document → Prop := All fun s => '\n' ∉ s.toList

variable {d e : Document}

theorem all_text {p : String → Prop} {s : String} : (text s).All p ↔ p s :=
  List.forall_mem_singleton

theorem all_append {p : String → Prop} : (d ++ e).All p ↔ d.All p ∧ e.All p :=
  List.forall_mem_append

theorem newline_not_mem_flat (h : d.OneLined) : '\n' ∉ d.flat.toList := by
  induction d with
  | empty => simp [flat]
  | text s => exact all_text.mp h
  | line => simp [flat]
  | append first second ihf ihs =>
    obtain ⟨hf, hs⟩ := all_append.mp h
    rw [flat, String.toList_append, List.mem_append, not_or]
    exact ⟨ihf hf, ihs hs⟩
  | nest depth body ih => exact ih h
  | group body ih => exact ih h

end Document

/-- How a document may be laid out, from where the indentation is `indent` to where it is `next`, if
anything follows the document. A break is indented for the piece that stands on the next line. -/
inductive Lays : (indent : Nat) → (next : Option Nat) → Document → List Fragment → Prop
  | empty {indent : Nat} {next : Option Nat} : Lays indent next .empty []
  | text {indent : Nat} {next : Option Nat} (s : String) : Lays indent next (.text s) [.text s]
  | line {indent : Nat} {next : Option Nat} :
      Lays indent next .line [.newline (next.getD indent)]
  | append {indent : Nat} {next : Option Nat} {first second : Document} {fs gs : List Fragment}
      (before : Lays indent (if second.isEmpty then next else some indent) first fs)
      (after : Lays indent next second gs) : Lays indent next (.append first second) (fs ++ gs)
  | nest {indent : Nat} {next : Option Nat} {depth : Nat} {body : Document} {fs : List Fragment}
      (inside : Lays (indent + depth) next body fs) : Lays indent next (.nest depth body) fs
  /-- A group on one line. -/
  | flat {indent : Nat} {next : Option Nat} (body : Document) :
      Lays indent next (.group body) [.text body.flat]
  /-- A group with its breaks taken. -/
  | broken {indent : Nat} {next : Option Nat} {body : Document} {fs : List Fragment}
      (inside : Lays indent next body fs) : Lays indent next (.group body) fs

namespace Fragment

variable {fs : List Fragment}

theorem wraps_written (htexts : ∀ s, text s ∈ fs → '\n' ∉ s.toList) :
    Wraps (written fs).toList (joined fs).toList := by
  induction fs with
  | nil => exact .nil
  | cons f fs ih =>
    have ih := ih fun s h => htexts s (List.mem_cons_of_mem _ h)
    cases f with
    | text s =>
      rw [written, joined, String.toList_append, String.toList_append]
      exact (Wraps.of_no_newline (htexts s List.mem_cons_self)).append ih
    | newline indent => simpa [written, joined] using Wraps.wrap indent ih

end Fragment

namespace Lays

variable {indent : Nat} {next : Option Nat} {d : Document} {fs : List Fragment}

/-- With each break as a space, the text is the one line. -/
theorem joined_eq (h : Lays indent next d fs) : Fragment.joined fs = d.flat := by
  induction h with
  | empty => rfl
  | text s => simp [Fragment.joined, Document.flat]
  | line => rfl
  | append _ _ ihf ihs => rw [Fragment.joined_append, ihf, ihs, Document.flat]
  | nest _ ih => exact ih
  | flat body => simp [Fragment.joined, Document.flat]
  | broken _ ih => exact ih

theorem oneLined_texts (h : Lays indent next d fs) (hd : d.OneLined) :
    ∀ s, .text s ∈ fs → '\n' ∉ s.toList := by
  induction h with
  | empty => simp
  | text s => simpa using Document.all_text.mp hd
  | line => simp
  | append _ _ ihf ihs =>
    obtain ⟨hf, hs⟩ := Document.all_append.mp hd
    intro s hmem
    rcases List.mem_append.mp hmem with hmem | hmem
    · exact ihf hf s hmem
    · exact ihs hs s hmem
  | nest _ ih => exact ih hd
  | flat body =>
    have hbody : body.OneLined := hd
    simpa using Document.newline_not_mem_flat hbody
  | broken _ ih => exact ih hd

/-- A document without breaks is laid out on one line. -/
theorem written_eq (h : Lays indent next d fs) (hd : d.isPlain = true) :
    Fragment.written fs = d.flat := by
  induction h with
  | empty => rfl
  | text s => simp [Fragment.written, Document.flat]
  | line => contradiction
  | append _ _ ihf ihs =>
    obtain ⟨hf, hs⟩ := (Bool.and_eq_true ..).mp hd
    rw [Fragment.written_append, ihf hf, ihs hs, Document.flat]
  | nest _ ih => exact ih hd
  | flat body => simp [Fragment.written, Document.flat]
  | broken _ ih => exact ih hd

end Lays

/-- A way to lay documents out within a width, and what it promises. A document that is one group
has the width to itself: it is set on one line if it has room there, and with its breaks taken if
not. -/
structure Renderer where
  fragments : Nat → Document → List Fragment
  lays (width : Nat) (d : Document) : Lays 0 none d (fragments width d)
  fits {width : Nat} {d : Document} (room : d.flatColumns ≤ width) :
    fragments width (.group d) = [.text d.flat]
  exceeds {width : Nat} {d : Document} (wide : width < d.flatColumns) :
    Lays 0 none d (fragments width (.group d))

namespace Document

theorem lays_layout (d : Document) (width indent column after : Nat) (next : Option Nat) :
    Lays indent next d (d.layout width indent column after next).1 := by
  induction d generalizing indent column after next with
  | empty => exact .empty
  | text s => exact .text s
  | line => exact .line
  | append first second ihf ihs => exact .append (ihf ..) (ihs ..)
  | nest depth body ih => exact .nest (ih ..)
  | group body ih =>
    rw [layout]
    split
    · exact .flat body
    · exact .broken (ih ..)

end Document

/-- The layout at hand keeps the laws. -/
def Renderer.standard : Renderer where
  fragments := Document.fragments
  lays width d := d.lays_layout width ..
  fits room := by
    rw [Document.fragments, Document.layout, if_pos (by omega)]
  exceeds wide := by
    rw [Document.fragments, Document.layout, if_neg (by omega)]
    exact Document.lays_layout ..

end Layout

/-- The text with each break, and all spaces after it, as one space. -/
def unbroken (s : String) : String := String.ofList (Layout.unwrap false s.toList)

namespace Layout.Renderer

variable (R : Renderer) {d : Document} {width : Nat}

/-- The text of the document within a width. -/
def text (width : Nat) (d : Document) : String := Fragment.written (R.fragments width d)

theorem text_of_isPlain (h : d.isPlain = true) (width : Nat) : R.text width d = d.flat :=
  (R.lays width d).written_eq h

/-- A group that has room on one line is set there. -/
theorem text_group_of_fits (h : d.flatColumns ≤ width) : R.text width (.group d) = d.flat := by
  rw [text, R.fits h]
  simp [Fragment.written]

/-- The text on one line is got back from the text at any width. -/
theorem unbroken_text (h : d.OneLined) (hspaces : SingleSpaced d.flat.toList) (width : Nat) :
    unbroken (R.text width d) = d.flat := by
  have hlays := R.lays width d
  have hwraps := Fragment.wraps_written (hlays.oneLined_texts h)
  rw [hlays.joined_eq] at hwraps
  rw [unbroken, text, unwrap_of_wraps hwraps hspaces, String.ofList_toList]

end Layout.Renderer

end FormRecovery
