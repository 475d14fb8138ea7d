import FormRecovery.Proofs.Instantiation
import FormRecovery.Proofs.TypeTexts

/-!
Substitution in texts. The text of a template is a text with gaps for its holes: with the names of
the holes in the gaps it is the text of the form, and with the texts of residuals the text of the
type that the form gives for them. A residual is enclosed where a compound type would be.
-/
namespace FormRecovery

open Layout (Renderer)

/-- A piece of the text of a template. -/
inductive Piece where
  | text (s : String)
  /-- An occurrence of a hole, and where it stands. -/
  | gap (h : Hole) (place : Place)
  deriving DecidableEq

namespace Piece

/-- The text with the gaps filled. -/
def plug (filling : Hole → Place → String) : List Piece → String
  | [] => ""
  | text s :: ps => s ++ plug filling ps
  | gap h place :: ps => filling h place ++ plug filling ps

/-- The holes of the gaps, from left to right. -/
def gaps : List Piece → List Hole
  | [] => []
  | text _ :: ps => gaps ps
  | gap h _ :: ps => h :: gaps ps

/-- Parentheses where the place asks for them. -/
def enclose : Place → List Piece → List Piece
  | .free, ps => ps
  | .argument, ps => text "(" :: (ps ++ [text ")"])

variable {filling : Hole → Place → String}

@[simp] theorem plug_append (ps qs : List Piece) :
    plug filling (ps ++ qs) = plug filling ps ++ plug filling qs := by
  induction ps with
  | nil => simp [plug]
  | cons p ps ih => cases p <;> simp [plug, ih, String.append_assoc]

@[simp] theorem plug_enclose (place : Place) (ps : List Piece) :
    plug filling (enclose place ps) = place.enclose (plug filling ps) := by
  cases place <;> simp [enclose, plug, Place.enclose]

@[simp] theorem gaps_append (ps qs : List Piece) : gaps (ps ++ qs) = gaps ps ++ gaps qs := by
  induction ps with
  | nil => rfl
  | cons p ps ih => cases p <;> simp [gaps, ih]

@[simp] theorem gaps_enclose (place : Place) (ps : List Piece) :
    gaps (enclose place ps) = gaps ps := by
  cases place <;> simp [enclose, gaps]

end Piece

namespace Template

variable {s : Store} {u : Template} {residuals : List TypeId} {x : TypeId}

/-- The text of a template with its holes as gaps. A hole that is the head of an application, or the
whole template, stands freely. -/
def pieces (s : Store) : Template → Place → List Piece
  | fixed id, place => [.text ((s.tree id).text place)]
  | hole h, place => [.gap h place]
  | application function argument, place =>
    Piece.enclose place (function.pieces s .free ++ .text " " :: argument.pieces s .argument)

theorem text_fill (s : Store) (trees : Hole → Tree) (u : Template) (place : Place) :
    (u.fill s trees).text place =
      Piece.plug (fun h place => (trees h).text place) (u.pieces s place) := by
  induction u generalizing place with
  | fixed id => simp [fill, pieces, Piece.plug]
  | hole h => simp [fill, pieces, Piece.plug]
  | application f x ihf ihx => simp [fill, Tree.text, pieces, Piece.plug, ihf, ihx]

theorem gaps_pieces (s : Store) (u : Template) (place : Place) :
    Piece.gaps (u.pieces s place) = u.holes := by
  induction u generalizing place with
  | fixed id => rfl
  | hole h => rfl
  | application f x ihf ihx => simp [pieces, Piece.gaps, ihf, ihx]

end Template

/-- What is put in place of a hole, written out. -/
def Store.residualTree (s : Store) (residuals : List TypeId) (h : Hole) : Tree :=
  match residuals[h]? with
  | some r => s.tree r
  | none => .named ""

/-- The text that is put in place of a hole: the printed residual, enclosed if it is an application
and the hole stands as an argument. -/
def Store.residualText (s : Store) (R : Renderer) (width : Nat) (residuals : List TypeId) (h : Hole)
    (place : Place) : String :=
  match residuals[h]? with
  | some r =>
    if place = .argument ∧ (s.split? r).isSome then "(" ++ (s.printBy R width r ++ ")")
    else s.printBy R width r
  | none => ""

/-- What a template gives is the template with the trees of the residuals in place of its holes. -/
theorem Template.tree_of_reconstructs {s : Store} {u : Template} {residuals : List TypeId}
    {x : TypeId} (hs : s.WellFormed) (h : u.reconstructs s residuals x = true) :
    s.tree x = u.fill s (s.residualTree residuals) := by
  induction u generalizing x with
  | fixed id =>
    obtain rfl : id = x := by simpa [reconstructs] using h
    rfl
  | hole k =>
    have hk : residuals[k]? = some x := by simpa [reconstructs] using h
    rw [fill, Store.residualTree, hk]
  | application f a ihf iha =>
    obtain ⟨g, b, hsplit, hg, hb⟩ := reconstructs_application.mp h
    rw [Store.tree_of_application hs ((Store.split?_eq_some_iff ..).mp hsplit), ihf hg, iha hb,
      fill]

namespace Store

variable {s : Store} {x : TypeId} {residuals : List TypeId} {width : Nat}

/-- As an argument exactly an application is enclosed. -/
theorem text_argument (hs : s.WellFormed) (hx : x ∈ s) :
    (s.tree x).text .argument =
      if (s.split? x).isSome then "(" ++ ((s.tree x).text .free ++ ")")
      else (s.tree x).text .free := by
  obtain ⟨shape, hshape⟩ := exists_shape? hx
  cases shape with
  | constructor name =>
    have hsplit : s.split? x = none := by simp [split?, hshape]
    rw [tree_of_constructor hshape, hsplit]
    rfl
  | application f y =>
    rw [tree_of_application hs hshape, (split?_eq_some_iff ..).mpr hshape]
    rfl

theorem text_residualTree (R : Renderer) (hs : s.WellFormed) (hr : ∀ r ∈ residuals, r ∈ s)
    (hfits : ∀ r ∈ residuals, ((s.tree r).document .free).flatColumns ≤ width) (h : Hole)
    (place : Place) :
    (s.residualTree residuals h).text place = s.residualText R width residuals h place := by
  unfold residualTree residualText
  cases hk : residuals[h]? with
  | none => rfl
  | some r =>
    have hmem := List.mem_of_getElem? hk
    have hprint : s.printBy R width r = (s.tree r).text .free := Tree.text_of_fits R (hfits r hmem)
    cases place with
    | free => simp [hprint]
    | argument => simp [hprint, text_argument hs (hr r hmem)]

end Store

/-- At a width that has room for all of them on one line, the text of a form after its binder and
the text of the type that it gives for residuals are one text with the same gaps: in the first the
gaps are filled with the names of the holes, in the second with the texts of the residuals, which
are enclosed exactly if they are applications and stand as arguments. The gaps are the holes of the
form, in order. -/
theorem print_substitutes_residuals (R : Renderer) {s t : Store} {fs : List Form} (hs : s.Yields fs)
    {f : Form} (hf : f ∈ fs) {residuals : List TypeId} (hr : ∀ r ∈ residuals, r ∈ s) {x : TypeId}
    (h : f.instantiate residuals s = .ok x t) {width : Nat}
    (hform : (f.document t).flatColumns ≤ width)
    (htype : ((t.tree x).document .free).flatColumns ≤ width)
    (hresiduals : ∀ r ∈ residuals, ((t.tree r).document .free).flatColumns ≤ width) :
    f.printBy R t width =
      f.binder ++ (" " ++ Piece.plug (fun h _ => holeName h) (f.body.pieces t .free)) ∧
    t.printBy R width x = Piece.plug (t.residualText R width residuals) (f.body.pieces t .free) ∧
    Piece.gaps (f.body.pieces t .free) = f.body.holes := by
  have hvalid := hs.valid f hf
  have hgrows := ((Form.keeps_instantiate hvalid.stored hr).of_ok h).1
  have ht := hgrows.wellFormed hs.reachable.wellFormed
  have hrt : ∀ r ∈ residuals, r ∈ t := fun r hm => Store.mem_of_le hgrows.le (hr r hm)
  have hgives := (Form.reconstructs_iff.mp (Form.reconstructs_of_instantiate hvalid.stored hr h)).2
  refine ⟨?_, ?_, Template.gaps_pieces ..⟩
  · rw [Form.printBy_of_fits R hform, Form.flat_document, Template.text_fill]
    rfl
  · have htexts : (fun h place => (t.residualTree residuals h).text place) =
        t.residualText R width residuals := by
      funext h place
      exact Store.text_residualTree R ht hrt hresiduals h place
    calc t.printBy R width x
      _ = (t.tree x).text .free := Tree.text_of_fits R htype
      _ = (f.body.fill t (t.residualTree residuals)).text .free := by
        rw [Template.tree_of_reconstructs ht hgives]
      _ = Piece.plug (t.residualText R width residuals) (f.body.pieces t .free) := by
        rw [Template.text_fill, htexts]

/-- The form `\a b -> a b`, with its first hole as the head. -/
def Form.ofHoles : Form := ⟨2, .application (.hole 0) (.hole 1)⟩

/-- The form is `a b` after its binder. For `Pair Int` and `Pair Int String` it gives a type with
the first of them as it is and the second enclosed. -/
theorem substituted_pair_int :
    ∃ fs t, Store.pairs.Yields (.ofHoles :: fs) ∧
      Form.ofHoles.instantiate [⟨3⟩, ⟨4⟩] .pairs = .ok ⟨6⟩ t ∧
      Form.ofHoles.print t 26 = Form.ofHoles.binder ++
        (" " ++ Piece.plug (fun h _ => holeName h) [.gap 0 .free, .text " ", .gap 1 .argument]) ∧
      t.print 26 ⟨6⟩ =
        Piece.plug (t.residualText .standard 26 [⟨3⟩, ⟨4⟩])
          [.gap 0 .free, .text " ", .gap 1 .argument] ∧
      t.residualText .standard 26 [⟨3⟩, ⟨4⟩] 0 .free = "Pair Int" ∧
      t.residualText .standard 26 [⟨3⟩, ⟨4⟩] 1 .argument = "(Pair Int String)" := by
  obtain ⟨fs, hfs⟩ := Store.reachable_pairs.exists_yields
  have hrun := hfs.operation (.form 2 (.application (.hole 0) (.hole 1))) ⟨trivial, trivial⟩
  have hafter : (Operation.form 2 (.application (.hole 0) (.hole 1))).after .pairs = .pairs := rfl
  have hmade : (Operation.form 2 (.application (.hole 0) (.hole 1))).made .pairs = [.ofHoles] := by
    decide +kernel
  rw [hafter, hmade] at hrun
  have hgives : Form.ofHoles.instantiate [⟨3⟩, ⟨4⟩] .pairs =
      .ok ⟨6⟩ ((Operation.instantiate .ofHoles [⟨3⟩, ⟨4⟩]).after .pairs) := rfl
  obtain ⟨hform, htype, _⟩ := print_substitutes_residuals .standard hrun List.mem_cons_self
    (by decide +kernel : ∀ r ∈ [(⟨3⟩ : TypeId), ⟨4⟩], r ∈ Store.pairs) hgives
    (by decide +kernel : _ ≤ 26) (by decide +kernel) (by decide +kernel)
  exact ⟨fs, _, hrun, hgives, hform, htype, by decide +kernel, by decide +kernel⟩

end FormRecovery
