import FormRecovery.Proofs.Expansion
import FormRecovery.Proofs.LineBreaks

/-!
The texts of kinds, types and forms, laid out by any renderer. The text of a kind is never broken.
On one line a template is printed as the tree that it is with a tree in place of each hole, one that
only has the name of the hole; so what holds of the texts of trees holds of the texts of templates.
And what is printed are the names declared in the store, the names of holes, parentheses, and the
binder of a form.
-/
namespace FormRecovery

open Layout (Renderer)

/-- What `Kind.print` gives with the renderer in place of the layout at hand; so for types and
forms. -/
def Kind.printBy (R : Renderer) (width : Nat) (k : Kind) : String :=
  R.text width (k.document .free)

def Store.printBy (s : Store) (R : Renderer) (width : Nat) (id : TypeId) : String :=
  R.text width ((s.tree id).document .free)

def Form.printBy (R : Renderer) (s : Store) (width : Nat) (f : Form) : String :=
  R.text width (f.document s)

/-- Parentheses where the place asks for them. -/
def Place.enclose : Place → String → String
  | free, s => s
  | argument, s => "(" ++ (s ++ ")")

/-- A kind in words: the result follows its parameter after an arrow. -/
def Kind.text : Kind → Place → String
  | proper, _ => "Type"
  | arrow parameter result, place =>
    place.enclose (parameter.text .argument ++ (" -> " ++ result.text .free))

/-- A type on one line: the argument follows its function after a space. -/
def Tree.text : Tree → Place → String
  | named name, _ => name
  | applied function argument, place =>
    place.enclose (function.text .free ++ (" " ++ argument.text .argument))

/-- A tree that is only the name of a hole. -/
def Tree.ofHole (h : Hole) : Tree := .named (holeName h)

/-- What is said of names holds of all names in the tree. -/
def Tree.All (p : String → Prop) : Tree → Prop
  | named name => p name
  | applied function argument => function.All p ∧ argument.All p

/-- A template with a tree in place of each hole. -/
def Template.fill (s : Store) (trees : Hole → Tree) : Template → Tree
  | fixed id => s.tree id
  | hole h => trees h
  | application function argument => .applied (function.fill s trees) (argument.fill s trees)

def Shape.name? : Shape → Option String
  | constructor name => some name
  | application _ _ => none

/-- The names of the constructors that are declared. -/
def Store.names (s : Store) : List String := s.entries.toList.filterMap (·.shape.name?)

/-- What is said of texts holds of those that are printed besides names. -/
structure HoldsOfMarks (p : String → Prop) : Prop where
  opening : p "("
  closing : p ")"
  hole : ∀ h, p (holeName h)
  binder : p "\\a ->"
  binders : p "\\a b ->"

/-- What is said of the letters from `a` to `z` holds of the names of holes. -/
theorem forall_holeName {p : String → Prop}
    (hall : ∀ k < 26, p (String.singleton (Char.ofNat ('a'.toNat + k)))) (h : Hole) :
    p (holeName h) :=
  hall (h % 26) (Nat.mod_lt h (by decide))

theorem marks_oneLined : HoldsOfMarks fun s => '\n' ∉ s.toList where
  opening := by decide
  closing := by decide
  hole := forall_holeName (p := fun s => '\n' ∉ s.toList) (by decide)
  binder := by decide
  binders := by decide

namespace Layout

open Document

variable {p : String → Prop} {place : Place} {head d : Document} {ds : List Document}

theorem flat_enclose (place : Place) (d : Document) :
    (enclose place d).flat = place.enclose d.flat := by
  cases place <;> rfl

theorem flat_broken_concat (ds : List Document) (d : Document) :
    (broken (ds ++ [d])).flat = (broken ds).flat ++ (" " ++ d.flat) := by
  induction ds with
  | nil => simp [broken, flat]
  | cons e ds ih => simp [broken, flat, ih, String.append_assoc]

theorem flat_application_free (head : Document) (ds : List Document) :
    (application .free head ds).flat = head.flat ++ (broken ds).flat := by
  cases ds with
  | nil => simp [application, broken, flat]
  | cons d ds => rfl

/-- On one line the last argument stands after all that comes before it. -/
theorem flat_application_concat (place : Place) (head : Document) (ds : List Document)
    (d : Document) :
    (application place head (ds ++ [d])).flat =
      place.enclose ((application .free head ds).flat ++ (" " ++ d.flat)) := by
  rw [application, if_neg (by simp), flat_enclose, flat_application_free]
  simp only [flat, flat_append, flat_broken_concat, String.append_assoc]

theorem breaks_broken (h : ds ≠ []) : (broken ds).breaks = true := by
  cases ds with
  | nil => contradiction
  | cons d ds => rfl

theorem all_broken (h : ∀ d ∈ ds, d.All p) : (broken ds).All p := by
  induction ds with
  | nil => simp [broken, All, texts]
  | cons d ds ih =>
    rw [List.forall_mem_cons] at h
    refine all_append.mpr ⟨?_, all_append.mpr ⟨h.1, ih h.2⟩⟩
    simp [All, texts]

theorem all_application (hp : HoldsOfMarks p) (hhead : head.All p) (h : ∀ d ∈ ds, d.All p) :
    (application place head ds).All p := by
  have hbody : (group (head ++ nest 2 (broken ds))).All p := all_append.mpr ⟨hhead, all_broken h⟩
  unfold application
  split
  · exact hhead
  · cases place with
    | free => exact hbody
    | argument =>
      exact all_append.mpr ⟨all_text.mpr hp.opening,
        all_append.mpr ⟨hbody, all_text.mpr hp.closing⟩⟩

end Layout

open Layout Document

namespace Kind

theorem isPlain_document (k : Kind) (place : Place) : (k.document place).isPlain = true := by
  induction k generalizing place with
  | proper => rfl
  | arrow parameter result ihp ihr =>
    cases place <;> simp [Kind.document, enclose, parenthesized, isPlain, ihp, ihr]

theorem flat_document (k : Kind) (place : Place) : (k.document place).flat = k.text place := by
  induction k generalizing place with
  | proper => rfl
  | arrow parameter result ihp ihr =>
    rw [Kind.document, flat_enclose, flat_append, flat_append, ihp, ihr]
    rfl

/-- A kind is printed as its text at every width. -/
theorem printBy_eq (R : Renderer) (k : Kind) (width : Nat) : k.printBy R width = k.text .free := by
  rw [printBy, R.text_of_isPlain (k.isPlain_document .free), flat_document]

end Kind

namespace Tree

variable {p : String → Prop} {t : Tree}

/-- On one line the document of a type is its text. -/
theorem flat_document (t : Tree) (place : Place) : (t.document place).flat = t.text place := by
  induction t generalizing place with
  | named name => rfl
  | applied f x ihf ihx =>
    have hf : (Layout.application .free (.text f.head) f.arguments).flat = f.text .free := ihf .free
    have hx : (Layout.application .argument (.text x.head) x.arguments).flat = x.text .argument :=
      ihx .argument
    rw [document, arguments, head, flat_application_concat, hf, hx, text]

/-- An application by itself is a group with a break before each argument. -/
theorem exists_group (f x : Tree) :
    ∃ d, (applied f x).document .free = .group d ∧ d.breaks = true := by
  refine ⟨_, if_neg (by simp [arguments]), ?_⟩
  simp [breaks, breaks_broken, arguments]

/-- A type that has room on one line is set there. -/
theorem text_of_fits (R : Renderer) {width : Nat} (h : (t.document .free).flatColumns ≤ width) :
    R.text width (t.document .free) = t.text .free := by
  rw [← flat_document]
  cases t with
  | named name => exact R.text_of_isPlain rfl width
  | applied f x =>
    obtain ⟨d, hd, _⟩ := exists_group f x
    rw [hd] at h ⊢
    exact R.text_group_of_fits h

theorem All.head (h : t.All p) : p t.head := by
  induction t with
  | named name => exact h
  | applied f x ihf _ => exact ihf h.1

theorem All.arguments (hp : HoldsOfMarks p) (h : t.All p) : ∀ d ∈ t.arguments, d.All p := by
  induction t with
  | named name => simp [Tree.arguments]
  | applied f x ihf ihx =>
    rw [Tree.arguments, List.forall_mem_append, List.forall_mem_singleton]
    exact ⟨ihf h.1, all_application hp (all_text.mpr h.2.head) (ihx h.2)⟩

theorem All.document (hp : HoldsOfMarks p) (h : t.All p) (place : Place) :
    (t.document place).All p :=
  all_application hp (all_text.mpr h.head) (h.arguments hp)

/-- Names that are words make a text of words with one space between them. -/
theorem compact_text (h : t.All fun name => name ≠ "" ∧ ' ' ∉ name.toList) (place : Place) :
    Compact (t.text place).toList := by
  induction t generalizing place with
  | named name => exact compact_word (by simpa [text] using h.1) h.2
  | applied f x ihf ihx =>
    have hbody : Compact (f.text .free ++ (" " ++ x.text .argument)).toList := by
      simpa using (ihf h.1 .free).join (ihx h.2 .argument)
    rw [text]
    cases place with
    | free => exact hbody
    | argument => simpa [Place.enclose] using hbody.parenthesized

end Tree

theorem Store.mem_names {s : Store} {id : TypeId} {name : String}
    (h : s.shape? id = some (.constructor name)) : name ∈ s.names := by
  obtain ⟨e, he, hshape⟩ := Option.map_eq_some_iff.mp h
  have hmem := Array.mem_toList_iff.mpr (Array.mem_of_getElem? he)
  exact List.mem_filterMap.mpr ⟨e, hmem, by rw [hshape]; rfl⟩

theorem Store.all_tree {s : Store} {p : String → Prop} (hs : s.WellFormed)
    (hnames : ∀ name ∈ s.names, p name) {x : TypeId} (hx : x ∈ s) : (s.tree x).All p := by
  induction hn : x.index using Nat.strongRecOn generalizing x with
  | ind n ih =>
    obtain ⟨shape, hshape⟩ := exists_shape? hx
    cases shape with
    | constructor name =>
      rw [tree_of_constructor hshape]
      exact hnames name (mem_names hshape)
    | application f y =>
      have hlt := hs.earlier x f y hshape
      have hm := hs.sides_mem hshape
      rw [tree_of_application hs hshape]
      exact ⟨ih f.index (hn ▸ hlt.1) hm.1 rfl, ih y.index (hn ▸ hlt.2) hm.2 rfl⟩

/-- The text of a type on one line is got back from the text at any width. -/
theorem Store.unbroken_printBy (R : Renderer) {s : Store} (hs : s.WellFormed)
    (hlines : ∀ name ∈ s.names, '\n' ∉ name.toList)
    (hwords : ∀ name ∈ s.names, name ≠ "" ∧ ' ' ∉ name.toList) {x : TypeId} (hx : x ∈ s)
    (width : Nat) : unbroken (s.printBy R width x) = (s.tree x).text .free := by
  rw [← Tree.flat_document]
  refine R.unbroken_text ((all_tree hs hlines hx).document marks_oneLined .free) ?_ width
  rw [Tree.flat_document]
  exact (Tree.compact_text (all_tree hs hwords hx) .free).singleSpaced

namespace Template

variable {s : Store} {p : String → Prop} {u : Template}

/-- On one line the document of a template is the text of the template with names for its holes. -/
theorem flat_document (s : Store) (u : Template) (place : Place) :
    (u.document s place).flat = (u.fill s .ofHole).text place := by
  induction u generalizing place with
  | fixed id => exact (s.tree id).flat_document place
  | hole h => rfl
  | application f x ihf ihx =>
    have hf : (Layout.application .free (f.head s .free) (f.arguments s)).flat =
        (f.fill s .ofHole).text .free := ihf .free
    have hx : (Layout.application .argument (x.head s .argument) (x.arguments s)).flat =
        (x.fill s .ofHole).text .argument := ihx .argument
    rw [document, arguments, head, flat_application_concat, hf, hx, fill, Tree.text]

section

variable (hs : s.WellFormed) (hnames : ∀ name ∈ s.names, p name) (hu : u.Over s)

include hs hnames hu

theorem all_fill {trees : Hole → Tree} (htrees : ∀ h, (trees h).All p) :
    (u.fill s trees).All p := by
  induction u with
  | fixed id => exact Store.all_tree hs hnames hu
  | hole h => exact htrees h
  | application f x ihf ihx => exact ⟨ihf hu.1, ihx hu.2⟩

theorem all_head (hp : HoldsOfMarks p) (place : Place) : (u.head s place).All p := by
  induction u generalizing place with
  | fixed id => exact (Store.all_tree hs hnames hu).document hp place
  | hole h => exact all_text.mpr (hp.hole h)
  | application f x ihf _ => exact ihf hu.1 .free

theorem all_arguments (hp : HoldsOfMarks p) : ∀ d ∈ u.arguments s, d.All p := by
  induction u with
  | fixed id => simp [arguments]
  | hole h => simp [arguments]
  | application f x ihf ihx =>
    rw [arguments, List.forall_mem_append, List.forall_mem_singleton]
    exact ⟨ihf hu.1, all_application hp (all_head hs hnames hu.2 hp .argument) (ihx hu.2)⟩

theorem all_document (hp : HoldsOfMarks p) (place : Place) : (u.document s place).All p :=
  all_application hp (all_head hs hnames hu hp place) (all_arguments hs hnames hu hp)

end

end Template

namespace Form

variable {s : Store} {f : Form}

/-- On one line a form is its binder and, after a space, its body with names for the holes. -/
theorem flat_document (s : Store) (f : Form) :
    (f.document s).flat = f.binder ++ (" " ++ (f.body.fill s .ofHole).text .free) := by
  rw [← Template.flat_document]
  rfl

/-- A form that has room on one line is set there. -/
theorem printBy_of_fits (R : Renderer) {width : Nat} (h : (f.document s).flatColumns ≤ width) :
    f.printBy R s width = (f.document s).flat := R.text_group_of_fits h

theorem binder_cases (hf : f.Valid s) :
    f.arity = 1 ∧ f.binder = "\\a ->" ∨ f.arity = 2 ∧ f.binder = "\\a b ->" := by
  unfold binder
  rcases hf.arity_eq with h | h
  · exact .inl ⟨h, by rw [h]; decide⟩
  · exact .inr ⟨h, by rw [h]; decide⟩

theorem all_document {p : String → Prop} (hs : s.WellFormed) (hnames : ∀ name ∈ s.names, p name)
    (hf : f.Valid s) (hp : HoldsOfMarks p) : (f.document s).All p := by
  have hbinder : p f.binder := by
    rcases binder_cases hf with ⟨_, h⟩ | ⟨_, h⟩
    · exact h ▸ hp.binder
    · exact h ▸ hp.binders
  refine all_append.mpr ⟨all_text.mpr hbinder, all_append.mpr ⟨?_, ?_⟩⟩
  · simp [All, texts]
  · exact Template.all_document hs hnames hf.stored hp .free

theorem compact_flat (hs : s.WellFormed) (hnames : ∀ name ∈ s.names, name ≠ "" ∧ ' ' ∉ name.toList)
    (hf : f.Valid s) : Compact (f.document s).flat.toList := by
  have hholes : ∀ h, (Tree.ofHole h).All fun name => name ≠ "" ∧ ' ' ∉ name.toList :=
    forall_holeName (p := fun name => name ≠ "" ∧ ' ' ∉ name.toList) (by decide)
  have hbody := Tree.compact_text (Template.all_fill hs hnames hf.stored hholes) .free
  have hbinder : Compact f.binder.toList := by
    rcases binder_cases hf with ⟨_, h⟩ | ⟨_, h⟩ <;> rw [h]
    · exact (compact_word (t := ['\\', 'a']) (by decide) (by decide)).join
        (compact_word (t := ['-', '>']) (by decide) (by decide))
    · exact (compact_word (t := ['\\', 'a']) (by decide) (by decide)).join
        ((compact_word (t := ['b']) (by decide) (by decide)).join
          (compact_word (t := ['-', '>']) (by decide) (by decide)))
  simpa [flat_document] using hbinder.join hbody

/-- The text of a form on one line is got back from the text at any width. -/
theorem unbroken_printBy (R : Renderer) (hs : s.WellFormed)
    (hlines : ∀ name ∈ s.names, '\n' ∉ name.toList)
    (hwords : ∀ name ∈ s.names, name ≠ "" ∧ ' ' ∉ name.toList) (hf : f.Valid s) (width : Nat) :
    unbroken (f.printBy R s width) = (f.document s).flat :=
  R.unbroken_text (all_document hs hlines hf marks_oneLined)
    (compact_flat hs hwords hf).singleSpaced width

end Form

end FormRecovery
