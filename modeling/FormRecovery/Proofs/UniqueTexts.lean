import FormRecovery.Proofs.CanonicalKeys
import FormRecovery.Proofs.TypeTexts

/-!
What a text says. The text of a kind determines the kind. Where names are words without parentheses,
the text of a type determines the type, at whatever width it was printed, and the text of a form the
form. A kind is read from the front, where its parameter ends before an arrow; a type is read from
the back, where its last argument begins after a space.
-/
namespace FormRecovery

open Layout

namespace Kind

/-- What may follow a kind that stands by itself: nothing, or the parenthesis around it. -/
def Closes (rest : List Char) : Prop := ∀ c ∈ rest.head?, c = ')'

variable {k k' parameter parameter' result result' : Kind} {place : Place} {rest rest' : List Char}

theorem proper_append_ne (hrest : place = .free → Closes rest) :
    (proper.text place).toList ++ rest ≠ ((arrow parameter result).text place).toList ++ rest' := by
  intro h
  cases place with
  | argument => simp [text, Place.enclose] at h
  | free =>
    cases parameter with
    | arrow p r => simp [text, Place.enclose] at h
    | proper =>
      obtain rfl : rest = " -> ".toList ++ ((result.text .free).toList ++ rest') := by
        simpa [text, Place.enclose] using h
      exact absurd (hrest rfl ' ' rfl) (by decide)

/-- The text of a kind determines the kind and where it ends. -/
theorem text_append_injective (hrest : place = .free → Closes rest)
    (hrest' : place = .free → Closes rest')
    (h : (k.text place).toList ++ rest = (k'.text place).toList ++ rest') :
    k = k' ∧ rest = rest' := by
  induction k generalizing k' place rest rest' with
  | proper =>
    cases k' with
    | proper => exact ⟨rfl, List.append_cancel_left h⟩
    | arrow p' r' => exact absurd h (proper_append_ne hrest)
  | arrow p r ihp ihr =>
    cases k' with
    | proper => exact absurd h.symm (proper_append_ne hrest')
    | arrow p' r' =>
      have hsides : ∀ {rest rest' : List Char}, Closes rest → Closes rest' →
          (p.text .argument).toList ++ (" -> ".toList ++ ((r.text .free).toList ++ rest)) =
            (p'.text .argument).toList ++ (" -> ".toList ++ ((r'.text .free).toList ++ rest')) →
          arrow p r = arrow p' r' ∧ rest = rest' := by
        intro rest rest' hrest hrest' h
        -- a parameter is enclosed if it is compound, so that anything may follow it
        have hany : ∀ t, Place.argument = .free → Closes t := nofun
        obtain ⟨hp, hafter⟩ := ihp (hany _) (hany _) h
        have hresult := List.append_cancel_left hafter
        obtain ⟨hr, hend⟩ := ihr (fun _ => hrest) (fun _ => hrest') hresult
        exact ⟨by rw [hp, hr], hend⟩
      cases place with
      | free => exact hsides (hrest rfl) (hrest' rfl) (by simpa [text, Place.enclose] using h)
      | argument =>
        have hclose : ∀ t, Closes (')' :: t) := by simp [Closes]
        obtain ⟨hk, hclosed⟩ :=
          hsides (hclose rest) (hclose rest') (by simpa [text, Place.enclose] using h)
        exact ⟨hk, (List.cons.inj hclosed).2⟩

theorem text_injective (h : k.text .free = k'.text .free) : k = k' := by
  have hend : Place.free = .free → Closes [] := by simp [Closes]
  exact (text_append_injective hend hend (by rw [h])).1

end Kind

/-- The text of a kind is `Type`, or the parameter, an arrow and the result, with parentheses around
exactly a parameter that is itself a function. Different kinds have different texts, whatever the
widths and the renderer. -/
theorem kind_texts_are_unambiguous (R : Renderer) :
    (∀ width, Kind.proper.printBy R width = "Type") ∧
    (∀ width parameter result, (Kind.arrow parameter result).printBy R width =
      (if parameter = .proper then parameter.printBy R width
        else "(" ++ (parameter.printBy R width ++ ")")) ++ (" -> " ++ result.printBy R width)) ∧
    ∀ width width' k k', Kind.printBy R width k = Kind.printBy R width' k' ↔ k = k' := by
  refine ⟨Kind.printBy_eq R .proper, ?_, ?_⟩
  · intro width parameter result
    simp only [Kind.printBy_eq]
    cases parameter <;> rfl
  · intro width width' k k'
    rw [Kind.printBy_eq, Kind.printBy_eq]
    constructor
    · exact Kind.text_injective
    · rintro rfl
      rfl

example : (Kind.arrow (.ofArity 1) (.ofArity 1)).print 10 = "(Type -> Type) -> Type -> Type" := by
  decide +kernel

/-- Names that are words without parentheses. -/
def Readable (name : String) : Prop :=
  name ≠ "" ∧ ∀ c ∈ name.toList, c.isWhitespace = false ∧ c ≠ '(' ∧ c ≠ ')'

instance (name : String) : Decidable (Readable name) :=
  decidable_of_iff (name ≠ "" ∧ name.toList.all fun c => !c.isWhitespace && c != '(' && c != ')')
    (by simp [Readable, and_assoc])

namespace Readable

variable {name : String} {u v : List Char}

theorem not_mem {c : Char} (h : Readable name) (hc : c.isWhitespace = true ∨ c = '(' ∨ c = ')') :
    c ∉ name.toList := by
  intro hmem
  obtain ⟨hspace, hopen, hclose⟩ := h.2 c hmem
  rcases hc with hc | hc | hc
  · rw [hspace] at hc
    contradiction
  · exact hopen hc
  · exact hclose hc

/-- A name does not end with a closing parenthesis. -/
theorem append_ne_closed (h : Readable name) : u ++ name.toList ≠ v ++ [')'] := by
  intro heq
  obtain ⟨w, c, hname⟩ : ∃ w c, name.toList = w ++ [c] :=
    ⟨_, _, (List.dropLast_append_getLast (by simpa using h.1)).symm⟩
  rw [hname, ← List.append_assoc] at heq
  obtain rfl : c = ')' := by simpa using (List.append_inj' heq rfl).2
  exact h.not_mem (.inr (.inr rfl)) (by simp [hname])

end Readable

/-- Two words at the end of a text are one if neither continues what stands before the other. -/
theorem append_word_injective {u v n m : List Char} (hu : ∀ c ∈ u.getLast?, c ∉ m)
    (hv : ∀ c ∈ v.getLast?, c ∉ n) (h : u ++ n = v ++ m) : u = v ∧ n = m := by
  have hnil : ∀ {k w l : List Char}, (∀ c ∈ (w ++ k).getLast?, c ∉ k ++ l) → k = [] := by
    intro k w l hlast
    by_contra hne
    refine hlast (k.getLast hne) ?_ (List.mem_append_left _ (List.getLast_mem hne))
    rw [List.getLast?_append_of_ne_nil _ hne, List.getLast?_eq_some_getLast hne]
    rfl
  rcases List.append_eq_append_iff.mp h with ⟨k, rfl, rfl⟩ | ⟨k, rfl, rfl⟩
  · obtain rfl := hnil hv
    simp
  · obtain rfl := hnil hu
    simp

namespace Tree

/-- What stands before a type: nothing or a parenthesis if it is by itself, a space if it is an
argument. -/
def Opens : Place → List Char → Prop
  | .free, u => ∀ c ∈ u.getLast?, c = '('
  | .argument, u => u.getLast? = some ' '

variable {t t' f g x y : Tree} {name : String} {place : Place} {u v : List Char}

theorem Opens.not_mem (h : Opens place u) (hname : Readable name) :
    ∀ c ∈ u.getLast?, c ∉ name.toList := by
  cases place with
  | free =>
    intro c hc
    rw [h c hc]
    exact hname.not_mem (.inr (.inl rfl))
  | argument =>
    intro c hc
    rw [Option.some.inj (hc.symm.trans h)]
    exact hname.not_mem (.inl rfl)

/-- The last argument of a type is written after a space. -/
theorem toList_text_applied (f x : Tree) : ((applied f x).text .free).toList =
    ((f.text .free).toList ++ [' ']) ++ (x.text .argument).toList := by
  simp [text, Place.enclose]

theorem toList_text_enclosed (f x : Tree) : ((applied f x).text .argument).toList =
    '(' :: (((applied f x).text .free).toList ++ [')']) := by
  simp [text, Place.enclose]

theorem opens_argument (u : List Char) : Opens .argument (u ++ [' ']) := List.getLast?_concat

theorem opens_enclosed (u : List Char) : Opens .free (u ++ ['(']) := by
  simp [Opens]

/-- A name is not read as an application. -/
theorem named_append_ne (hname : Readable name) (ht : (applied f x).All Readable)
    (hu : Opens place u) (hv : Opens place v) :
    u ++ name.toList ≠ v ++ ((applied f x).text place).toList := by
  intro h
  cases place with
  | argument =>
    rw [toList_text_enclosed, ← List.cons_append, ← List.append_assoc] at h
    exact hname.append_ne_closed h
  | free =>
    rw [toList_text_applied, ← List.append_assoc, ← List.append_assoc] at h
    cases x with
    | applied g y =>
      rw [toList_text_enclosed, ← List.cons_append, ← List.append_assoc] at h
      exact hname.append_ne_closed h
    | named name' =>
      -- the two names would be one, but a space stands before the second
      have hspace := opens_argument (v ++ (f.text .free).toList)
      obtain ⟨rfl, _⟩ := append_word_injective (hu.not_mem ht.2) (hspace.not_mem hname) h
      exact absurd (hu ' ' hspace) (by decide)

/-- The text of a type determines the type and where it begins. -/
theorem append_text_injective (ht : t.All Readable) (ht' : t'.All Readable) (hu : Opens place u)
    (hv : Opens place v) (h : u ++ (t.text place).toList = v ++ (t'.text place).toList) :
    u = v ∧ t = t' := by
  induction t generalizing t' place u v with
  | named name =>
    cases t' with
    | named name' =>
      obtain ⟨huv, hname⟩ := append_word_injective (hu.not_mem ht') (hv.not_mem ht) h
      exact ⟨huv, by rw [String.toList_inj.mp hname]⟩
    | applied g y => exact absurd h (named_append_ne ht ht' hu hv)
  | applied f x ihf ihx =>
    cases t' with
    | named name' => exact absurd h.symm (named_append_ne ht' ht hv hu)
    | applied g y =>
      have hfree : ∀ {u v : List Char}, Opens .free u → Opens .free v →
          u ++ ((applied f x).text .free).toList = v ++ ((applied g y).text .free).toList →
          u = v ∧ applied f x = applied g y := by
        intro u v hu hv h
        rw [toList_text_applied, toList_text_applied, ← List.append_assoc, ← List.append_assoc,
          ← List.append_assoc, ← List.append_assoc] at h
        obtain ⟨hbefore, hx⟩ := ihx ht.2 ht'.2 (opens_argument _) (opens_argument _) h
        obtain ⟨huv, hf⟩ := ihf ht.1 ht'.1 hu hv (List.append_cancel_right hbefore)
        exact ⟨huv, by rw [hf, hx]⟩
      cases place with
      | free => exact hfree hu hv h
      | argument =>
        rw [toList_text_enclosed, toList_text_enclosed, ← List.cons_append, ← List.cons_append,
          ← List.append_assoc, ← List.append_assoc] at h
        have hinner := List.append_cancel_right h
        rw [List.append_cons, List.append_cons v] at hinner
        obtain ⟨huv, heq⟩ := hfree (opens_enclosed u) (opens_enclosed v) hinner
        exact ⟨List.append_cancel_right huv, heq⟩

theorem text_injective (ht : t.All Readable) (ht' : t'.All Readable)
    (h : t.text .free = t'.text .free) : t = t' := by
  have hstart : Opens .free [] := by simp [Opens]
  exact (append_text_injective ht ht' hstart hstart (by rw [h])).2

end Tree

/-- The tree with the names of the first two holes read as these holes. -/
def Expansion.ofTree : Tree → Expansion
  | .named name => if name = "a" then .hole 0 else if name = "b" then .hole 1 else .named name
  | .applied function argument => .applied (ofTree function) (ofTree argument)

theorem Expansion.ofTree_eq {t : Tree} (h : t.All fun name => name ≠ "a" ∧ name ≠ "b") :
    ofTree t = t.expansion := by
  induction t with
  | named name => rw [ofTree, if_neg h.1, if_neg h.2, Tree.expansion]
  | applied f x ihf ihx => rw [ofTree, ihf h.1, ihx h.2, Tree.expansion]

/-- Where no type has the name of a hole, the text of a template says where its holes are. -/
theorem Template.ofTree_fill {s : Store} (hs : s.WellFormed)
    (hnames : ∀ name ∈ s.names, name ≠ "a" ∧ name ≠ "b") {u : Template} (hu : u.Over s)
    (hholes : ∀ h ∈ u.holes, h < 2) : Expansion.ofTree (u.fill s .ofHole) = u.expand s := by
  induction u with
  | fixed id => exact Expansion.ofTree_eq (Store.all_tree hs hnames hu)
  | hole h =>
    have hlt := hholes h (List.mem_singleton.mpr rfl)
    rcases Nat.le_one_iff_eq_zero_or_eq_one.mp (Nat.le_of_lt_succ hlt) with rfl | rfl
    · rfl
    · rfl
  | application f x ihf ihx =>
    rw [holes_application, List.forall_mem_append] at hholes
    rw [fill, Expansion.ofTree, ihf hu.1 hholes.1, ihx hu.2 hholes.2, expand]

namespace Form

variable {s : Store} {f g : Form}

/-- The text of a form has the number of its holes in front, and then the text of its body. -/
theorem flat_injective (hf : f.Valid s) (hg : g.Valid s)
    (h : (f.document s).flat = (g.document s).flat) :
    f.arity = g.arity ∧
      (f.body.fill s .ofHole).text .free = (g.body.fill s .ofHole).text .free := by
  have hchars := congrArg String.toList h
  simp only [flat_document, String.toList_append] at hchars
  have harity : f.arity = g.arity := by
    rcases binder_cases hf with ⟨haf, hbf⟩ | ⟨haf, hbf⟩ <;>
      rcases binder_cases hg with ⟨hag, hbg⟩ | ⟨hag, hbg⟩
    · exact haf.trans hag.symm
    · simp [hbf, hbg] at hchars
    · simp [hbf, hbg] at hchars
    · exact haf.trans hag.symm
  have hbinder : f.binder = g.binder := by rw [binder, binder, harity]
  rw [hbinder] at hchars
  exact ⟨harity, String.toList_inj.mp (List.append_cancel_left (List.append_cancel_left hchars))⟩

theorem readable_fill (hs : s.WellFormed) (hnames : ∀ name ∈ s.names, Readable name)
    (hf : f.Valid s) : (f.body.fill s .ofHole).All Readable :=
  Template.all_fill hs hnames hf.stored (forall_holeName (p := Readable) (by decide))

end Form

/-- Where names are words without parentheses, the text of a type determines the type, and if no
name is one of the names of holes, the text of a form determines the form. The widths that the texts
were printed at do not matter: lines are joined before the texts are compared. Any renderer will
do. -/
theorem texts_are_unambiguous (R : Renderer) {s : Store} {fs : List Form} (hs : s.Yields fs)
    (hnames : ∀ name ∈ s.names, Readable name) :
    (∀ x ∈ s, ∀ y ∈ s, ∀ width width',
      unbroken (s.printBy R width x) = unbroken (s.printBy R width' y) → x = y) ∧
    ((∀ name ∈ s.names, name ≠ "a" ∧ name ≠ "b") → ∀ f ∈ fs, ∀ g ∈ fs, ∀ width width',
      unbroken (f.printBy R s width) = unbroken (g.printBy R s width') → f = g) := by
  have hwell := hs.reachable.wellFormed
  have hlines : ∀ name ∈ s.names, '\n' ∉ name.toList :=
    fun name h => (hnames name h).not_mem (.inl rfl)
  have hwords : ∀ name ∈ s.names, name ≠ "" ∧ ' ' ∉ name.toList := fun name h =>
    ⟨(hnames name h).1, (hnames name h).not_mem (.inl rfl)⟩
  constructor
  · intro x hx y hy width width' h
    rw [Store.unbroken_printBy R hwell hlines hwords hx,
      Store.unbroken_printBy R hwell hlines hwords hy] at h
    exact Store.tree_injective hwell hx hy
      (Tree.text_injective (Store.all_tree hwell hnames hx) (Store.all_tree hwell hnames hy) h)
  · intro hholes f hf g hg width width' h
    have hfv := hs.valid f hf
    have hgv := hs.valid g hg
    rw [Form.unbroken_printBy R hwell hlines hwords hfv,
      Form.unbroken_printBy R hwell hlines hwords hgv] at h
    obtain ⟨harity, htext⟩ := Form.flat_injective hfv hgv h
    have hfill := Tree.text_injective (Form.readable_fill hwell hnames hfv)
      (Form.readable_fill hwell hnames hgv) htext
    refine (hfv.eq_iff hwell hgv).mpr ⟨harity, ?_⟩
    have htwo : ∀ {e : Form}, e.Valid s → ∀ k ∈ e.body.holes, k < 2 := by
      intro e he k hk
      have harity : e.arity ≤ 2 := by
        have := he.arity_eq
        omega
      exact Nat.lt_of_lt_of_le (he.holes_lt k hk) harity
    rw [← Template.ofTree_fill hwell hholes hfv.stored (htwo hfv),
      ← Template.ofTree_fill hwell hholes hgv.stored (htwo hgv), hfill]

/-- The texts of `Pair Int String` and `Pair Int Int` differ at all widths, and so do those of
`\a -> Pair Int a` and `\a -> Pair Int String`. -/
theorem texts_of_pairs_differ :
    ∃ fs, Store.pairs.Yields (.ofConstructor ⟨3⟩ :: .constant ⟨4⟩ :: fs) ∧
      (∀ name ∈ Store.pairs.names, Readable name) ∧
      (∀ name ∈ Store.pairs.names, name ≠ "a" ∧ name ≠ "b") ∧
      (∀ width width',
        unbroken (Store.pairs.print width ⟨4⟩) ≠ unbroken (Store.pairs.print width' ⟨5⟩)) ∧
      ∀ width width', unbroken ((Form.ofConstructor ⟨3⟩).print .pairs width) ≠
        unbroken ((Form.constant ⟨4⟩).print .pairs width') := by
  obtain ⟨fs, hfs⟩ := Store.reachable_pairs.exists_yields
  have hpair : ⟨4⟩ ∈ Store.pairs := by decide +kernel
  have hpartial : ⟨3⟩ ∈ Store.pairs := by decide +kernel
  have hrun := (hfs.constant hpair).ofConstructor hpartial
  have hnames : ∀ name ∈ Store.pairs.names, Readable name := by decide +kernel
  have hholes : ∀ name ∈ Store.pairs.names, name ≠ "a" ∧ name ≠ "b" := by decide +kernel
  obtain ⟨htypes, hforms⟩ := texts_are_unambiguous .standard hrun hnames
  refine ⟨fs, hrun, hnames, hholes, ?_, ?_⟩
  · intro width width' h
    exact absurd (htypes ⟨4⟩ hpair ⟨5⟩ (by decide +kernel) width width' h) (by decide)
  · intro width width' h
    exact absurd (hforms hholes _ List.mem_cons_self _
      (List.mem_cons_of_mem _ List.mem_cons_self) width width' h) (by decide)

end FormRecovery
