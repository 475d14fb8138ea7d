import FormRecovery.Proofs.CanonicalKeys
import FormRecovery.Proofs.Coercions
import FormRecovery.Proofs.Permanence

/-!
Putting residuals into a template, by kinds. What a template gives for residuals is stored again
without a change. For other residuals of the same kinds it succeeds and gives a type of the same
kind; a template that starts with a closed type fixes the kinds of its residuals, so that for others
it fails.
-/
namespace FormRecovery

/-- The residuals of both lists for the hole are there and have one kind. -/
def Store.AgreesAt (s : Store) (residuals others : List TypeId) (h : Hole) : Prop :=
  ∃ a b, residuals[h]? = some a ∧ others[h]? = some b ∧ s.kind a = s.kind b

theorem Store.agreesAt_of_kinds {s : Store} {residuals others : List TypeId}
    (hkinds : others.map s.kind = residuals.map s.kind) {h : Hole} (hh : h < residuals.length) :
    s.AgreesAt residuals others h := by
  have hlength : others.length = residuals.length := by simpa using congrArg List.length hkinds
  have hkind := congrArg (·[h]?) hkinds
  have hh' : h < others.length := hlength ▸ hh
  refine ⟨_, _, List.getElem?_eq_getElem hh, List.getElem?_eq_getElem hh', ?_⟩
  simpa [hh, hh', eq_comm] using hkind

namespace Interning

variable {s t : Store} {f x y : TypeId}

/-- A stored application is given back as it is. -/
theorem apply_of_split? (hs : s.WellFormed) (h : s.split? y = some (f, x)) :
    apply f x s = .ok y s := by
  rw [Store.split?_eq_some_iff, ← hs.lookup_eq_some_iff] at h
  simp [apply, h]

/-- An application that is stored fits by kind. -/
theorem kind_of_apply (hs : s.WellFormed) (hf : f ∈ s) (hx : x ∈ s) (h : apply f x s = .ok y t) :
    s.kind f = .arrow (s.kind x) (t.kind y) := by
  obtain ⟨hgrows, hshape⟩ := (keeps_apply hf hx).of_ok h
  rw [← Store.kind_of_le hgrows.le hf, ← Store.kind_of_le hgrows.le hx]
  exact (hgrows.wellFormed hs).kinds y f x hshape

/-- An application succeeds if the kinds fit, and has the kind of the result. -/
theorem apply_of_kind (hs : s.WellFormed) (hf : f ∈ s) (hx : x ∈ s) {result : Kind}
    (hkind : s.kind f = .arrow (s.kind x) result) :
    ∃ y t, apply f x s = .ok y t ∧ s.Grows t ∧ y ∈ t ∧ t.kind y = result := by
  cases hr : apply f x s with
  | ok y t =>
    obtain ⟨hgrows, hshape⟩ := (keeps_apply hf hx).of_ok hr
    have hfits := kind_of_apply hs hf hx hr
    rw [hkind] at hfits
    exact ⟨y, t, rfl, hgrows, Store.mem_of_shape? hshape, (Kind.arrow.inj hfits).2.symm⟩
  | error e t =>
    unfold apply at hr
    split at hr
    · contradiction
    · simp [hkind, insert] at hr

end Interning

namespace Template

open Interning

variable {s t : Store} {u f a : Template} {residuals others : List TypeId} {x y : TypeId}

theorem instantiate_application_eq_ok_iff : (application f a).instantiate residuals s = .ok y t ↔
    ∃ g v b w, f.instantiate residuals s = .ok g v ∧ a.instantiate residuals v = .ok b w ∧
      apply g b w = .ok y t := by
  simp only [instantiate, bind_eq_ok_iff, adaptExcept_eq_ok_iff, exists_and_left]

theorem instantiate_of_reconstructs (hs : s.WellFormed) (h : u.reconstructs s residuals x = true) :
    u.instantiate residuals s = .ok x s := by
  induction u generalizing x with
  | fixed id =>
    obtain rfl : id = x := by simpa [reconstructs] using h
    rfl
  | hole k =>
    have hk : residuals[k]? = some x := by simpa [reconstructs] using h
    rw [instantiate, hk]
    rfl
  | application f a ihf iha =>
    obtain ⟨g, b, hsplit, hf, ha⟩ := reconstructs_application.mp h
    exact instantiate_application_eq_ok_iff.mpr
      ⟨g, s, b, s, ihf hf, iha ha, apply_of_split? hs hsplit⟩

theorem reconstructs_of_instantiate (hu : u.Over s) (hr : ∀ r ∈ residuals, r ∈ s)
    (h : u.instantiate residuals s = .ok y t) : u.reconstructs t residuals y = true := by
  induction u generalizing s t y with
  | fixed id =>
    obtain ⟨rfl, rfl⟩ := EStateM.Result.ok.inj h
    simp [reconstructs]
  | hole k =>
    cases hk : residuals[k]? with
    | none =>
      rw [instantiate, hk] at h
      contradiction
    | some id =>
      rw [instantiate, hk] at h
      obtain ⟨rfl, rfl⟩ := EStateM.Result.ok.inj h
      simp [reconstructs, hk]
  | application f a ihf iha =>
    obtain ⟨g, v, b, w, hg, hb, h⟩ := instantiate_application_eq_ok_iff.mp h
    obtain ⟨hgv, hgmem⟩ := (keeps_instantiate hu.1 hr).of_ok hg
    have hav := over_of_le hgv.le hu.2
    have hrv : ∀ r ∈ residuals, r ∈ v := fun r hm => Store.mem_of_le hgv.le (hr r hm)
    obtain ⟨hvw, hbmem⟩ := (keeps_instantiate hav hrv).of_ok hb
    obtain ⟨hwt, hshape⟩ := (keeps_apply (Store.mem_of_le hvw.le hgmem) hbmem).of_ok h
    refine reconstructs_application.mpr ⟨g, b, (Store.split?_eq_some_iff ..).mpr hshape, ?_, ?_⟩
    · exact reconstructs_of_le (Store.le_trans hvw.le hwt.le) (ihf hu.1 hr hg)
    · exact reconstructs_of_le hwt.le (iha hav hrv hb)

/-- What the template is read as is what it stores without a change. -/
theorem instantiate_eq_ok_iff (hs : s.WellFormed) (hu : u.Over s) (hr : ∀ r ∈ residuals, r ∈ s) :
    u.instantiate residuals s = .ok x s ↔ u.reconstructs s residuals x = true :=
  ⟨reconstructs_of_instantiate hu hr, instantiate_of_reconstructs hs⟩

/-- A template that gives a stored type is made of stored types. -/
theorem over_of_reconstructs (hs : s.WellFormed) (hx : x ∈ s)
    (h : u.reconstructs s residuals x = true) : u.Over s := by
  induction u generalizing x with
  | fixed id =>
    obtain rfl : id = x := by simpa [reconstructs] using h
    exact hx
  | hole k => trivial
  | application f a ihf iha =>
    obtain ⟨g, b, hsplit, hf, ha⟩ := reconstructs_application.mp h
    obtain ⟨hg, hb⟩ := hs.split_mem hsplit
    exact ⟨ihf hg hf, iha hb ha⟩

/-- A template gives a type only if there is a residual for each of its holes. -/
theorem hole_lt_of_reconstructs (h : u.reconstructs s residuals x = true) :
    ∀ k ∈ u.holes, k < residuals.length := by
  induction u generalizing x with
  | fixed id => simp
  | hole k =>
    rw [holes_hole, List.forall_mem_singleton]
    have hk : residuals[k]? = some x := by simpa [reconstructs] using h
    exact (List.getElem?_eq_some_iff.mp hk).choose
  | application f a ihf iha =>
    obtain ⟨g, b, _, hf, ha⟩ := reconstructs_application.mp h
    rw [holes_application, List.forall_mem_append]
    exact ⟨ihf hf, iha ha⟩

/-- For residuals of the same kinds a template gives a type of the same kind. The kinds are those of
the store that the template was read in; what is stored on the way does not change them. -/
theorem instantiate_of_agrees (hs : s.WellFormed) (hx : u.reconstructs s residuals x = true)
    (hu : u.Over s) (ho : ∀ r ∈ others, r ∈ s)
    (hagrees : ∀ h ∈ u.holes, s.AgreesAt residuals others h) (hgrows : s.Grows t) :
    ∃ y v, u.instantiate others t = .ok y v ∧ t.Grows v ∧ y ∈ v ∧ v.kind y = s.kind x := by
  induction u generalizing x t with
  | fixed id =>
    obtain rfl : id = x := by simpa [reconstructs] using hx
    exact ⟨id, t, rfl, .refl t, Store.mem_of_le hgrows.le hu, Store.kind_of_le hgrows.le hu⟩
  | hole k =>
    obtain ⟨a, b, ha, hb, hkind⟩ := hagrees k (List.mem_singleton.mpr rfl)
    obtain rfl : a = x := Option.some.inj (ha.symm.trans (by simpa [reconstructs] using hx))
    have hbs := ho b (List.mem_of_getElem? hb)
    refine ⟨b, t, ?_, .refl t, Store.mem_of_le hgrows.le hbs, ?_⟩
    · rw [instantiate, hb]
      rfl
    · rw [Store.kind_of_le hgrows.le hbs, hkind]
  | application f a ihf iha =>
    obtain ⟨g, b, hsplit, hf, ha⟩ := reconstructs_application.mp hx
    rw [holes_application, List.forall_mem_append] at hagrees
    obtain ⟨g', v, hg', htv, hgv, hgkind⟩ := ihf hf hu.1 hagrees.1 hgrows
    obtain ⟨b', w, hb', hvw, hbw, hbkind⟩ := iha ha hu.2 hagrees.2 (hgrows.trans htv)
    have hw := (hgrows.trans (htv.trans hvw)).wellFormed hs
    have hfits : w.kind g' = .arrow (w.kind b') (s.kind x) := by
      rw [Store.kind_of_le hvw.le hgv, hgkind, hbkind]
      exact hs.kinds x g b ((Store.split?_eq_some_iff ..).mp hsplit)
    obtain ⟨y, z, hy, hwz, hyz, hykind⟩ := apply_of_kind hw (Store.mem_of_le hvw.le hgv) hbw hfits
    refine ⟨y, z, ?_, htv.trans (hvw.trans hwz), hyz, hykind⟩
    exact instantiate_application_eq_ok_iff.mpr ⟨g', v, b', w, hg', hb', hy⟩

/-- The head is a closed type, so that every hole is an argument. -/
def Headed : Template → Prop
  | fixed _ => True
  | hole _ => False
  | application function argument => function.Headed ∧ (argument.Headed ∨ ∃ h, argument = hole h)

/-- The types that a headed template gives have one kind, and so have the residuals they are given
for: the kind of a closed head says what each argument has to be. -/
theorem agrees_of_headed (hs : s.WellFormed) (hu : u.Headed)
    (hx : u.reconstructs s residuals x = true) (hy : u.reconstructs s others y = true) :
    s.kind x = s.kind y ∧ ∀ h ∈ u.holes, s.AgreesAt residuals others h := by
  induction u generalizing x y with
  | fixed id =>
    obtain rfl : id = x := by simpa [reconstructs] using hx
    obtain rfl : id = y := by simpa [reconstructs] using hy
    simp
  | hole k => exact hu.elim
  | application f a ihf iha =>
    obtain ⟨g, b, hsplit, hg, hb⟩ := reconstructs_application.mp hx
    obtain ⟨g', b', hsplit', hg', hb'⟩ := reconstructs_application.mp hy
    obtain ⟨hfkind, hfholes⟩ := ihf hu.1 hg hg'
    have hkinds := hs.kinds x g b ((Store.split?_eq_some_iff ..).mp hsplit)
    have hkinds' := hs.kinds y g' b' ((Store.split?_eq_some_iff ..).mp hsplit')
    rw [hfkind, hkinds'] at hkinds
    obtain ⟨hargument, hresult⟩ := Kind.arrow.inj hkinds
    rw [holes_application, List.forall_mem_append]
    refine ⟨hresult.symm, hfholes, ?_⟩
    rcases hu.2 with ha | ⟨k, rfl⟩
    · exact (iha ha hb hb').2
    · rw [holes_hole, List.forall_mem_singleton]
      exact ⟨b, b', by simpa [reconstructs] using hb, by simpa [reconstructs] using hb',
        hargument.symm⟩

theorem headed_applyAll {t : Template} {us : List Template} (ht : t.Headed)
    (hus : ∀ u ∈ us, u.Headed ∨ ∃ h, u = hole h) : (applyAll t us).Headed := by
  induction us generalizing t with
  | nil => exact ht
  | cons u us ih =>
    rw [List.forall_mem_cons] at hus
    exact ih ⟨ht, hus.1⟩ hus.2

end Template

namespace Decomposition

variable {s : Store} {p : Spine} {slots : List Slot} {form : Form} {residuals : List TypeId}

theorem headed_body (d : Decomposition s p slots form residuals) : form.body.Headed := by
  rw [congrArg Form.body d.form_eq]
  refine Template.headed_applyAll (t := .fixed d.start) trivial ?_
  intro u hu
  obtain ⟨o, ho, rfl⟩ := List.mem_map.mp hu
  obtain ⟨slot, _, x, _, hopen⟩ := d.opened.exists_open? o (List.mem_of_mem_drop ho)
  obtain ⟨rfl, rfl⟩ | ⟨k, rfl, rfl⟩ | ⟨k, f, y, rfl, _, rfl⟩ := Slot.open?_cases hopen
  · exact .inl trivial
  · exact .inr ⟨k, rfl⟩
  · exact .inl ⟨trivial, .inr ⟨k, rfl⟩⟩

/-- Every hole of the form occurs in its body: a hole takes something out, and not out of an
argument that is kept. -/
theorem mem_holes_body (d : Decomposition s p slots form residuals) {h : Hole}
    (hh : h < form.arity) : h ∈ form.body.holes := by
  have hr : h < residuals.length := by rwa [d.length_residuals]
  obtain ⟨⟨o, ho, htaken⟩, _⟩ := (residual?_eq_some_iff ..).mp (d.residual?_eq hr)
  have hkept := (d.opened.take (Slot.kept slots)).taken_of_fixed (Slot.take_kept slots)
  have hdrop : o ∈ d.openings.drop (Slot.kept slots) := by
    rw [← List.take_append_drop (Slot.kept slots) d.openings] at ho
    refine (List.mem_append.mp ho).resolve_left fun htake => ?_
    rw [hkept o htake] at htaken
    contradiction
  obtain ⟨slot, _, x, _, hopen⟩ := d.opened.exists_open? o ho
  have hhole : h ∈ o.template.holes := by
    rw [Slot.holes_of_open? hopen, Slot.hole?_of_open? hopen, htaken]
    simp
  rw [congrArg Form.body d.form_eq, Template.holes_applyAll, Template.holes_fixed, List.nil_append]
  exact List.mem_flatMap.mpr ⟨o.template, List.mem_map_of_mem hdrop, hhole⟩

end Decomposition

namespace Form

variable {s t : Store} {f : Form} {residuals : List TypeId} {x y : TypeId}

theorem instantiate_of_reconstructs (hs : s.WellFormed) (h : f.reconstructs s residuals x = true) :
    f.instantiate residuals s = .ok x s := by
  obtain ⟨hcount, hbody⟩ := reconstructs_iff.mp h
  rw [instantiate, if_pos hcount]
  exact Template.instantiate_of_reconstructs hs hbody

theorem reconstructs_of_instantiate (hf : f.body.Over s) (hr : ∀ r ∈ residuals, r ∈ s)
    (h : f.instantiate residuals s = .ok y t) : f.reconstructs t residuals y = true := by
  unfold instantiate at h
  split at h
  · next hcount => exact reconstructs_iff.mpr ⟨hcount, Template.reconstructs_of_instantiate hf hr h⟩
  · contradiction

/-- A form that gives a stored type for residuals gives a type of the same kind for others of the
same kinds. -/
theorem instantiate_of_kinds (hs : s.WellFormed) (hx : x ∈ s)
    (h : f.reconstructs s residuals x = true) {others : List TypeId} (ho : ∀ r ∈ others, r ∈ s)
    (hkinds : others.map s.kind = residuals.map s.kind) :
    ∃ y t, f.instantiate others s = .ok y t ∧ t.kind y = s.kind x := by
  obtain ⟨hcount, hbody⟩ := reconstructs_iff.mp h
  have hlength : others.length = residuals.length := by simpa using congrArg List.length hkinds
  have hagrees : ∀ k ∈ f.body.holes, s.AgreesAt residuals others k := fun k hk =>
    Store.agreesAt_of_kinds hkinds (Template.hole_lt_of_reconstructs hbody k hk)
  obtain ⟨y, t, hy, _, _, hkind⟩ := Template.instantiate_of_agrees hs hbody
    (Template.over_of_reconstructs hs hx hbody) ho hagrees (.refl s)
  exact ⟨y, t, by rw [instantiate, if_pos (hlength.trans hcount), hy], hkind⟩

/-- With one residual for each hole the only failure is one of kinds. -/
theorem kind_of_instantiate_error (hf : f.Valid s) (hl : residuals.length = f.arity) {e : FormError}
    (h : f.instantiate residuals s = .error e t) : ∃ cause, e = .kind cause := by
  rw [instantiate, if_pos hl] at h
  refine (Template.instantiate_error h).resolve_left ?_
  rintro ⟨k, hk, hle, _⟩
  exact absurd (hf.holes_lt k hk) (Nat.not_lt_of_le (hl ▸ hle))

end Form

namespace Pattern

variable {s t : Store} {p : Pattern} {x y : TypeId} {c : Candidate} {others : List TypeId}

/-- The form of a candidate takes any proper types, and gives a type of the kind of the one it was
taken from. -/
theorem instantiate_of_proper (hs : s.WellFormed) (hx : x ∈ s) (hp : p ≠ constant)
    (h : p.candidate? s x = some c) (hl : others.length = c.form.arity)
    (ho : ∀ r ∈ others, r ∈ s ∧ s.kind r = .proper) :
    ∃ y t, c.form.instantiate others s = .ok y t ∧ t.kind y = s.kind x := by
  have hgives := reconstructs_of_candidate? h
  have hlength : others.length = c.residuals.length :=
    hl.trans (Form.reconstructs_iff.mp hgives).1.symm
  have hproper : c.residuals.map s.kind = List.replicate c.residuals.length .proper :=
    List.map_eq_replicate_iff.mpr (residuals_proper hp h)
  have hothers : others.map s.kind = List.replicate others.length .proper :=
    List.map_eq_replicate_iff.mpr fun r hr => (ho r hr).2
  exact Form.instantiate_of_kinds hs hx hgives (fun r hr => (ho r hr).1)
    (by rw [hothers, hproper, hlength])

/-- And it takes no others: its body says that each residual is an argument of a proper kind. -/
theorem proper_of_instantiate (hs : s.WellFormed) (hx : x ∈ s) (hp : p ≠ constant)
    (h : p.candidate? s x = some c) (ho : ∀ r ∈ others, r ∈ s)
    (hy : c.form.instantiate others s = .ok y t) : ∀ r ∈ others, s.kind r = .proper := by
  have hvalid := valid_of_candidate? hs hx h
  have hproper := residuals_proper hp h
  obtain ⟨_, _, ⟨d⟩⟩ := (candidate?_eq_some_iff hp s x c).mp h
  have hst := ((Form.keeps_instantiate hvalid.stored ho).of_ok hy).1
  -- in the later store the form gives two types, for its own residuals and for the others
  have hthen := Form.reconstructs_of_le hst.le (reconstructs_of_candidate? h)
  obtain ⟨hcount, hnow⟩ :=
    Form.reconstructs_iff.mp (Form.reconstructs_of_instantiate hvalid.stored ho hy)
  have hagrees := (Template.agrees_of_headed (hst.wellFormed hs) d.headed_body
    (Form.reconstructs_iff.mp hthen).2 hnow).2
  intro r hr
  obtain ⟨k, hk, rfl⟩ := List.getElem_of_mem hr
  obtain ⟨a, b, ha, hb, hkind⟩ := hagrees k (d.mem_holes_body (hcount ▸ hk))
  obtain rfl : others[k] = b := Option.some.inj ((List.getElem?_eq_getElem hk).symm.trans hb)
  have ham := List.mem_of_getElem? ha
  rw [Store.kind_of_le hst.le (residuals_mem hs hp h a ham), hproper a ham] at hkind
  rw [← Store.kind_of_le hst.le (ho _ hr), hkind]

end Pattern

/-- The check that only reads the store and the step that stores the instance agree. With another
number of residuals than the form has holes both refuse. Otherwise the only failure is one of kinds;
a type that passes the check is the instance, and was stored; and an instance that was stored passes
the check afterwards, as the only type that does. -/
theorem check_agrees_with_instance {s : Store} {fs : List Form} (h : s.Yields fs) {f : Form}
    (hf : f ∈ fs) {residuals : List TypeId} (hr : ∀ r ∈ residuals, r ∈ s) :
    (residuals.length ≠ f.arity →
      f.instantiate residuals s = .error (.residualCount f.arity residuals.length) s ∧
        ∀ x, f.reconstructs s residuals x = false) ∧
    (residuals.length = f.arity →
      (∀ e t, f.instantiate residuals s = .error e t → ∃ cause, e = .kind cause) ∧
      (∀ x, f.reconstructs s residuals x = true → f.instantiate residuals s = .ok x s) ∧
      ∀ x t, f.instantiate residuals s = .ok x t →
        f.reconstructs t residuals x = true ∧
          ∀ y, f.reconstructs t residuals y = true → y = x) := by
  have hs := h.reachable.wellFormed
  have hvalid := h.valid f hf
  constructor
  · intro hcount
    refine ⟨?_, ?_⟩
    · rw [Form.instantiate, if_neg hcount]
      rfl
    · intro x
      rw [Bool.eq_false_iff]
      intro hx
      exact hcount (Form.reconstructs_iff.mp hx).1
  · intro hcount
    refine ⟨?_, ?_, ?_⟩
    · intro e t
      exact Form.kind_of_instantiate_error hvalid hcount
    · intro x
      exact Form.instantiate_of_reconstructs hs
    · intro x t hx
      have ht := ((Form.keeps_instantiate hvalid.stored hr).of_ok hx).1.wellFormed hs
      have hgives := Form.reconstructs_of_instantiate hvalid.stored hr hx
      refine ⟨hgives, ?_⟩
      intro y hy
      exact Form.reconstructs_unique ht hy hgives

/-- The form `\a b -> Pair b a`. -/
def Form.pairFlipped : Form := ⟨2, .application (.application (.fixed ⟨2⟩) (.hole 1)) (.hole 0)⟩

/-- `\a b -> Pair b a` at `String` and `Int` is `Pair Int String`, which is stored. At `Int` and
`String` it is no stored type until it is stored with `Pair String`, and then it is that type alone.
With one residual it is nothing. -/
theorem check_of_flipped_pair :
    ∃ fs, Store.pairs.Yields fs ∧ Form.pairFlipped ∈ fs ∧
      Form.pairFlipped.instantiate [⟨1⟩, ⟨0⟩] Store.pairs = .ok ⟨4⟩ Store.pairs ∧
      Form.pairFlipped.instantiate [⟨0⟩] Store.pairs = .error (.residualCount 2 1) Store.pairs ∧
      ∃ t, Form.pairFlipped.instantiate [⟨0⟩, ⟨1⟩] Store.pairs = .ok ⟨7⟩ t ∧
        Form.pairFlipped.reconstructs Store.pairs [⟨0⟩, ⟨1⟩] ⟨7⟩ = false ∧
        ∀ y, Form.pairFlipped.reconstructs t [⟨0⟩, ⟨1⟩] y = true ↔ y = ⟨7⟩ := by
  obtain ⟨fs, hfs⟩ := Store.reachable_pairs.exists_yields
  have hmade : (Operation.form 2 Form.pairFlipped.body).made Store.pairs = [Form.pairFlipped] := by
    decide +kernel
  have hafter : (Operation.form 2 Form.pairFlipped.body).after Store.pairs = Store.pairs := rfl
  have hrun := hfs.operation (.form 2 Form.pairFlipped.body) (by decide +kernel)
  rw [hmade, hafter] at hrun
  have hmem : Form.pairFlipped ∈ [Form.pairFlipped] ++ fs := List.mem_cons_self
  have hflipped : ∀ r ∈ [(⟨1⟩ : TypeId), ⟨0⟩], r ∈ Store.pairs := by decide +kernel
  have hsingle : ∀ r ∈ [(⟨0⟩ : TypeId)], r ∈ Store.pairs := by decide +kernel
  have hboth : ∀ r ∈ [(⟨0⟩ : TypeId), ⟨1⟩], r ∈ Store.pairs := by decide +kernel
  have hstored := check_agrees_with_instance hrun hmem hflipped
  have hcount := check_agrees_with_instance hrun hmem hsingle
  have hnew := check_agrees_with_instance hrun hmem hboth
  have hgiven : (match Form.pairFlipped.instantiate [⟨0⟩, ⟨1⟩] Store.pairs with
      | .ok x _ => some x
      | .error _ _ => none) = some ⟨7⟩ := by decide +kernel
  refine ⟨_, hrun, hmem, (hstored.2 rfl).2.1 ⟨4⟩ (by decide +kernel), (hcount.1 (by decide)).1, ?_⟩
  cases hx : Form.pairFlipped.instantiate [⟨0⟩, ⟨1⟩] Store.pairs with
  | error e t => simp [hx] at hgiven
  | ok x t =>
    obtain rfl : x = ⟨7⟩ := by simpa [hx] using hgiven
    obtain ⟨hgives, honly⟩ := (hnew.2 rfl).2.2 ⟨7⟩ t hx
    refine ⟨t, rfl, by decide +kernel, ?_⟩
    intro y
    constructor
    · exact honly y
    · rintro rfl
      exact hgives

/-- Putting in other types of the same kinds succeeds and gives a type of the same kind. However the
form was made, a type that it gives shows which kinds it takes. So the form of a candidate takes all
proper types and gives a proper one. -/
theorem instance_keeps_kind {s : Store} (hs : s.Reachable) {x : TypeId} (hx : x ∈ s) :
    (∀ (f : Form) (residuals others : List TypeId), f.reconstructs s residuals x = true →
      (∀ r ∈ others, r ∈ s) → others.map s.kind = residuals.map s.kind →
      ∃ y t, f.instantiate others s = .ok y t ∧ t.kind y = s.kind x) ∧
    ∀ (p : Pattern) (c : Candidate), p ≠ .constant → p.candidate? s x = some c →
      ∀ others : List TypeId, others.length = c.form.arity →
        (∀ r ∈ others, r ∈ s ∧ s.kind r = .proper) →
        ∃ y t, c.form.instantiate others s = .ok y t ∧ t.kind y = .proper := by
  have hw := hs.wellFormed
  constructor
  · intro f residuals others h ho hkinds
    exact Form.instantiate_of_kinds hw hx h ho hkinds
  · intro p c hp h others hcount ho
    obtain ⟨y, t, hy, hkind⟩ := Pattern.instantiate_of_proper hw hx hp h hcount ho
    exact ⟨y, t, hy, hkind.trans (Pattern.kind_of_candidate? hp h)⟩

/-- The form `\a b -> a b b`. -/
def Form.doubled : Form := ⟨2, .application (.application (.hole 0) (.hole 1)) (.hole 1)⟩

/-- `\a b -> a b b` is `Pair Int Int` at `Pair` and `Int`, so at `Pair` and `String` it is a proper
type too, which is not stored yet. And `\a -> Pair a String` takes `Pair Int Int`. -/
theorem kind_of_doubled_pair :
    Form.doubled.reconstructs Store.pairs [⟨2⟩, ⟨0⟩] ⟨5⟩ = true ∧
    (∀ y, Form.doubled.reconstructs Store.pairs [⟨2⟩, ⟨1⟩] y = true → y ∉ Store.pairs) ∧
    (∃ y t, Form.doubled.instantiate [⟨2⟩, ⟨1⟩] Store.pairs = .ok y t ∧ t.kind y = .proper) ∧
    ∃ c, Pattern.binaryFirst.candidate? Store.pairs ⟨4⟩ = some c ∧
      ∃ y t, c.form.instantiate [⟨5⟩] Store.pairs = .ok y t ∧ t.kind y = .proper := by
  have hgives : Form.doubled.reconstructs Store.pairs [⟨2⟩, ⟨0⟩] ⟨5⟩ = true := by decide +kernel
  have hnone :
      ∀ i < Store.pairs.size, Form.doubled.reconstructs Store.pairs [⟨2⟩, ⟨1⟩] ⟨i⟩ = false := by
    decide +kernel
  have hcandidate : Pattern.binaryFirst.candidate? Store.pairs ⟨4⟩ =
      some ⟨.binaryFirst, ⟨1, .application (.application (.fixed ⟨2⟩) (.hole 0)) (.fixed ⟨1⟩)⟩,
        [⟨0⟩]⟩ := by
    decide +kernel
  obtain ⟨hsame, _⟩ := instance_keeps_kind Store.reachable_pairs (x := ⟨5⟩) (by decide +kernel)
  obtain ⟨_, htakes⟩ := instance_keeps_kind Store.reachable_pairs (x := ⟨4⟩) (by decide +kernel)
  obtain ⟨y, t, hy, hkind⟩ := hsame Form.doubled [⟨2⟩, ⟨0⟩] [⟨2⟩, ⟨1⟩] hgives (by decide +kernel)
    (by decide +kernel)
  have hproper : Store.pairs.kind ⟨5⟩ = .proper := by decide +kernel
  refine ⟨hgives, ?_, ⟨y, t, hy, hkind.trans hproper⟩, _, hcandidate, ?_⟩
  · rintro ⟨i⟩ hi hmem
    rw [hnone i hmem] at hi
    contradiction
  · exact htakes .binaryFirst _ (by decide) hcandidate [⟨5⟩] rfl (by decide +kernel)

end FormRecovery
