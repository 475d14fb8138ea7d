import FormRecovery.Decomposition
import FormRecovery.Proofs.Application
import Mathlib.Data.Option.Basic

/-!
What a spine gives when slots are matched against it. A successful match is laid out as a
`Decomposition`; it gives the type back from its residuals, and the same slots match every other
type that the form reconstructs.
-/
namespace FormRecovery

/-- The slots open the arguments one by one. -/
inductive Slot.OpenAll (s : Store) : List Slot → List TypeId → List Opening → Prop where
  | nil : OpenAll s [] [] []
  | cons {slot : Slot} {x : TypeId} {o : Opening} {slots : List Slot} {xs : List TypeId}
      {os : List Opening} (first : slot.open? s x = some o) (rest : OpenAll s slots xs os) :
      OpenAll s (slot :: slots) (x :: xs) (o :: os)

/-- The number of arguments that stay inside the stored partial application. -/
def Slot.kept (slots : List Slot) : Nat := (slots.takeWhile (· == .fixed)).length

section

variable {α β : Type}

theorem mapM_eq_some_iff (f : α → Option β) (l : List α) (r : List β) :
    l.mapM f = some r ↔ l.map f = r.map some := by
  induction l generalizing r with
  | nil => cases r <;> simp
  | cons a l ih =>
    rw [List.mapM_cons]
    cases r with
    | nil => cases f a <;> cases l.mapM f <;> simp
    | cons b r =>
      rw [List.map_cons, List.map_cons, List.cons.injEq, ← ih]
      cases f a <;> cases l.mapM f <;> simp

theorem mapM_range_eq_some_iff (f : Nat → Option β) (n : Nat) (r : List β) :
    (List.range n).mapM f = some r ↔ r.length = n ∧ ∀ i < n, f i = r[i]? := by
  rw [mapM_eq_some_iff]
  constructor
  · intro h
    have hl : r.length = n := by simpa using (congrArg List.length h).symm
    refine ⟨hl, ?_⟩
    intro i hi
    have he := congrArg (·[i]?) h
    have hr : i < r.length := by omega
    simpa [hi, hr] using he
  · rintro ⟨hl, h⟩
    apply List.ext_getElem (by simp [hl])
    intro i hi hr
    have hn : i < n := by simpa using hi
    have hlr : i < r.length := by omega
    simpa [hlr] using h i hn

end

namespace Opening

theorem takenFor?_eq_some_iff (h : Hole) (o : Opening) (id : TypeId) :
    o.takenFor? h = some id ↔ o.taken = some (h, id) := by
  unfold takenFor?
  split
  · next k y he =>
    by_cases hk : k = h <;> simp [he, hk]
  · next he => simp [he]

end Opening

theorem residual?_eq_some_iff (os : List Opening) (h : Hole) (id : TypeId) :
    residual? os h = some id ↔
      (∃ o ∈ os, o.taken = some (h, id)) ∧ ∀ o ∈ os, ∀ y, o.taken = some (h, y) → y = id := by
  have hmem : ∀ y, y ∈ os.filterMap (·.takenFor? h) ↔ ∃ o ∈ os, o.taken = some (h, y) := by
    intro y
    simp only [List.mem_filterMap, Opening.takenFor?_eq_some_iff]
  unfold residual?
  cases hl : os.filterMap (·.takenFor? h) with
  | nil =>
    simp only [reduceCtorEq, false_iff, not_and]
    rintro hex
    have hin := (hmem id).mpr hex
    simp [hl] at hin
  | cons y ys =>
    have hall : (∀ o ∈ os, ∀ z, o.taken = some (h, z) → z = id) ↔ ∀ z ∈ y :: ys, z = id := by
      rw [← hl]
      constructor
      · intro hz z hin
        obtain ⟨o, ho, ht⟩ := (hmem z).mp hin
        exact hz o ho z ht
      · intro hz o ho z ht
        exact hz z ((hmem z).mpr ⟨o, ho, ht⟩)
    rw [hall, ← hmem, hl]
    simp only [List.mem_cons, forall_eq_or_imp, Option.ite_none_right_eq_some, Option.some.injEq,
      List.all_eq_true, beq_iff_eq]
    constructor
    · rintro ⟨hys, rfl⟩
      exact ⟨.inl rfl, rfl, hys⟩
    · rintro ⟨_, rfl, hys⟩
      exact ⟨hys, rfl⟩

namespace Slot

/-- What a slot makes of an argument. -/
theorem open?_cases {s : Store} {slot : Slot} {x : TypeId} {o : Opening}
    (h : slot.open? s x = some o) :
    (slot = fixed ∧ o = ⟨.fixed x, none⟩) ∨
      (∃ k, slot = hole k ∧ o = ⟨.hole k, some (k, x)⟩) ∨
      ∃ k f y, slot = partialHole k ∧ s.split? x = some (f, y) ∧
        o = ⟨.application (.fixed f) (.hole k), some (k, y)⟩ := by
  cases slot with
  | fixed => exact .inl ⟨rfl, (Option.some.inj h).symm⟩
  | hole k => exact .inr (.inl ⟨k, rfl, (Option.some.inj h).symm⟩)
  | partialHole k =>
    obtain ⟨⟨f, y⟩, hsplit, ho⟩ := Option.map_eq_some_iff.mp h
    exact .inr (.inr ⟨k, f, y, rfl, hsplit, ho.symm⟩)

section

variable {s : Store} {slot : Slot} {x : TypeId} {o : Opening}

theorem hole?_of_open? (h : slot.open? s x = some o) : slot.hole? = o.taken.map (·.1) := by
  obtain ⟨rfl, rfl⟩ | ⟨k, rfl, rfl⟩ | ⟨k, f, y, rfl, _, rfl⟩ := open?_cases h <;> rfl

/-- What is taken out of a stored argument is stored. -/
theorem taken_mem (hs : s.WellFormed) (hx : x ∈ s) (h : slot.open? s x = some o) :
    ∀ k y, o.taken = some (k, y) → y ∈ s := by
  intro k y ht
  obtain ⟨rfl, rfl⟩ | ⟨k', rfl, rfl⟩ | ⟨k', f, z, rfl, hsplit, rfl⟩ := open?_cases h
  · contradiction
  · obtain ⟨rfl, rfl⟩ := Prod.mk.inj (Option.some.inj ht)
    exact hx
  · obtain ⟨rfl, rfl⟩ := Prod.mk.inj (Option.some.inj ht)
    exact (hs.split_mem hsplit).2

/-- An opening gives its argument back, if the hole is filled with what was taken out. -/
theorem reconstructs_of_open? {residuals : List TypeId} (h : slot.open? s x = some o)
    (ht : ∀ k y, o.taken = some (k, y) → residuals[k]? = some y) :
    o.template.reconstructs s residuals x = true := by
  obtain ⟨rfl, rfl⟩ | ⟨k, rfl, rfl⟩ | ⟨k, f, y, rfl, hsplit, rfl⟩ := open?_cases h
  · simp [Template.reconstructs]
  · simp [Template.reconstructs, ht k x rfl]
  · simp [Template.reconstructs, hsplit, ht k y rfl]

/-- A slot opens every argument that its template reconstructs, to the same template. -/
theorem open?_of_reconstructs {residuals : List TypeId} {z : TypeId} (h : slot.open? s x = some o)
    (hz : o.template.reconstructs s residuals z = true) :
    ∃ o', slot.open? s z = some o' ∧ o'.template = o.template ∧
      ∀ k y, o'.taken = some (k, y) → residuals[k]? = some y := by
  obtain ⟨rfl, rfl⟩ | ⟨k, rfl, rfl⟩ | ⟨k, f, y, rfl, _, rfl⟩ := open?_cases h
  · obtain rfl : x = z := by simpa [Template.reconstructs] using hz
    exact ⟨_, rfl, rfl, by simp⟩
  · refine ⟨_, rfl, rfl, ?_⟩
    rintro k' y he
    obtain ⟨rfl, rfl⟩ := Prod.mk.inj (Option.some.inj he)
    simpa [Template.reconstructs] using hz
  · obtain ⟨g, y', hsplit, hg, hy'⟩ := Template.reconstructs_application.mp hz
    obtain rfl : f = g := by simpa [Template.reconstructs] using hg
    refine ⟨⟨.application (.fixed f) (.hole k), some (k, y')⟩, by simp [open?, hsplit], rfl, ?_⟩
    rintro k' w he
    obtain ⟨rfl, rfl⟩ := Prod.mk.inj (Option.some.inj he)
    simpa [Template.reconstructs] using hy'

end

namespace OpenAll

variable {s : Store} {slots slots' : List Slot} {xs ys zs : List TypeId} {os os' : List Opening}

theorem length_eq (h : OpenAll s slots xs os) :
    slots.length = xs.length ∧ os.length = xs.length := by
  induction h with
  | nil => exact ⟨rfl, rfl⟩
  | cons _ _ ih => simpa using ih

theorem iff_mapM (s : Store) (slots : List Slot) (xs : List TypeId) (os : List Opening) :
    OpenAll s slots xs os ↔ slots.length = xs.length ∧
      (slots.zip xs).mapM (fun (slot, x) => slot.open? s x) = some os := by
  rw [mapM_eq_some_iff]
  constructor
  · intro h
    refine ⟨h.length_eq.1, ?_⟩
    induction h with
    | nil => rfl
    | cons first _ ih => simp only [List.zip_cons_cons, List.map_cons, first, ih]
  · rintro ⟨hl, h⟩
    induction slots generalizing xs os with
    | nil =>
      obtain rfl := List.eq_nil_of_length_eq_zero hl.symm
      obtain rfl : os = [] := by simpa using h
      exact .nil
    | cons slot slots ih =>
      cases xs with
      | nil => simp at hl
      | cons x xs =>
        cases os with
        | nil => simp at h
        | cons o os =>
          rw [List.zip_cons_cons, List.map_cons, List.map_cons, List.cons.injEq] at h
          exact .cons h.1 (ih xs os (by simpa using hl) h.2)

/-- Every opening comes from a slot and its argument. -/
theorem exists_open? (h : OpenAll s slots xs os) :
    ∀ o ∈ os, ∃ slot ∈ slots, ∃ x ∈ xs, slot.open? s x = some o := by
  induction h with
  | nil => simp
  | cons first _ ih =>
    rw [List.forall_mem_cons]
    refine ⟨⟨_, List.mem_cons_self, _, List.mem_cons_self, first⟩, ?_⟩
    intro o ho
    obtain ⟨slot, hslot, x, hx, hopen⟩ := ih o ho
    exact ⟨slot, List.mem_cons_of_mem _ hslot, x, List.mem_cons_of_mem _ hx, hopen⟩

theorem drop (h : OpenAll s slots xs os) (n : Nat) :
    OpenAll s (slots.drop n) (xs.drop n) (os.drop n) := by
  induction h generalizing n with
  | nil => simpa using OpenAll.nil
  | cons first rest ih =>
    cases n with
    | zero => exact .cons first rest
    | succ n => exact ih n

theorem take (h : OpenAll s slots xs os) (n : Nat) :
    OpenAll s (slots.take n) (xs.take n) (os.take n) := by
  induction h generalizing n with
  | nil => simpa using OpenAll.nil
  | cons first rest ih =>
    cases n with
    | zero => exact .nil
    | succ n => exact .cons first (ih n)

theorem append (h : OpenAll s slots xs os) (h' : OpenAll s slots' ys os') :
    OpenAll s (slots ++ slots') (xs ++ ys) (os ++ os') := by
  induction h with
  | nil => exact h'
  | cons first _ ih => exact .cons first ih

/-- The holes that the openings take something out for are those of the slots. -/
theorem hole_mem_iff (h : OpenAll s slots xs os) (k : Hole) :
    (∃ o ∈ os, ∃ y, o.taken = some (k, y)) ↔ k ∈ slots.filterMap hole? := by
  induction h with
  | nil => simp
  | @cons slot x o slots xs os first _ ih =>
    have hhead : (∃ y, o.taken = some (k, y)) ↔ slot.hole? = some k := by
      simp [hole?_of_open? first]
    rw [List.mem_filterMap] at ih ⊢
    simp only [List.mem_cons, or_and_right, exists_or, exists_eq_left, ih, hhead]

theorem reconstructs (h : OpenAll s slots xs os) {residuals : List TypeId}
    (ht : ∀ o ∈ os, ∀ k y, o.taken = some (k, y) → residuals[k]? = some y) :
    List.Forall₂ (fun u x => u.reconstructs s residuals x = true) (os.map (·.template)) xs := by
  induction h with
  | nil => exact .nil
  | cons first _ ih =>
    rw [List.forall_mem_cons] at ht
    exact .cons (reconstructs_of_open? first ht.1) (ih ht.2)

/-- The slots open every list of arguments that their templates reconstruct. -/
theorem reopen (h : OpenAll s slots xs os) {residuals : List TypeId}
    (hz : List.Forall₂ (fun u z => u.reconstructs s residuals z = true) (os.map (·.template)) zs) :
    ∃ os', OpenAll s slots zs os' ∧ os'.map (·.template) = os.map (·.template) ∧
      ∀ o ∈ os', ∀ k y, o.taken = some (k, y) → residuals[k]? = some y := by
  induction h generalizing zs with
  | nil =>
    cases hz
    exact ⟨[], .nil, rfl, by simp⟩
  | cons first _ ih =>
    cases hz with
    | cons hfirst hrest =>
      obtain ⟨o', ho, hot, hor⟩ := open?_of_reconstructs first hfirst
      obtain ⟨os', hos, host, hosr⟩ := ih hrest
      refine ⟨o' :: os', .cons ho hos, by simp [hot, host], ?_⟩
      rw [List.forall_mem_cons]
      exact ⟨hor, hosr⟩

/-- If all that is taken out agrees with a list, the residual of a hole is read off this list. -/
theorem residual?_eq (h : OpenAll s slots xs os) {residuals : List TypeId}
    (ht : ∀ o ∈ os, ∀ k y, o.taken = some (k, y) → residuals[k]? = some y) {k : Hole}
    (hk : k ∈ slots.filterMap hole?) : residual? os k = residuals[k]? := by
  obtain ⟨o, ho, y, htaken⟩ := (h.hole_mem_iff k).mpr hk
  rw [ht o ho k y htaken, residual?_eq_some_iff]
  refine ⟨⟨o, ho, htaken⟩, ?_⟩
  intro o' ho' z htaken'
  exact Option.some.inj ((ht o' ho' k z htaken').symm.trans (ht o ho k y htaken))

/-- Slots that keep their arguments take nothing out. -/
theorem taken_of_fixed (h : OpenAll s slots xs os) (hf : ∀ slot ∈ slots, slot = fixed) :
    ∀ o ∈ os, o.taken = none := by
  intro o ho
  obtain ⟨slot, hslot, x, _, hopen⟩ := h.exists_open? o ho
  have hn := hole?_of_open? hopen
  rw [hf slot hslot] at hn
  exact Option.map_eq_none_iff.mp hn.symm

end OpenAll

theorem take_kept (slots : List Slot) : ∀ slot ∈ slots.take (kept slots), slot = fixed := by
  intro slot hslot
  rw [kept, ← List.prefix_iff_eq_take.mp (List.takeWhile_prefix _)] at hslot
  simpa using List.all_eq_true.mp List.all_takeWhile slot hslot

end Slot

/-- A successful match of slots against a spine. -/
structure Decomposition (s : Store) (p : Spine) (slots : List Slot) (form : Form)
    (residuals : List TypeId) where
  largest : Nat
  openings : List Opening
  start : TypeId
  opened : Slot.OpenAll s slots p.arguments openings
  largest_max : (slots.filterMap Slot.hole?).max? = some largest
  largest_lt : largest < Form.maxArity
  residuals_length : residuals.length = largest + 1
  residuals_eq : ∀ h < largest + 1, residual? openings h = residuals[h]?
  start_eq : p.upTo? (Slot.kept slots) = some start
  form_eq : form = ⟨largest + 1, Template.applyAll (.fixed start)
    ((openings.drop (Slot.kept slots)).map (·.template))⟩

theorem Form.decompose_eq_some_iff (s : Store) (p : Spine) (slots : List Slot) (form : Form)
    (residuals : List TypeId) :
    Form.decompose s p slots = some (form, residuals) ↔
      Nonempty (Decomposition s p slots form residuals) := by
  simp only [decompose, bind, Option.bind_eq_some_iff, Option.guard_eq_some',
    mapM_range_eq_some_iff, pure, Option.some.injEq, Prod.mk.injEq]
  constructor
  · rintro ⟨_, hcount, largest, hmax, _, hlt, os, hos, rs, ⟨hl, hr⟩, start, hstart, hf, rfl⟩
    exact ⟨largest, os, start, (Slot.OpenAll.iff_mapM ..).mpr ⟨by simpa using hcount, hos⟩, hmax,
      hlt, hl, hr, hstart, hf.symm⟩
  · rintro ⟨largest, os, start, hopen, hmax, hlt, hl, hr, hstart, hf⟩
    obtain ⟨hcount, hos⟩ := (Slot.OpenAll.iff_mapM ..).mp hopen
    exact ⟨(), by simpa using hcount, largest, hmax, (), hlt, os, hos, residuals, ⟨hl, hr⟩, start,
      hstart, hf.symm, rfl⟩

namespace Decomposition

variable {s : Store} {slots : List Slot} {form : Form} {residuals : List TypeId}

section

variable {p : Spine}

theorem arity_eq (d : Decomposition s p slots form residuals) : form.arity = d.largest + 1 := by
  simp [d.form_eq]

theorem length_residuals (d : Decomposition s p slots form residuals) :
    residuals.length = form.arity := by
  rw [d.residuals_length, d.arity_eq]

theorem hole_le (d : Decomposition s p slots form residuals) {h : Nat}
    (hh : h ∈ slots.filterMap Slot.hole?) : h ≤ d.largest :=
  (List.max?_eq_some_iff.mp d.largest_max).2 h hh

theorem residual?_eq (d : Decomposition s p slots form residuals) {h : Nat}
    (hh : h < residuals.length) : residual? d.openings h = some residuals[h] := by
  rw [d.residuals_eq h (d.residuals_length ▸ hh), List.getElem?_eq_getElem hh]

/-- Every hole up to the largest one is used. -/
theorem hole_mem (d : Decomposition s p slots form residuals) {h : Nat} (hh : h < d.largest + 1) :
    h ∈ slots.filterMap Slot.hole? := by
  have hlt : h < residuals.length := d.residuals_length ▸ hh
  obtain ⟨⟨o, ho, ht⟩, _⟩ := (residual?_eq_some_iff ..).mp (d.residual?_eq hlt)
  exact (d.opened.hole_mem_iff h).mp ⟨o, ho, _, ht⟩

/-- What an opening takes out for a hole is the residual of the hole. -/
theorem residual_of_taken (d : Decomposition s p slots form residuals) :
    ∀ o ∈ d.openings, ∀ k y, o.taken = some (k, y) → residuals[k]? = some y := by
  intro o ho k y ht
  have hk := d.hole_le ((d.opened.hole_mem_iff k).mp ⟨o, ho, y, ht⟩)
  have hlt : k < residuals.length := by
    rw [d.residuals_length]
    exact Nat.lt_succ_of_le hk
  have hr := (residual?_eq_some_iff ..).mp (d.residual?_eq hlt)
  rw [List.getElem?_eq_getElem hlt, hr.2 o ho y ht]

/-- Every residual was taken out by an opening. -/
theorem exists_taken (d : Decomposition s p slots form residuals) :
    ∀ r ∈ residuals, ∃ o ∈ d.openings, ∃ k, o.taken = some (k, r) := by
  intro r hr
  obtain ⟨k, hk, rfl⟩ := List.getElem_of_mem hr
  obtain ⟨⟨o, ho, ht⟩, _⟩ := (residual?_eq_some_iff ..).mp (d.residual?_eq hk)
  exact ⟨o, ho, k, ht⟩

end

section

variable {x y : TypeId} {others ys : List TypeId}

theorem residuals_mem (hs : s.WellFormed) (d : Decomposition s (s.spine x) slots form residuals) :
    ∀ r ∈ residuals, r ∈ s := by
  intro r hr
  obtain ⟨o, ho, k, ht⟩ := d.exists_taken r hr
  obtain ⟨slot, _, a, ha, hopen⟩ := d.opened.exists_open? o ho
  obtain ⟨step, hstep, rfl⟩ := List.mem_map.mp ha
  exact Slot.taken_mem hs (Store.spine_steps_mem hs x step hstep).1 hopen k r ht

theorem kept_le (d : Decomposition s (s.spine x) slots form residuals) :
    Slot.kept slots ≤ (s.spine x).arity := by
  rw [← Spine.length_arguments, ← d.opened.length_eq.1]
  exact (List.takeWhile_prefix _).length_le

/-- The stored partial application goes on to the type by the arguments that are not kept. -/
theorem start_applies (d : Decomposition s (s.spine x) slots form residuals) :
    s.Applies d.start ((s.spine x).arguments.drop (Slot.kept slots)) x := by
  obtain ⟨start, hstart, _, hrest⟩ := s.spine_cut x (Slot.kept slots) d.kept_le
  rwa [Option.some.inj (hstart.symm.trans d.start_eq)] at hrest

/-- The form at the residuals is the type that was matched. -/
theorem reconstructs (d : Decomposition s (s.spine x) slots form residuals) :
    form.reconstructs s residuals x = true := by
  have hbody : form.body.reconstructs s residuals x = true := by
    rw [congrArg Form.body d.form_eq, Template.reconstructs_applyAll]
    refine ⟨d.start, _, d.start_applies, by simp [Template.reconstructs], ?_⟩
    apply (d.opened.drop _).reconstructs
    intro o ho
    exact d.residual_of_taken o (List.mem_of_mem_drop ho)
  exact Form.reconstructs_iff.mpr ⟨d.length_residuals, hbody⟩

/-- A type that the form reconstructs goes on from the same partial application. -/
theorem applies_of_reconstructs (d : Decomposition s (s.spine x) slots form residuals)
    (hy : form.reconstructs s others y = true) :
    others.length = form.arity ∧ ∃ ys, s.Applies d.start ys y ∧
      List.Forall₂ (fun u z => u.reconstructs s others z = true)
        ((d.openings.drop (Slot.kept slots)).map (·.template)) ys := by
  rw [Form.reconstructs_iff, congrArg Form.body d.form_eq, Template.reconstructs_applyAll] at hy
  obtain ⟨hl, f, ys, hys, hf, hus⟩ := hy
  obtain rfl : d.start = f := by simpa [Template.reconstructs] using hf
  exact ⟨hl, ys, hys, hus⟩

/-- In a well-formed store such a type has the kept arguments too. -/
theorem arguments_of_applies (hs : s.WellFormed)
    (d : Decomposition s (s.spine x) slots form residuals) (hy : s.Applies d.start ys y) :
    (s.spine y).arguments = (s.spine x).arguments.take (Slot.kept slots) ++ ys := by
  have hx := (Store.spine_of_applies hs d.start_applies).2.1
  rw [(Store.spine_of_applies hs hy).2.1]
  have htake := List.take_append_drop (Slot.kept slots) (s.spine x).arguments
  rw [List.append_cancel_right (htake.trans hx)]

/-- The templates of all openings reconstruct the arguments of such a type. -/
theorem arguments_reconstructed (d : Decomposition s (s.spine x) slots form residuals)
    (hys : List.Forall₂ (fun u z => u.reconstructs s others z = true)
      ((d.openings.drop (Slot.kept slots)).map (·.template)) ys) :
    List.Forall₂ (fun u z => u.reconstructs s others z = true) (d.openings.map (·.template))
      ((s.spine x).arguments.take (Slot.kept slots) ++ ys) := by
  have hfixed := (d.opened.take (Slot.kept slots)).taken_of_fixed (Slot.take_kept slots)
  have hkept : List.Forall₂ (fun u z => u.reconstructs s others z = true)
      ((d.openings.take (Slot.kept slots)).map (·.template))
      ((s.spine x).arguments.take (Slot.kept slots)) := by
    apply (d.opened.take (Slot.kept slots)).reconstructs
    intro o ho k y ht
    rw [hfixed o ho] at ht
    contradiction
  rw [← List.take_append_drop (Slot.kept slots) d.openings, List.map_append]
  exact List.rel_append hkept hys

/-- In a well-formed store the slots match every type that the form reconstructs, with the form
and the residuals that it was reconstructed from. -/
theorem rematch (hs : s.WellFormed) (d : Decomposition s (s.spine x) slots form residuals)
    (hy : form.reconstructs s others y = true) :
    ∃ d' : Decomposition s (s.spine y) slots form others,
      d'.openings.map (·.template) = d.openings.map (·.template) := by
  obtain ⟨hl, ys, hys, hus⟩ := d.applies_of_reconstructs hy
  have hargs := d.arguments_of_applies hs hys
  obtain ⟨os, hos, htemplates, htaken⟩ := d.opened.reopen (d.arguments_reconstructed hus)
  rw [← hargs] at hos
  have hlength : others.length = d.largest + 1 := hl.trans d.arity_eq
  have htake : ((s.spine x).arguments.take (Slot.kept slots)).length = Slot.kept slots := by
    rw [List.length_take, Spine.length_arguments, Nat.min_eq_left d.kept_le]
  have hresiduals : ∀ h < d.largest + 1, residual? os h = others[h]? :=
    fun h hh => hos.residual?_eq htaken (d.hole_mem hh)
  have hkept : Slot.kept slots ≤ (s.spine y).arity := by
    rw [← Spine.length_arguments, hargs, List.length_append, htake]
    exact Nat.le_add_right _ _
  obtain ⟨start, hstart, _, hrest⟩ := s.spine_cut y (Slot.kept slots) hkept
  rw [hargs, List.drop_left' htake] at hrest
  obtain ⟨rfl, _⟩ := hrest.start_unique hys rfl
  have hform := d.form_eq
  rw [List.map_drop, ← htemplates, ← List.map_drop] at hform
  exact ⟨⟨d.largest, os, d.start, hos, d.largest_max, d.largest_lt, hlength, hresiduals, hstart,
    hform⟩, htemplates⟩

/-- Such a type has the kind of the type that was matched. -/
theorem kind_eq (hs : s.WellFormed) (d : Decomposition s (s.spine x) slots form residuals)
    (hy : form.reconstructs s others y = true) : s.kind y = s.kind x := by
  obtain ⟨_, ys, hys, hus⟩ := d.applies_of_reconstructs hy
  apply hys.kind_end hs d.start_applies rfl
  rw [← hus.length_eq, List.length_map, List.length_drop, List.length_drop, d.opened.length_eq.2]

end

end Decomposition

end FormRecovery
