import FormRecovery.Proofs.Expansion
import FormRecovery.Proofs.Matching
import FormRecovery.Proofs.Reachability

/-!
Forms as keys. A form may be made from a template, from a constructor, from a type, or by matching
slots against a spine; only the first of these makes its body canonical. All of them are canonical,
so that forms over one store are equal exactly if they stand for the same.
-/
namespace FormRecovery

namespace Template

variable {s : Store} {t : Template} {us : List Template}

theorem holes_applyAll (t : Template) (us : List Template) :
    (applyAll t us).holes = t.holes ++ us.flatMap holes := by
  induction us generalizing t with
  | nil => simp [applyAll]
  | cons u us ih =>
    rw [applyAll, List.foldl_cons]
    refine (ih (application t u)).trans ?_
    simp

theorem over_applyAll (ht : t.Over s) (hus : ∀ u ∈ us, u.Over s) : (applyAll t us).Over s := by
  induction us generalizing t with
  | nil => exact ht
  | cons u us ih =>
    rw [List.forall_mem_cons] at hus
    exact ih ⟨ht, hus.1⟩ hus.2

/-- A template stays canonical when it is applied to canonical ones, the first of them open. -/
theorem canonical_applyAll (ht : t.Canonical) (hus : ∀ u ∈ us, u.Canonical)
    (ho : t.isClosed = true → ∀ u ∈ us.head?, u.isClosed = false) : (applyAll t us).Canonical := by
  induction us generalizing t with
  | nil => exact ht
  | cons u us ih =>
    rw [List.forall_mem_cons] at hus
    have hopen : ¬(t.isClosed = true ∧ u.isClosed = true) := by
      rintro ⟨htc, huc⟩
      rw [ho htc u rfl] at huc
      contradiction
    refine ih (t := application t u) ⟨ht, hus.1, hopen⟩ hus.2 ?_
    intro hc
    rw [isClosed_application, Bool.and_eq_true] at hc
    exact absurd hc hopen

end Template

namespace Slot

variable {s : Store} {slot : Slot} {x : TypeId} {o : Opening}

theorem holes_of_open? (h : slot.open? s x = some o) : o.template.holes = slot.hole?.toList := by
  obtain ⟨rfl, rfl⟩ | ⟨k, rfl, rfl⟩ | ⟨k, f, y, rfl, _, rfl⟩ := open?_cases h <;> rfl

theorem open_of_ne_fixed (h : slot.open? s x = some o) (hne : slot ≠ fixed) :
    o.template.isClosed = false := by
  rw [Template.isClosed, holes_of_open? h]
  cases slot with
  | fixed => exact absurd rfl hne
  | hole k => rfl
  | partialHole k => rfl

theorem canonical_of_open? (h : slot.open? s x = some o) : o.template.Canonical := by
  obtain ⟨rfl, rfl⟩ | ⟨k, rfl, rfl⟩ | ⟨k, f, y, rfl, _, rfl⟩ := open?_cases h
  · trivial
  · trivial
  · simp [Template.Canonical, Template.isClosed]

theorem over_of_open? (hs : s.WellFormed) (hx : x ∈ s) (h : slot.open? s x = some o) :
    o.template.Over s := by
  obtain ⟨rfl, rfl⟩ | ⟨k, rfl, rfl⟩ | ⟨k, f, y, rfl, hsplit, rfl⟩ := open?_cases h
  · exact hx
  · trivial
  · exact ⟨(hs.split_mem hsplit).1, trivial⟩

theorem OpenAll.first_open {slots : List Slot} {xs : List TypeId} {os : List Opening}
    (h : OpenAll s slots xs os) (hne : ∀ slot ∈ slots.head?, slot ≠ fixed) :
    ∀ o ∈ os.head?, o.template.isClosed = false := by
  cases h with
  | nil => simp
  | cons first _ =>
    intro o ho
    obtain rfl := Option.some.inj ho
    exact open_of_ne_fixed first (hne _ rfl)

/-- The first argument that is not kept is opened. -/
theorem head?_drop_kept (slots : List Slot) :
    ∀ slot ∈ (slots.drop (kept slots)).head?, slot ≠ fixed := by
  induction slots with
  | nil => simp
  | cons slot slots ih =>
    by_cases h : slot = fixed
    · simpa [kept, h] using ih
    · simp [kept, h]

end Slot

namespace Decomposition

variable {s : Store} {p : Spine} {slots : List Slot} {form : Form} {residuals : List TypeId}

theorem arity_cases (d : Decomposition s p slots form residuals) :
    form.arity = 1 ∨ form.arity = 2 := by
  have hlt := d.largest_lt
  rw [Form.maxArity] at hlt
  rw [d.arity_eq]
  omega

theorem hole_lt (d : Decomposition s p slots form residuals) {o : Opening} (ho : o ∈ d.openings)
    {h : Hole} (hh : h ∈ o.template.holes) : h < form.arity := by
  obtain ⟨slot, hslot, x, _, hopen⟩ := d.opened.exists_open? o ho
  rw [Slot.holes_of_open? hopen, Option.mem_toList] at hh
  rw [d.arity_eq]
  exact Nat.lt_succ_of_le (d.hole_le (List.mem_filterMap.mpr ⟨slot, hslot, hh⟩))

/-- A match over stored types gives a form that can serve as a key. -/
theorem valid (d : Decomposition s p slots form residuals) (hs : s.WellFormed) (hp : p.Over s) :
    form.Valid s := by
  have hmem : ∀ u ∈ (d.openings.drop (Slot.kept slots)).map (·.template),
      ∃ slot ∈ slots, ∃ x ∈ s, ∃ o, slot.open? s x = some o ∧ u = o.template := by
    intro u hu
    obtain ⟨o, ho, rfl⟩ := List.mem_map.mp hu
    obtain ⟨slot, hslot, x, hx, hopen⟩ := d.opened.exists_open? o (List.mem_of_mem_drop ho)
    exact ⟨slot, hslot, x, hp.arguments_mem x hx, o, hopen, rfl⟩
  have hfirst : ∀ u ∈ ((d.openings.drop (Slot.kept slots)).map (·.template)).head?,
      u.isClosed = false := by
    intro u hu
    rw [List.head?_map] at hu
    obtain ⟨o, ho, rfl⟩ := Option.map_eq_some_iff.mp hu
    exact (d.opened.drop _).first_open (Slot.head?_drop_kept slots) o ho
  refine ⟨d.arity_cases, ?_, ?_, ?_⟩
  · intro h hh
    rw [congrArg Form.body d.form_eq, Template.holes_applyAll, Template.holes_fixed,
      List.nil_append, List.mem_flatMap] at hh
    obtain ⟨u, hu, hh⟩ := hh
    obtain ⟨o, ho, rfl⟩ := List.mem_map.mp hu
    exact d.hole_lt (List.mem_of_mem_drop ho) hh
  · rw [congrArg Form.body d.form_eq]
    refine Template.canonical_applyAll (t := .fixed d.start) trivial ?_ fun _ => hfirst
    intro u hu
    obtain ⟨slot, _, x, _, o, hopen, rfl⟩ := hmem u hu
    exact Slot.canonical_of_open? hopen
  · rw [congrArg Form.body d.form_eq]
    refine Template.over_applyAll (t := .fixed d.start) (hp.upTo?_mem d.start_eq) ?_
    intro u hu
    obtain ⟨slot, _, x, hx, o, hopen, rfl⟩ := hmem u hu
    exact Slot.over_of_open? hs hx hopen

end Decomposition

namespace Form

variable {s : Store} {id : TypeId} {f g : Form}

theorem valid_ofConstructor (h : id ∈ s) : (ofConstructor id).Valid s := by
  refine ⟨.inl rfl, ?_, ⟨trivial, trivial, ?_⟩, h, trivial⟩
  · simp [ofConstructor]
  · simp [Template.isClosed]

theorem valid_constant (h : id ∈ s) : (constant id).Valid s :=
  ⟨.inl rfl, by simp [constant], trivial, h⟩

theorem Valid.eq_iff (hs : s.WellFormed) (hf : f.Valid s) (hg : g.Valid s) :
    f = g ↔ f.arity = g.arity ∧ f.body.expand s = g.body.expand s := by
  constructor
  · rintro rfl
    exact ⟨rfl, rfl⟩
  · rintro ⟨ha, hb⟩
    obtain ⟨arity, body⟩ := f
    obtain ⟨arity', body'⟩ := g
    rw [Form.mk.injEq]
    exact ⟨ha, Template.expand_injective hs hf.canonical hg.canonical hf.stored hg.stored hb⟩

end Form

/-- A run of the store together with the forms obtained on the way. A spine that is matched may have
been taken at any moment. -/
inductive Store.Yields : Store → List Form → Prop where
  | start (hash : Shape → UInt64) : Yields (emptyWith hash) []
  | operation {s : Store} {fs : List Form} (earlier : Yields s fs) (op : Operation)
      (issued : op.Issued s) : Yields (op.after s) (op.made s ++ fs)
  | ofConstructor {s : Store} {fs : List Form} (earlier : Yields s fs) {id : TypeId}
      (stored : id ∈ s) : Yields s (.ofConstructor id :: fs)
  | constant {s : Store} {fs : List Form} (earlier : Yields s fs) {id : TypeId} (stored : id ∈ s) :
      Yields s (.constant id :: fs)
  | decompose {s : Store} {fs : List Form} (earlier : Yields s fs) {p : Spine} (stored : p.Over s)
      {slots : List Slot} {f : Form} {residuals : List TypeId}
      (matched : Form.decompose s p slots = some (f, residuals)) : Yields s (f :: fs)

namespace Store

variable {s : Store} {fs : List Form}

theorem Yields.reachable (h : s.Yields fs) : s.Reachable := by
  induction h with
  | start hash => exact .empty hash
  | operation _ op issued ih => exact .step ih op issued
  | ofConstructor _ _ ih => exact ih
  | constant _ _ ih => exact ih
  | decompose _ _ _ ih => exact ih

theorem Reachable.exists_yields (h : s.Reachable) : ∃ fs, s.Yields fs := by
  induction h with
  | empty hash => exact ⟨[], .start hash⟩
  | step _ op issued ih =>
    obtain ⟨fs, hfs⟩ := ih
    exact ⟨_, .operation hfs op issued⟩

/-- Every form obtained on a run can serve as a key, then and later. -/
theorem Yields.valid (h : s.Yields fs) : ∀ f ∈ fs, f.Valid s := by
  induction h with
  | start => simp
  | @operation s fs _ op issued ih =>
    intro f hf
    rcases List.mem_append.mp hf with hf | hf
    · exact Operation.valid_made issued f hf
    · exact Form.valid_of_le (Operation.grows_after issued).le (ih f hf)
  | ofConstructor _ stored ih =>
    exact List.forall_mem_cons.mpr ⟨Form.valid_ofConstructor stored, ih⟩
  | constant _ stored ih => exact List.forall_mem_cons.mpr ⟨Form.valid_constant stored, ih⟩
  | decompose earlier stored matched ih =>
    obtain ⟨d⟩ := (Form.decompose_eq_some_iff ..).mp matched
    exact List.forall_mem_cons.mpr ⟨d.valid earlier.reachable.wellFormed stored, ih⟩

end Store

/-- Forms obtained at any moments of a run are canonical, and are equal exactly if they stand for
the same. What they stand for does not depend on the moment. -/
theorem forms_are_canonical_keys {s : Store} {fs : List Form} (h : s.Yields fs) {f g : Form}
    (hf : f ∈ fs) (hg : g ∈ fs) :
    (f.arity = 1 ∨ f.arity = 2) ∧ (∀ k ∈ f.body.holes, k < f.arity) ∧ f.body.Canonical ∧
      (∀ t, s.Reaches t → f.body.expand t = f.body.expand s) ∧
      (f = g ↔ f.arity = g.arity ∧ f.body.expand s = g.body.expand s) := by
  have hs := h.reachable.wellFormed
  have hfv := h.valid f hf
  have hgv := h.valid g hg
  refine ⟨hfv.arity_eq, hfv.holes_lt, hfv.canonical, ?_, hfv.eq_iff hs hgv⟩
  intro t ht
  exact Template.expand_of_le hs (ht.grows.wellFormed hs) ht.grows.le hfv.stored

/-- The form of `Pair Int` and the form matched in `Pair Int String` are one key. -/
theorem pair_int_is_one_key :
    ∃ fs g, Store.pairs.Yields (.ofConstructor ⟨3⟩ :: g :: fs) ∧
      Form.decompose Store.pairs (Store.pairs.spine ⟨4⟩) [.fixed, .hole 0] = some (g, [⟨1⟩]) ∧
      (Form.ofConstructor ⟨3⟩).body.Canonical ∧
      (Form.ofConstructor ⟨3⟩ = g ↔ (Form.ofConstructor ⟨3⟩).arity = g.arity ∧
        (Form.ofConstructor ⟨3⟩).body.expand Store.pairs = g.body.expand Store.pairs) := by
  obtain ⟨fs, hfs⟩ := Store.reachable_pairs.exists_yields
  have hspine := Store.spine_over Store.reachable_pairs.wellFormed (y := ⟨4⟩) (by decide +kernel)
  have hmatched : Form.decompose Store.pairs (Store.pairs.spine ⟨4⟩) [.fixed, .hole 0] =
      some (⟨1, .application (.fixed ⟨3⟩) (.hole 0)⟩, [⟨1⟩]) := by decide +kernel
  have hstored : ⟨3⟩ ∈ Store.pairs := by decide +kernel
  have hrun := (hfs.decompose hspine hmatched).ofConstructor hstored
  obtain ⟨_, _, hcanonical, _, hiff⟩ := forms_are_canonical_keys hrun List.mem_cons_self
    (List.mem_cons_of_mem _ List.mem_cons_self)
  exact ⟨fs, _, hrun, hmatched, hcanonical, hiff⟩

end FormRecovery
