import FormRecovery.Proofs.Instantiation

/-!
Making a template canonical. It fails exactly if some part without holes has no kind, and it changes
nothing that the template gives: put residuals into the template as it was or as it is made, and the
same type is stored, or the same application is refused, in the same store.
-/
namespace FormRecovery

namespace Template

/-- The kind of a template without holes. Each application in it fits by kind. -/
inductive HasKind (s : Store) : Template → Kind → Prop where
  | fixed (id : TypeId) : HasKind s (fixed id) (s.kind id)
  | application {f x : Template} {parameter result : Kind}
      (function : HasKind s f (.arrow parameter result)) (argument : HasKind s x parameter) :
      HasKind s (application f x) result

/-- The template itself, or a part of one of its sides. -/
inductive PartOf (p : Template) : Template → Prop where
  | self : PartOf p p
  | function {f x : Template} (h : PartOf p f) : PartOf p (application f x)
  | argument {f x : Template} (h : PartOf p x) : PartOf p (application f x)

/-- Every part without holes has a kind. -/
def WellKinded (s : Store) (u : Template) : Prop :=
  ∀ p, PartOf p u → p.isClosed = true → ∃ k, p.HasKind s k

section

variable {s t : Store} {u f x p : Template} {k k' : Kind}

theorem hasKind_fixed_iff {id : TypeId} : (fixed id).HasKind s k ↔ s.kind id = k := by
  constructor
  · intro h
    cases h
    rfl
  · rintro rfl
    exact .fixed id

theorem hasKind_application_iff : (application f x).HasKind s k ↔
    ∃ parameter, f.HasKind s (.arrow parameter k) ∧ x.HasKind s parameter := by
  constructor
  · intro h
    cases h with
    | application function argument => exact ⟨_, function, argument⟩
  · rintro ⟨parameter, function, argument⟩
    exact .application function argument

theorem HasKind.unique (h : u.HasKind s k) (h' : u.HasKind s k') : k = k' := by
  induction h generalizing k' with
  | fixed id => exact hasKind_fixed_iff.mp h'
  | application _ _ ihf _ =>
    obtain ⟨parameter, hf, _⟩ := hasKind_application_iff.mp h'
    exact (Kind.arrow.inj (ihf hf)).2

theorem HasKind.isClosed (h : u.HasKind s k) : u.isClosed = true := by
  induction h with
  | fixed id => rfl
  | application _ _ ihf ihx => rw [isClosed_application, ihf, ihx, Bool.and_self]

/-- The kind does not change when the store grows. -/
theorem hasKind_iff_of_le (hle : s ≤ t) (hu : u.Over s) : u.HasKind t k ↔ u.HasKind s k := by
  induction u generalizing k with
  | fixed id => rw [hasKind_fixed_iff, hasKind_fixed_iff, Store.kind_of_le hle hu]
  | hole h => exact ⟨nofun, nofun⟩
  | application f x ihf ihx =>
    simp only [hasKind_application_iff, ihf hu.1, ihx hu.2]

theorem PartOf.over (h : p.PartOf u) (hu : u.Over s) : p.Over s := by
  induction h with
  | self => exact hu
  | function _ ih => exact ih hu.1
  | argument _ ih => exact ih hu.2

theorem wellKinded_iff_of_le (hle : s ≤ t) (hu : u.Over s) : u.WellKinded t ↔ u.WellKinded s := by
  refine forall_congr' fun p => forall_congr' fun hp => imp_congr_right fun _ => ?_
  exact exists_congr fun k => hasKind_iff_of_le hle (hp.over hu)

theorem wellKinded_fixed (id : TypeId) : (fixed id).WellKinded s := by
  intro p hp _
  cases hp
  exact ⟨_, .fixed id⟩

theorem wellKinded_hole (h : Hole) : (hole h).WellKinded s := by
  intro p hp hclosed
  cases hp
  contradiction

theorem wellKinded_application : (application f x).WellKinded s ↔
    f.WellKinded s ∧ x.WellKinded s ∧
      ((application f x).isClosed = true → ∃ k, (application f x).HasKind s k) := by
  constructor
  · intro h
    exact ⟨fun p hp => h p (.function hp), fun p hp => h p (.argument hp), h _ .self⟩
  · rintro ⟨hf, hx, hself⟩ p hp
    cases hp with
    | self => exact hself
    | function hp => exact hf p hp
    | argument hp => exact hx p hp

end

end Template

namespace Interning

variable {s : Store}

/-- Two sequences do the same on a store if their first steps do, and the next steps after these. -/
theorem bind_congr_on {ε α β : Type} {a b : Interning ε α} {g h : α → Interning ε β}
    (hfirst : a s = b s) (hnext : ∀ r t, b s = .ok r t → g r t = h r t) :
    (a >>= g) s = (b >>= h) s := by
  simp only [Bind.bind, EStateM.bind, hfirst]
  cases hr : b s with
  | ok r t => exact hnext r t hr
  | error e t => rfl

end Interning

namespace Template

open Interning

variable {s t w : Store} {u v f x : Template} {residuals : List TypeId}

theorem canonicalize_application_eq_ok_iff : (application f x).canonicalize s = .ok v t ↔
    ∃ g s₁ y s₂, f.canonicalize s = .ok g s₁ ∧ x.canonicalize s₁ = .ok y s₂ ∧
      collapse g y s₂ = .ok v t := by
  simp only [canonicalize, bind_eq_ok_iff, exists_and_left]

/-- Two canonical sides are collapsed if both are single types, and are put together otherwise. -/
theorem collapse_ok (hf : f.Canonical) (hx : x.Canonical) (h : collapse f x s = .ok v t) :
    (∃ a b id, f = fixed a ∧ x = fixed b ∧ apply a b s = .ok id t ∧ v = fixed id) ∨
      (¬(f.isClosed = true ∧ x.isClosed = true) ∧ v = application f x ∧ t = s) := by
  by_cases hclosed : f.isClosed = true ∧ x.isClosed = true
  · obtain ⟨a, rfl⟩ := canonical_closed hf hclosed.1
    obtain ⟨b, rfl⟩ := canonical_closed hx hclosed.2
    rw [collapse_fixed] at h
    obtain ⟨id, happly, rfl⟩ := map_eq_ok_iff.mp h
    exact .inl ⟨a, b, id, rfl, rfl, happly, rfl⟩
  · rw [collapse_open hclosed] at h
    obtain ⟨rfl, rfl⟩ := EStateM.Result.ok.inj h
    exact .inr ⟨hclosed, rfl, rfl⟩

theorem collapse_error {e : KindError} (h : collapse f x s = .error e t) :
    ∃ a b, f = fixed a ∧ x = fixed b ∧ apply a b s = .error e t := by
  rcases collapse_cases f x with ⟨a, b, rfl, rfl⟩ | hopen
  · rw [collapse_fixed] at h
    exact ⟨a, b, rfl, rfl, map_eq_error_iff.mp h⟩
  · rw [hopen] at h
    contradiction

/-- The sides of an application made canonical, the function first. -/
structure CanonicalSides (s : Store) (f x : Template) where
  function : Template
  argument : Template
  between : Store
  after : Store
  function_eq : f.canonicalize s = .ok function between
  argument_eq : x.canonicalize between = .ok argument after
  grows : s.Grows between
  grows_after : between.Grows after
  function_over : function.Over between
  argument_over : argument.Over after
  function_canonical : function.Canonical
  argument_canonical : argument.Canonical
  function_holes : function.holes = f.holes
  argument_holes : argument.holes = x.holes

/-- An application that was made canonical is what its sides collapse to. -/
theorem canonicalSides_of_ok (hu : (application f x).Over s)
    (h : (application f x).canonicalize s = .ok v t) :
    ∃ c : CanonicalSides s f x, collapse c.function c.argument c.after = .ok v t := by
  obtain ⟨g, s₁, y, s₂, hg, hy, hv⟩ := canonicalize_application_eq_ok_iff.mp h
  obtain ⟨hgrows, hgover, hgcanonical, hgholes⟩ := (keeps_canonicalize hu.1).of_ok hg
  obtain ⟨hgrows', hyover, hycanonical, hyholes⟩ :=
    (keeps_canonicalize (over_of_le hgrows.le hu.2)).of_ok hy
  exact ⟨⟨g, y, s₁, s₂, hg, hy, hgrows, hgrows', hgover, hyover, hgcanonical, hycanonical, hgholes,
    hyholes⟩, hv⟩

/-- A template that was made canonical has a kind wherever it has no holes. If a single type is left
of it, it has the kind of this type. -/
theorem wellKinded_of_canonicalize (hs : s.WellFormed) (hu : u.Over s)
    (h : u.canonicalize s = .ok v t) :
    u.WellKinded s ∧ ∀ id, v = fixed id → u.HasKind s (t.kind id) := by
  induction u generalizing s t v with
  | fixed id =>
    obtain ⟨rfl, rfl⟩ := EStateM.Result.ok.inj h
    refine ⟨wellKinded_fixed id, ?_⟩
    intro id' heq
    obtain rfl := fixed.inj heq
    exact .fixed id
  | hole k =>
    obtain ⟨rfl, rfl⟩ := EStateM.Result.ok.inj h
    exact ⟨wellKinded_hole k, nofun⟩
  | application f x ihf ihx =>
    obtain ⟨c, hc⟩ := canonicalSides_of_ok hu h
    have hbetween := c.grows.wellFormed hs
    have hx := over_of_le c.grows.le hu.2
    obtain ⟨hfkinded, hfkind⟩ := ihf hs hu.1 c.function_eq
    obtain ⟨hxkinded, hxkind⟩ := ihx hbetween hx c.argument_eq
    rw [wellKinded_iff_of_le c.grows.le hu.2] at hxkinded
    rw [wellKinded_application]
    rcases collapse_ok c.function_canonical c.argument_canonical hc with
      ⟨a, b, id, ha, hb, happly, rfl⟩ | ⟨hopen, rfl, _⟩
    · have ham : a ∈ c.between := by simpa [ha, Over] using c.function_over
      have hbm : b ∈ c.after := by simpa [hb, Over] using c.argument_over
      have hfits := kind_of_apply (c.grows_after.wellFormed hbetween)
        (Store.mem_of_le c.grows_after.le ham) hbm happly
      rw [Store.kind_of_le c.grows_after.le ham] at hfits
      have hkind : (application f x).HasKind s (t.kind id) :=
        .application (hfits ▸ hfkind a ha) ((hasKind_iff_of_le c.grows.le hu.2).mp (hxkind b hb))
      refine ⟨⟨hfkinded, hxkinded, fun _ => ⟨_, hkind⟩⟩, ?_⟩
      intro id' heq
      obtain rfl := fixed.inj heq
      exact hkind
    · refine ⟨⟨hfkinded, hxkinded, ?_⟩, nofun⟩
      intro hclosed
      rw [isClosed_application, Bool.and_eq_true, isClosed, isClosed, ← c.function_holes,
        ← c.argument_holes] at hclosed
      exact absurd hclosed hopen

/-- A template that is refused has a part without holes and without a kind. -/
theorem not_wellKinded_of_canonicalize (hs : s.WellFormed) (hu : u.Over s) {e : KindError}
    (h : u.canonicalize s = .error e t) : ¬u.WellKinded s := by
  induction u generalizing s with
  | fixed id => contradiction
  | hole k => contradiction
  | application f x ihf ihx =>
    rw [wellKinded_application]
    rintro ⟨hfkinded, hxkinded, hself⟩
    rcases bind_eq_error_iff.mp h with hf | ⟨g, s₁, hg, h⟩
    · exact ihf hs hu.1 hf hfkinded
    obtain ⟨hgrows, hgover, _⟩ := (keeps_canonicalize hu.1).of_ok hg
    have hbetween := hgrows.wellFormed hs
    have hxover := over_of_le hgrows.le hu.2
    rcases bind_eq_error_iff.mp h with hx | ⟨y, s₂, hy, h⟩
    · exact ihx hbetween hxover hx ((wellKinded_iff_of_le hgrows.le hu.2).mpr hxkinded)
    obtain ⟨hgrows', hyover, _⟩ := (keeps_canonicalize hxover).of_ok hy
    obtain ⟨a, b, rfl, rfl, hrefused⟩ := collapse_error h
    -- both sides are left as single types: the application has no holes and must have a kind
    have hfkind := (wellKinded_of_canonicalize hs hu.1 hg).2 a rfl
    have hxkind := (hasKind_iff_of_le hgrows.le hu.2).mp
      ((wellKinded_of_canonicalize hbetween hxover hy).2 b rfl)
    obtain ⟨k, hk⟩ :=
      hself (by rw [isClosed_application, hfkind.isClosed, hxkind.isClosed, Bool.and_self])
    obtain ⟨parameter, hf, hx⟩ := hasKind_application_iff.mp hk
    have hfits : s₂.kind a = .arrow (s₂.kind b) k := by
      rw [Store.kind_of_le hgrows'.le hgover, hfkind.unique hf, hxkind.unique hx]
    obtain ⟨id, t', hstored, _⟩ := apply_of_kind (hgrows'.wellFormed hbetween)
      (Store.mem_of_le hgrows'.le hgover) hyover hfits
    rw [hstored] at hrefused
    contradiction

/-- A canonical template is given back as it is. -/
theorem canonicalize_of_canonical (hu : u.Canonical) : u.canonicalize s = .ok u s := by
  induction u with
  | fixed id => rfl
  | hole k => rfl
  | application f x ihf ihx =>
    refine canonicalize_application_eq_ok_iff.mpr ⟨f, s, x, s, ihf hu.1, ihx hu.2.1, ?_⟩
    rw [collapse_open hu.2.2]
    rfl

/-- In every later store the template gives the same as it is made: the same type or the same
failure, in the same store. -/
theorem instantiate_of_canonicalize (hs : s.WellFormed) (hu : u.Over s)
    (h : u.canonicalize s = .ok v t) (hw : t.Grows w) (hr : ∀ r ∈ residuals, r ∈ w) :
    v.instantiate residuals w = u.instantiate residuals w := by
  induction u generalizing s t v w with
  | fixed id =>
    obtain ⟨rfl, rfl⟩ := EStateM.Result.ok.inj h
    rfl
  | hole k =>
    obtain ⟨rfl, rfl⟩ := EStateM.Result.ok.inj h
    rfl
  | application f x ihf ihx =>
    obtain ⟨c, hc⟩ := canonicalSides_of_ok hu h
    have hbetween := c.grows.wellFormed hs
    have hafter := c.grows_after.wellFormed hbetween
    have hx := over_of_le c.grows.le hu.2
    rcases collapse_ok c.function_canonical c.argument_canonical hc with
      ⟨a, b, id, ha, hb, happly, rfl⟩ | ⟨_, rfl, rfl⟩
    · have ham : a ∈ c.after := by
        simpa [ha, Over] using over_of_le c.grows_after.le c.function_over
      have hbm : b ∈ c.after := by simpa [hb, Over] using c.argument_over
      have hgrows := ((keeps_apply ham hbm).of_ok happly).1
      have hlater := hgrows.trans hw
      -- the two sides are stored already, and so is their application
      have hf := ihf hs hu.1 c.function_eq (c.grows_after.trans hlater) hr
      have hx' := ihx hbetween hx c.argument_eq hlater hr
      rw [ha] at hf
      rw [hb] at hx'
      have hagain := ((settles_apply ham hbm).of_ok happly).2 w (hlater.wellFormed hafter) hw.le
      symm
      exact instantiate_application_eq_ok_iff.mpr ⟨a, w, b, w, hf.symm, hx'.symm, hagain⟩
    · refine bind_congr_on (ihf hs hu.1 c.function_eq (c.grows_after.trans hw) hr) ?_
      intro g w' hg
      have hwell := (c.grows.trans (c.grows_after.trans hw))
      have hgrows := (keeps_instantiate (over_of_le hwell.le hu.1) hr).of_ok hg
      have hr' : ∀ r ∈ residuals, r ∈ w' := fun r hm => Store.mem_of_le hgrows.1.le (hr r hm)
      exact bind_congr_on (ihx hbetween hx c.argument_eq (hw.trans hgrows.1) hr') fun _ _ _ => rfl

/-- And it is read as the same types. -/
theorem reconstructs_of_canonicalize (hs : s.WellFormed) (hu : u.Over s)
    (h : u.canonicalize s = .ok v t) (hw : t.Grows w) (hr : ∀ r ∈ residuals, r ∈ w) (y : TypeId) :
    v.reconstructs w residuals y = u.reconstructs w residuals y := by
  obtain ⟨hgrows, hv, _⟩ := (keeps_canonicalize hu).of_ok h
  have hwell := (hgrows.trans hw).wellFormed hs
  have hgives := instantiate_of_canonicalize hs hu h hw hr
  rw [Bool.eq_iff_iff, ← instantiate_eq_ok_iff hwell (over_of_le hw.le hv) hr,
    ← instantiate_eq_ok_iff hwell (over_of_le (hgrows.trans hw).le hu) hr, hgives]

end Template

namespace Form

open Interning

variable {s t : Store} {arity : Nat} {body : Template} {f : Form}

theorem fault?_eq_unsupportedArity_iff :
    fault? arity body = some (.unsupportedArity arity) ↔ ¬(arity = 1 ∨ arity = 2) := by
  unfold fault?
  rw [← supported_iff]
  split
  · next h =>
    simp only [h, and_self, not_true_eq_false, iff_false]
    split
    · split <;> simp
    · simp
  · next h => simp [h]

/-- The hole that a template is refused for is its largest one. -/
theorem fault?_eq_holeOutOfRange_iff (ha : arity = 1 ∨ arity = 2) (h : Hole) :
    fault? arity body = some (.holeOutOfRange h arity) ↔
      (h ∈ body.holes ∧ ∀ k ∈ body.holes, k ≤ h) ∧ ¬h < arity := by
  rw [fault?, if_pos ((supported_iff arity).mpr ha), ← List.max?_eq_some_iff]
  cases body.holes.max? with
  | none => simp
  | some k =>
    by_cases hk : k < arity
    · simp only [hk, if_true, Option.some.injEq, reduceCtorEq, false_iff, not_and, not_not]
      rintro rfl
      exact hk
    · simp only [hk, if_false, Option.some.injEq, FormError.holeOutOfRange.injEq, and_true]
      constructor
      · rintro rfl
        exact ⟨rfl, hk⟩
      · exact And.left

theorem ofTemplate_eq_fault_iff {e : FormError} (he : ∀ cause, e ≠ .kind cause) :
    ofTemplate arity body s = .error e s ↔ fault? arity body = some e := by
  constructor
  · intro h
    rcases ofTemplate_error h with ⟨_, hfault⟩ | ⟨cause, hkind⟩
    · exact hfault
    · exact absurd hkind (he cause)
  · intro h
    rw [ofTemplate, h]
    rfl

theorem ofTemplate_eq_kind_iff (h : fault? arity body = none) {cause : KindError} :
    ofTemplate arity body s = .error (.kind cause) t ↔ body.canonicalize s = .error cause t := by
  rw [ofTemplate, h]
  constructor
  · intro hr
    rcases bind_eq_error_iff.mp hr with hr | ⟨v, u, _, hr⟩
    · obtain ⟨cause', hcause, heq⟩ := adaptExcept_eq_error_iff.mp hr
      rwa [FormError.kind.inj heq] at hcause
    · contradiction
  · intro hr
    exact bind_eq_error_iff.mpr (.inl (adaptExcept_eq_error_iff.mpr ⟨cause, hr, rfl⟩))

theorem ofTemplate_eq_ok_iff : ofTemplate arity body s = .ok f t ↔
    fault? arity body = none ∧ f.arity = arity ∧ body.canonicalize s = .ok f.body t := by
  unfold ofTemplate
  cases h : fault? arity body with
  | some e => exact ⟨nofun, nofun⟩
  | none =>
    simp only [true_and]
    constructor
    · intro hr
      obtain ⟨v, u, hv, hr⟩ := bind_eq_ok_iff.mp hr
      obtain ⟨rfl, rfl⟩ := EStateM.Result.ok.inj hr
      exact ⟨rfl, adaptExcept_eq_ok_iff.mp hv⟩
    · rintro ⟨rfl, hv⟩
      exact bind_eq_ok_iff.mpr ⟨f.body, t, adaptExcept_eq_ok_iff.mpr hv, rfl⟩

/-- What is not refused for its arity or its holes is refused exactly if it is not well kinded. -/
theorem ofTemplate_of_no_fault (hs : s.WellFormed) (hb : body.Over s)
    (h : fault? arity body = none) :
    ((∃ cause t, ofTemplate arity body s = .error (.kind cause) t) ↔ ¬body.WellKinded s) ∧
      ((∃ f t, ofTemplate arity body s = .ok f t) ↔ body.WellKinded s) := by
  cases hr : body.canonicalize s with
  | ok v t =>
    have hkinded := (Template.wellKinded_of_canonicalize hs hb hr).1
    have hmade : ofTemplate arity body s = .ok ⟨arity, v⟩ t := ofTemplate_eq_ok_iff.mpr ⟨h, rfl, hr⟩
    rw [hmade]
    exact ⟨⟨nofun, fun hnot => absurd hkinded hnot⟩, fun _ => hkinded, fun _ => ⟨_, _, rfl⟩⟩
  | error e t =>
    have hnot := Template.not_wellKinded_of_canonicalize hs hb hr
    rw [(ofTemplate_eq_kind_iff h).mpr hr]
    exact ⟨⟨fun _ => hnot, fun _ => ⟨_, _, rfl⟩⟩, nofun, fun hkinded => absurd hkinded hnot⟩

end Form

/-- A template is refused for its arity, then for its largest hole, then for a part without holes
that has no kind, and is made a form otherwise. In the store that is left, the form and the template
as it was give the same for all residuals, a stored type or a failure of kinds, and leave the same
store; they are read as the same types; and the body of the form makes the same form again without
storing anything. -/
theorem form_keeps_meaning {s : Store} (hs : s.Reachable) (arity : Nat) {body : Template}
    (hb : body.Over s) :
    (Form.ofTemplate arity body s = .error (.unsupportedArity arity) s ↔ ¬(arity = 1 ∨ arity = 2)) ∧
    (arity = 1 ∨ arity = 2 →
      (∀ h, Form.ofTemplate arity body s = .error (.holeOutOfRange h arity) s ↔
        (h ∈ body.holes ∧ ∀ k ∈ body.holes, k ≤ h) ∧ ¬h < arity) ∧
      ((∀ h ∈ body.holes, h < arity) →
        ((∃ cause t, Form.ofTemplate arity body s = .error (.kind cause) t) ↔
          ∃ p : Template, p.PartOf body ∧ p.isClosed = true ∧ ∀ k, ¬p.HasKind s k) ∧
        ((∃ f t, Form.ofTemplate arity body s = .ok f t) ↔
          ∀ p : Template, p.PartOf body → p.isClosed = true → ∃ k, p.HasKind s k))) ∧
    ∀ f t, Form.ofTemplate arity body s = .ok f t →
      (∀ residuals, residuals.length = arity → (∀ r ∈ residuals, r ∈ t) →
        f.instantiate residuals t = body.instantiate residuals t ∧
        (∀ e u, f.instantiate residuals t = .error e u → ∃ cause, e = .kind cause) ∧
        ∀ x, f.reconstructs t residuals x = body.reconstructs t residuals x) ∧
      Form.ofTemplate arity f.body t = .ok f t := by
  have hwell := hs.wellFormed
  refine ⟨?_, ?_, ?_⟩
  · rw [Form.ofTemplate_eq_fault_iff (e := .unsupportedArity arity) nofun,
      Form.fault?_eq_unsupportedArity_iff]
  · intro harity
    refine ⟨?_, ?_⟩
    · intro h
      rw [Form.ofTemplate_eq_fault_iff (e := .holeOutOfRange h arity) nofun,
        Form.fault?_eq_holeOutOfRange_iff harity]
    · intro hholes
      have hill : (∃ p : Template, p.PartOf body ∧ p.isClosed = true ∧ ∀ k, ¬p.HasKind s k) ↔
          ¬body.WellKinded s := by
        simp only [Template.WellKinded, not_forall, not_exists, exists_prop]
      rw [hill]
      exact Form.ofTemplate_of_no_fault hwell hb
        ((Form.fault?_eq_none_iff arity body).mpr ⟨harity, hholes⟩)
  · intro f t h
    obtain ⟨hgrows, hvalid⟩ := (Form.keeps_ofTemplate hb arity).of_ok h
    obtain ⟨_, harity, hcanonical⟩ := Form.ofTemplate_eq_ok_iff.mp h
    refine ⟨?_, ?_⟩
    · intro residuals hcount hr
      rw [← harity] at hcount
      refine ⟨?_, fun e u => Form.kind_of_instantiate_error hvalid hcount, ?_⟩
      · rw [Form.instantiate, if_pos hcount]
        exact Template.instantiate_of_canonicalize hwell hb hcanonical (.refl t) hr
      · intro x
        rw [Form.reconstructs, hcount, BEq.rfl, Bool.true_and]
        exact Template.reconstructs_of_canonicalize hwell hb hcanonical (.refl t) hr x
    · have hfault := (Form.fault?_eq_none_iff arity f.body).mpr
        (harity ▸ ⟨hvalid.arity_eq, hvalid.holes_lt⟩)
      exact Form.ofTemplate_eq_ok_iff.mpr
        ⟨hfault, harity, Template.canonicalize_of_canonical hvalid.canonical⟩

/-- The template `\a -> Pair (Pair Int String) a`, written out. -/
def Template.pairOfPair : Template :=
  .application (.application (.fixed ⟨2⟩)
    (.application (.application (.fixed ⟨2⟩) (.fixed ⟨0⟩)) (.fixed ⟨1⟩))) (.hole 0)

/-- The closed part `Pair (Pair Int String)` becomes one stored type. At `Int` the form and the
template store the same type, and at `Pair` they are refused alike. -/
theorem meaning_of_pair_of_pair :
    ∃ t, Form.ofTemplate 1 Template.pairOfPair Store.pairs = .ok (.ofConstructor ⟨6⟩) t ∧
      (∀ p : Template, p.PartOf Template.pairOfPair → p.isClosed = true →
        ∃ k, p.HasKind Store.pairs k) ∧
      (Form.ofConstructor ⟨6⟩).instantiate [⟨0⟩] t = Template.pairOfPair.instantiate [⟨0⟩] t ∧
      (Form.ofConstructor ⟨6⟩).instantiate [⟨2⟩] t = Template.pairOfPair.instantiate [⟨2⟩] t ∧
      (∃ cause u, Template.pairOfPair.instantiate [⟨2⟩] t = .error (.kind cause) u) ∧
      Form.ofTemplate 1 (Form.ofConstructor ⟨6⟩).body t = .ok (.ofConstructor ⟨6⟩) t := by
  have hover : Template.pairOfPair.Over Store.pairs := by decide +kernel
  have hform : (match Form.ofTemplate 1 Template.pairOfPair Store.pairs with
      | .ok f _ => some f
      | .error _ _ => none) = some (.ofConstructor ⟨6⟩) := by decide +kernel
  have hrefused : (match Form.ofTemplate 1 Template.pairOfPair Store.pairs with
      | .ok _ t => match (Form.ofConstructor ⟨6⟩).instantiate [⟨2⟩] t with
        | .ok id _ => some id
        | .error _ _ => none
      | .error _ _ => none) = none := by decide +kernel
  obtain ⟨_, hvalidated, hmeaning⟩ := form_keeps_meaning Store.reachable_pairs 1 hover
  have hkinded := ((hvalidated (.inl rfl)).2 (by decide)).2
  cases h : Form.ofTemplate 1 Template.pairOfPair Store.pairs with
  | error e t => simp [h] at hform
  | ok f t =>
    obtain rfl : f = .ofConstructor ⟨6⟩ := by simpa [h] using hform
    obtain ⟨hsame, hagain⟩ := hmeaning _ t h
    have hle := ((Form.keeps_ofTemplate hover 1).of_ok h).1.le
    have hint : ∀ r ∈ [(⟨0⟩ : TypeId)], r ∈ t :=
      List.forall_mem_singleton.mpr (Store.mem_of_le hle (by decide +kernel))
    have hpair : ∀ r ∈ [(⟨2⟩ : TypeId)], r ∈ t :=
      List.forall_mem_singleton.mpr (Store.mem_of_le hle (by decide +kernel))
    obtain ⟨hpairSame, hkinds, _⟩ := hsame [⟨2⟩] rfl hpair
    refine ⟨t, rfl, hkinded.mp ⟨_, t, h⟩, (hsame [⟨0⟩] rfl hint).1, hpairSame, ?_, hagain⟩
    cases hr : (Form.ofConstructor ⟨6⟩).instantiate [⟨2⟩] t with
    | ok id u => simp [h, hr] at hrefused
    | error e u =>
      obtain ⟨cause, rfl⟩ := hkinds e u hr
      exact ⟨cause, u, hpairSame ▸ hr⟩

end FormRecovery
