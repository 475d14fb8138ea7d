import FormRecovery.Proofs.RoundTrips

/-!
What coercions refuse, and what their errors say. A conversion takes one tag, and its error names
this tag and that of the value. The one exception is the way back to the second type of a product:
it checks the form itself and leaves the residuals to the evidence of the second resolution, whose
error is about the form that the value was converted to.
-/
namespace FormRecovery

variable {ι α β : Type}

/-- The conversion takes values of one type. For another it fails, with this type and that of the
value. -/
def RefusesOtherTypes (x : TypeId) (convert : Applied α → Except CoercionError β) : Prop :=
  ∀ a e, convert a = .error e ↔ a.type ≠ x ∧ e = .appliedMismatch x a.type

/-- The conversion takes values at one form and its residuals. For others it fails, with this form
and that of the value. -/
def RefusesOtherViews (form : Form) (residuals : List TypeId)
    (convert : Decomposed α → Except CoercionError β) : Prop :=
  ∀ d e, convert d = .error e ↔
    ¬(d.form = form ∧ d.residuals = residuals) ∧ e = .decomposedMismatch form d.form

namespace Equality

theorem toDecomposed_refuses (e : Equality) :
    RefusesOtherTypes e.applied (e.toDecomposed (α := α)) := by
  intro a err
  unfold toDecomposed
  by_cases h : a.type = e.applied
  · simp [h]
  · simp [h, eq_comm]

theorem toApplied_refuses (e : Equality) :
    RefusesOtherViews e.form e.residuals (e.toApplied (α := α)) := by
  intro d err
  unfold toApplied
  by_cases h : d.form = e.form ∧ d.residuals = e.residuals
  · simp [h]
  · rw [if_neg h]
    simp [h, eq_comm]

end Equality

namespace Product

variable {s : Store} {x y : TypeId} {p : Product ι α}

theorem decomposeSecond_refuses (p : Product ι α) :
    RefusesOtherTypes p.second.applied p.decomposeSecond := by
  intro a err
  have hevidence := p.second.equality.toDecomposed_refuses a err
  rw [show p.second.applied = p.second.equality.applied from rfl, ← hevidence]
  simp only [decomposeSecond, Resolution.toDecomposed, bind, Except.bind, pure, Except.pure]
  cases p.second.equality.toDecomposed a <;> simp

/-- The form is refused as such. Other residuals are refused by the evidence of the second
resolution, which has the value at its own form by then. -/
theorem restoreSecond_eq_error_iff {d : Decomposed α} {e : CoercionError} :
    p.restoreSecond d = .error e ↔
      (d.form ≠ p.form ∧ e = .decomposedMismatch p.form d.form) ∨
      d.form = p.form ∧ d.residuals ≠ p.second.residuals ∧
        e = .decomposedMismatch p.second.form p.second.form := by
  unfold restoreSecond
  by_cases hform : d.form = p.form
  · rw [if_pos hform]
    refine (p.second.equality.toApplied_refuses _ e).trans ?_
    simp [hform, Resolution.form, Resolution.residuals]
  · simp [hform, eq_comm]

/-- What the conversions of a product refuse, where `x` is its form at `a`, and `y` is the other
form at `b`. -/
structure Refusals (p : Product ι α) (x y a b : TypeId) : Prop where
  decomposeFirst : RefusesOtherTypes x p.decomposeFirst
  decomposeSecond : RefusesOtherTypes y p.decomposeSecond
  restoreFirst : RefusesOtherViews p.form [a] p.restoreFirst
  restoreSecond : ∀ d e, p.restoreSecond d = .error e ↔
    (d.form ≠ p.form ∧ e = .decomposedMismatch p.form d.form) ∨
    d.form = p.form ∧ d.residuals ≠ [b] ∧ e = .decomposedMismatch p.second.form p.second.form
  restoreSecond_of_same_form : p.form = p.second.form → RefusesOtherViews p.form [b] p.restoreSecond

end Product

/-- Evidence, resolutions and accepted products refuse what has another tag than they take, and
nothing else. Their errors name the type or the form that they take and that of the value; only the
way back to the second type of a product answers other residuals at the shared form with the form of
the second resolution twice, which is the shared form if both resolutions have one form. -/
theorem coercions_refuse_other_tags :
    (∀ e : Equality, RefusesOtherTypes e.applied (e.toDecomposed (α := α)) ∧
      RefusesOtherViews e.form e.residuals (e.toApplied (α := α))) ∧
    (∀ r : Resolution ι, RefusesOtherTypes r.applied (r.toDecomposed (α := α)) ∧
      RefusesOtherViews r.form r.residuals (r.toApplied (α := α))) ∧
    ∀ (s : Store) (x y : TypeId) (p : Product ι α), p.Accepted s x y →
      ∃ a b, p.firstResidual? = some a ∧ p.secondResidual? = some b ∧ p.Refusals x y a b := by
  refine ⟨?_, ?_, ?_⟩
  · intro e
    exact ⟨e.toDecomposed_refuses, e.toApplied_refuses⟩
  · intro r
    exact ⟨r.equality.toDecomposed_refuses, r.equality.toApplied_refuses⟩
  intro s x y p h
  obtain ⟨a, hfirst⟩ := h.obtained.1.exists_takenFrom
  obtain ⟨b, hsecond⟩ := h.obtained.2.exists_takenFrom
  have hrestore (d e) := hsecond.residuals_eq ▸ p.restoreSecond_eq_error_iff (d := d) (e := e)
  refine ⟨a, b, hfirst.residual?_eq, hsecond.residual?_eq, ?_⟩
  constructor
  case decomposeFirst => exact hfirst.applied_eq ▸ p.first.equality.toDecomposed_refuses
  case decomposeSecond => exact hsecond.applied_eq ▸ p.decomposeSecond_refuses
  case restoreFirst => exact hfirst.residuals_eq ▸ p.first.equality.toApplied_refuses
  case restoreSecond => exact hrestore
  case restoreSecond_of_same_form =>
    intro hsame d e
    rw [hrestore, ← hsame]
    by_cases hform : d.form = p.form <;> simp [hform]

namespace Product

/-- `Pair Int String` joined with `String`: at the shared form `\a -> Pair Int a` with `Int` in
place of `String` nothing goes back to either type, and the errors are about different forms. -/
theorem refusals_of_pair_and_string :
    (pairWith ⟨1⟩).Accepted Store.pairs ⟨4⟩ ⟨1⟩ ∧ (pairWith ⟨1⟩).Refusals ⟨4⟩ ⟨1⟩ ⟨1⟩ ⟨1⟩ ∧
      (pairWith ⟨1⟩).decomposeSecond ⟨⟨4⟩, 7⟩ = .error (.appliedMismatch ⟨1⟩ ⟨4⟩) ∧
      (pairWith ⟨1⟩).restoreFirst ⟨(pairWith ⟨1⟩).form, [⟨0⟩], 7⟩ =
        .error (.decomposedMismatch (pairWith ⟨1⟩).form (pairWith ⟨1⟩).form) ∧
      (pairWith ⟨1⟩).restoreSecond ⟨(pairWith ⟨1⟩).form, [⟨0⟩], 7⟩ =
        .error (.decomposedMismatch (.constant ⟨1⟩) (.constant ⟨1⟩)) := by
  have haccepted : (pairWith ⟨1⟩).Accepted Store.pairs ⟨4⟩ ⟨1⟩ :=
    accepted_pairWith (by decide +kernel)
  obtain ⟨_, _, hproducts⟩ := coercions_refuse_other_tags (ι := String) (α := Int)
  obtain ⟨a, b, ha, hb, hrefusals⟩ := hproducts _ _ _ _ haccepted
  obtain rfl : a = ⟨1⟩ := (Option.some.inj ha).symm
  obtain rfl : b = ⟨1⟩ := (Option.some.inj hb).symm
  exact ⟨haccepted, hrefusals, (hrefusals.decomposeSecond _ _).mpr ⟨by decide, rfl⟩,
    (hrefusals.restoreFirst _ _).mpr ⟨by simp, rfl⟩,
    (hrefusals.restoreSecond _ _).mpr (.inr ⟨rfl, by decide, rfl⟩)⟩

/-- The error for a value of this product at `\a -> Pair Int a` and `Int` is about `\a -> String`,
which is neither the form that the way back takes nor the form of the value. -/
theorem restored_at_int_is_misreported :
    (pairWith ⟨1⟩).Accepted Store.pairs ⟨4⟩ ⟨1⟩ ∧ (pairWith ⟨1⟩).secondResidual? = some ⟨1⟩ ∧
      (pairWith ⟨1⟩).restoreSecond ⟨(pairWith ⟨1⟩).form, [⟨0⟩], 7⟩ =
        .error (.decomposedMismatch (.constant ⟨1⟩) (.constant ⟨1⟩)) ∧
      (pairWith ⟨1⟩).form ≠ .constant ⟨1⟩ ∧
      ¬RefusesOtherViews (pairWith ⟨1⟩).form [⟨1⟩] (pairWith ⟨1⟩).restoreSecond := by
  have hfails : (pairWith ⟨1⟩).restoreSecond ⟨(pairWith ⟨1⟩).form, [⟨0⟩], 7⟩ =
      .error (.decomposedMismatch (.constant ⟨1⟩) (.constant ⟨1⟩)) :=
    restoreSecond_eq_error_iff.mpr (.inr ⟨rfl, by decide, rfl⟩)
  have hne : (pairWith ⟨1⟩).form ≠ .constant ⟨1⟩ := by decide
  refine ⟨accepted_pairWith (by decide +kernel), rfl, hfails, hne, ?_⟩
  intro hrefuses
  obtain ⟨_, hsays⟩ := (hrefuses _ _).mp hfails
  exact hne (CoercionError.decomposedMismatch.inj hsays).1.symm

end Product

end FormRecovery
