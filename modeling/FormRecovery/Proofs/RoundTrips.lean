import FormRecovery.Proofs.SharedForm

/-!
Round trips through a product. Each of its four conversions accepts one tag, and gives one. Out and
back at the first type is the identity, whatever the isomorphism; out and back at the second type is
the identity as far as the isomorphism is one.
-/
namespace FormRecovery.Product

variable {ι α : Type} {s : Store} {x y : TypeId} {p : Product ι α} {value : Applied α}
  {d : Decomposed α}

theorem decomposeFirst_eq_ok_iff : p.decomposeFirst value = .ok d ↔
    value.type = p.first.applied ∧ d = ⟨p.form, p.first.residuals, value.value⟩ :=
  Equality.toDecomposed_eq_ok_iff

theorem restoreFirst_eq_ok_iff : p.restoreFirst d = .ok value ↔
    (d.form = p.form ∧ d.residuals = p.first.residuals) ∧ value = ⟨p.first.applied, d.value⟩ :=
  Equality.toApplied_eq_ok_iff

/-- The form is checked by the product, the residuals by the evidence of the second resolution. -/
theorem restoreSecond_eq_ok_iff : p.restoreSecond d = .ok value ↔
    (d.form = p.form ∧ d.residuals = p.second.residuals) ∧
      value = ⟨p.second.applied, p.isomorphism.toRight d.value⟩ := by
  unfold restoreSecond
  by_cases hform : d.form = p.form
  · rw [if_pos hform]
    refine Equality.toApplied_eq_ok_iff.trans ?_
    simp [hform, Resolution.form, Resolution.residuals, Resolution.applied]
  · simp [hform]

theorem exists_error_of_ne_ok {ε β : Type} {r : Except ε β} (h : ∀ b, r ≠ .ok b) :
    ∃ e, r = .error e := by
  cases r with
  | error e => exact ⟨e, rfl⟩
  | ok b => exact absurd rfl (h b)

/-- What the conversions of a product do, where `x` is its form at `a`, and `y` is the other form at
`b`. -/
structure RoundTrips (p : Product ι α) (x y a b : TypeId) : Prop where
  first : ∀ v, p.decomposeFirst ⟨x, v⟩ = .ok ⟨p.form, [a], v⟩ ∧
    p.restoreFirst ⟨p.form, [a], v⟩ = .ok ⟨x, v⟩
  first_inverse : ∀ value d, p.decomposeFirst value = .ok d ↔ p.restoreFirst d = .ok value
  second : ∀ v, p.decomposeSecond ⟨y, v⟩ = .ok ⟨p.form, [b], p.isomorphism.toLeft v⟩ ∧
    (p.decomposeSecond ⟨y, v⟩ >>= p.restoreSecond) =
      .ok ⟨y, p.isomorphism.toRight (p.isomorphism.toLeft v)⟩ ∧
    (p.restoreSecond ⟨p.form, [b], v⟩ >>= p.decomposeSecond) =
      .ok ⟨p.form, [b], p.isomorphism.toLeft (p.isomorphism.toRight v)⟩
  second_inverse : ∀ value d,
    (p.decomposeSecond value = .ok d →
      p.isomorphism.toRight (p.isomorphism.toLeft value.value) = value.value →
        p.restoreSecond d = .ok value) ∧
    (p.restoreSecond d = .ok value →
      p.isomorphism.toLeft (p.isomorphism.toRight d.value) = d.value →
        p.decomposeSecond value = .ok d)
  applied_rejected : ∀ value : Applied α,
    (value.type ≠ x → ∃ e, p.decomposeFirst value = .error e) ∧
      (value.type ≠ y → ∃ e, p.decomposeSecond value = .error e)
  decomposed_rejected : ∀ d : Decomposed α,
    (¬(d.form = p.form ∧ d.residuals = [a]) → ∃ e, p.restoreFirst d = .error e) ∧
      (¬(d.form = p.form ∧ d.residuals = [b]) → ∃ e, p.restoreSecond d = .error e)
  crossed : ∀ value d, p.decomposeSecond value = .ok d →
    ((∃ restored, p.restoreFirst d = .ok restored) ↔ a = b)

/-- Every accepted product makes its round trips, whatever the conversions of its isomorphism, and
whether or not its forms, its residuals or its types are the same. -/
theorem round_trips_of_accepted (h : p.Accepted s x y) :
    ∃ a b, p.firstResidual? = some a ∧ p.secondResidual? = some b ∧ p.RoundTrips x y a b := by
  obtain ⟨a, hfirst⟩ := h.obtained.1.exists_takenFrom
  obtain ⟨b, hsecond⟩ := h.obtained.2.exists_takenFrom
  have hout (v) : p.decomposeSecond ⟨y, v⟩ = .ok ⟨p.form, [b], p.isomorphism.toLeft v⟩ :=
    decomposeSecond_eq_ok_iff.mpr ⟨hsecond.applied_eq.symm, by rw [hsecond.residuals_eq]⟩
  have hback (v) : p.restoreSecond ⟨p.form, [b], v⟩ = .ok ⟨y, p.isomorphism.toRight v⟩ :=
    restoreSecond_eq_ok_iff.mpr ⟨⟨rfl, hsecond.residuals_eq.symm⟩, by rw [hsecond.applied_eq]⟩
  refine ⟨a, b, hfirst.residual?_eq, hsecond.residual?_eq, ?_⟩
  constructor
  case first =>
    intro v
    have hdecomposed : p.decomposeFirst ⟨x, v⟩ = .ok ⟨p.form, [a], v⟩ :=
      decomposeFirst_eq_ok_iff.mpr ⟨hfirst.applied_eq.symm, by rw [hfirst.residuals_eq]⟩
    exact ⟨hdecomposed, Equality.toDecomposed_eq_ok_iff_toApplied.mp hdecomposed⟩
  case first_inverse =>
    intro value d
    exact Equality.toDecomposed_eq_ok_iff_toApplied
  case second =>
    intro v
    refine ⟨hout v, ?_, ?_⟩
    · rw [hout v]
      exact hback _
    · rw [hback v]
      exact hout _
  case second_inverse =>
    intro value d
    constructor
    · intro hd hinverse
      obtain ⟨htype, rfl⟩ := decomposeSecond_eq_ok_iff.mp hd
      refine restoreSecond_eq_ok_iff.mpr ⟨⟨rfl, rfl⟩, ?_⟩
      rw [hinverse, ← htype]
    · intro hvalue hinverse
      obtain ⟨⟨hform, hresiduals⟩, rfl⟩ := restoreSecond_eq_ok_iff.mp hvalue
      refine decomposeSecond_eq_ok_iff.mpr ⟨rfl, ?_⟩
      rw [hinverse, ← hform, ← hresiduals]
  case applied_rejected =>
    intro value
    constructor
    · intro htype
      refine exists_error_of_ne_ok fun d hd => htype ?_
      exact (decomposeFirst_eq_ok_iff.mp hd).1.trans hfirst.applied_eq
    · intro htype
      refine exists_error_of_ne_ok fun d hd => htype ?_
      exact (decomposeSecond_eq_ok_iff.mp hd).1.trans hsecond.applied_eq
  case decomposed_rejected =>
    intro d
    constructor
    · intro htag
      refine exists_error_of_ne_ok fun value hvalue => htag ?_
      exact hfirst.residuals_eq ▸ (restoreFirst_eq_ok_iff.mp hvalue).1
    · intro htag
      refine exists_error_of_ne_ok fun value hvalue => htag ?_
      exact hsecond.residuals_eq ▸ (restoreSecond_eq_ok_iff.mp hvalue).1
  case crossed =>
    intro value d hd
    obtain ⟨_, rfl⟩ := decomposeSecond_eq_ok_iff.mp hd
    simp only [restoreFirst_eq_ok_iff, hfirst.residuals_eq, hsecond.residuals_eq, true_and,
      List.singleton_inj, exists_and_left, exists_eq, and_true]
    exact eq_comm

/-- `Pair Int String` and `String` have the same residual: a `String` at `\a -> Pair Int a` goes
back to `String` with what it carried, and is taken for a `Pair Int String` as well. -/
theorem round_trips_of_pair_and_string :
    (pairWith ⟨1⟩).Accepted Store.pairs ⟨4⟩ ⟨1⟩ ∧ (pairWith ⟨1⟩).RoundTrips ⟨4⟩ ⟨1⟩ ⟨1⟩ ⟨1⟩ ∧
      (pairWith ⟨1⟩).decomposeSecond ⟨⟨1⟩, 7⟩ = .ok ⟨(pairWith ⟨1⟩).form, [⟨1⟩], 6⟩ ∧
      (pairWith ⟨1⟩).restoreSecond ⟨(pairWith ⟨1⟩).form, [⟨1⟩], 6⟩ = .ok ⟨⟨1⟩, 7⟩ ∧
      ∃ restored, (pairWith ⟨1⟩).restoreFirst ⟨(pairWith ⟨1⟩).form, [⟨1⟩], 6⟩ = .ok restored := by
  have haccepted : (pairWith ⟨1⟩).Accepted Store.pairs ⟨4⟩ ⟨1⟩ :=
    accepted_pairWith (by decide +kernel)
  obtain ⟨a, b, ha, hb, htrips⟩ := round_trips_of_accepted haccepted
  obtain rfl : a = ⟨1⟩ := (Option.some.inj ha).symm
  obtain rfl : b = ⟨1⟩ := (Option.some.inj hb).symm
  have hout := (htrips.second 7).1
  have hback := (htrips.second_inverse _ _).1 hout rfl
  exact ⟨haccepted, htrips, hout, hback, (htrips.crossed _ _ hout).mpr rfl⟩

end FormRecovery.Product
