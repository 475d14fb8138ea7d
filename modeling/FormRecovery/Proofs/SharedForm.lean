import FormRecovery.Product
import FormRecovery.Proofs.Instantiation
import FormRecovery.Proofs.Registration
import FormRecovery.Proofs.Renaming

/-!
The shared form of a product at both residuals. Joining compares capabilities and forms, and no
kinds: the shared form gives the first type back, and takes the second residual too unless the
second type is not proper and the shared form has an argument to put it into.
-/
namespace FormRecovery

variable {σ ι α : Type} {s : Store} {x y : TypeId}

/-- A run that has come to this store resolved the type with one hole, now or before. -/
inductive Resolution.Obtained (s : Store) (x : TypeId) : Resolution ι → Prop where
  | resolve {s₀ : Store} {σ : Type} {lookup : Lookup σ ι} {capability : Capability}
      {t t' : Session σ} {r : Resolution ι} (start : s₀.Reachable) (later : s₀.Reaches s)
      (stored : x ∈ s₀) (resolved : resolve s₀ lookup ⟨.single, capability, x⟩ t = .ok r t') :
      Obtained s x r

/-- A product of the two types that was joined on a run: from resolutions obtained at any moments,
or by resolving both at once. -/
inductive Product.Accepted (s : Store) (x y : TypeId) : Product ι α → Prop where
  | combine {first second : Resolution ι} {isomorphism : Isomorphism α} {p : Product ι α}
      (first_obtained : first.Obtained s x) (second_obtained : second.Obtained s y)
      (joined : combine first second isomorphism = .ok p) : Accepted s x y p
  | resolve {s₀ : Store} {σ : Type} {lookup : Lookup σ ι} {capability : Capability}
      {t t' : Session σ} {isomorphism : Isomorphism α} {p : Product ι α} (start : s₀.Reachable)
      (later : s₀.Reaches s) (stored : x ∈ s₀ ∧ y ∈ s₀)
      (joined : Product.resolve s₀ lookup capability x y isomorphism t = .ok p t') :
      Accepted s x y p

/-- The resolution is what its pattern makes of the type `x`, with the residual `a`. -/
structure Resolution.TakenFrom (s : Store) (x a : TypeId) (r : Resolution ι) : Prop where
  wellFormed : s.WellFormed
  type_mem : x ∈ s
  residual_mem : a ∈ s
  applied_eq : r.applied = x
  residuals_eq : r.residuals = [a]
  candidate : r.pattern.candidate? s x = some ⟨r.pattern, r.form, [a]⟩

namespace Resolution

variable {r : Resolution ι} {a : TypeId}

namespace TakenFrom

theorem residual?_eq (h : r.TakenFrom s x a) : r.residual? = some a := by
  rw [residual?, h.residuals_eq]

theorem reconstructs (h : r.TakenFrom s x a) : r.form.reconstructs s [a] x = true :=
  Pattern.reconstructs_of_candidate? h.candidate

theorem valid (h : r.TakenFrom s x a) : r.form.Valid s :=
  Pattern.valid_of_candidate? h.wellFormed h.type_mem h.candidate

/-- The constant pattern takes a type as it is. -/
theorem of_constant (h : r.TakenFrom s x a) (hp : r.pattern = .constant) :
    r.form = .constant x ∧ a = x := by
  have hc := h.candidate
  rw [hp, Pattern.candidate?_constant, Option.some.injEq, Candidate.mk.injEq] at hc
  exact ⟨hc.2.1.symm, (List.singleton_inj.mp hc.2.2).symm⟩

/-- What is taken out of a proper type is proper. -/
theorem residual_proper (h : r.TakenFrom s x a) (hx : s.kind x = .proper) : s.kind a = .proper := by
  by_cases hp : r.pattern = .constant
  · rw [(h.of_constant hp).2, hx]
  · exact Pattern.residuals_proper hp h.candidate a (List.mem_singleton_self a)

end TakenFrom

/-- What was obtained for a type is taken from it, in the later store as well. -/
theorem Obtained.exists_takenFrom (h : r.Obtained s x) : ∃ a, r.TakenFrom s x a := by
  obtain ⟨start, later, stored, resolved⟩ := h
  have hs := later.grows.wellFormed start.wellFormed
  have hx := Store.mem_of_le later.grows.le stored
  obtain ⟨c, hc, _, rfl⟩ := exists_candidate_of_resolve resolved
  have hle := later.grows.le
  rw [Request.candidates, ← Catalog.candidates_of_le start.wellFormed hs hle stored] at hc
  obtain ⟨hsingle, hcandidate⟩ := (Catalog.mem_candidates_iff ..).mp hc
  obtain ⟨a, ha⟩ := List.length_eq_one_iff.mp (Catalog.length_residuals hsingle hcandidate)
  have hmem := Pattern.residuals_mem_of_candidate? hs hx hcandidate
  exact ⟨a, hs, hx, hmem a (ha ▸ List.mem_singleton_self a), rfl, ha, ha ▸ hcandidate⟩

/-- Every candidate is obtained, if it alone has an instance. -/
theorem obtained_of_candidate (hs : s.Reachable) (hx : x ∈ s) {c : Candidate}
    (hc : c ∈ Catalog.single.candidates s x) (capability : Capability) (value : ι) :
    Obtained s x ⟨c.pattern, capability, value, ⟨x, c.form, c.residuals⟩⟩ := by
  obtain ⟨u, hr⟩ :=
    resolve_of_only (r := ⟨.single, capability, x⟩) hc value (⟨(), none, []⟩ : Session Unit)
  exact .resolve hs (.refl s) hx hr

end Resolution

namespace Product

variable {p : Product ι α} {first second : Resolution ι} {isomorphism : Isomorphism α}

theorem combine_eq_ok_iff : combine first second isomorphism = .ok p ↔
    first.capability = second.capability ∧
      (isomorphism.left = first.form ∧ isomorphism.right = second.form) ∧
        p = ⟨first, second, isomorphism⟩ := by
  unfold combine
  by_cases hc : first.capability = second.capability
  · by_cases hf : isomorphism.left = first.form ∧ isomorphism.right = second.form
    · simp [hc, hf, eq_comm]
    · simp [hc, hf]
  · simp [hc]

section

variable {lookup : Lookup σ ι} {capability : Capability} {t u v : Session σ} {e : ResolveError}

theorem resolve_of_first_error
    (h : FormRecovery.resolve s lookup ⟨.single, capability, x⟩ t = .error e u) :
    resolve s lookup capability x y isomorphism t = .error (e.within .productFirst) u := by
  simp only [resolve, bind, EStateM.bind, Resolving.within, EStateM.adaptExcept, h]

theorem resolve_of_second_error
    (h : FormRecovery.resolve s lookup ⟨.single, capability, x⟩ t = .ok first u)
    (h' : FormRecovery.resolve s lookup ⟨.single, capability, y⟩ u = .error e v) :
    resolve s lookup capability x y isomorphism t = .error (e.within .productSecond) v := by
  simp only [resolve, bind, EStateM.bind, Resolving.within, EStateM.adaptExcept, h, h']

theorem resolve_of_both (h : FormRecovery.resolve s lookup ⟨.single, capability, x⟩ t = .ok first u)
    (h' : FormRecovery.resolve s lookup ⟨.single, capability, y⟩ u = .ok second v) :
    resolve s lookup capability x y isomorphism t = match combine first second isomorphism with
      | .ok product => .ok product v
      | .error e => .error e v := by
  simp only [resolve, bind, EStateM.bind, Resolving.within, EStateM.adaptExcept, h, h']
  cases combine first second isomorphism <;> rfl

/-- Resolving a product is resolving both types and joining what was found. -/
theorem exists_of_resolve (h : resolve s lookup capability x y isomorphism t = .ok p v) :
    ∃ first second u, FormRecovery.resolve s lookup ⟨.single, capability, x⟩ t = .ok first u ∧
      FormRecovery.resolve s lookup ⟨.single, capability, y⟩ u = .ok second v ∧
        combine first second isomorphism = .ok p := by
  cases hfirst : FormRecovery.resolve s lookup ⟨.single, capability, x⟩ t with
  | error e u =>
    rw [resolve_of_first_error hfirst] at h
    contradiction
  | ok first u =>
    cases hsecond : FormRecovery.resolve s lookup ⟨.single, capability, y⟩ u with
    | error e w =>
      rw [resolve_of_second_error hfirst hsecond] at h
      contradiction
    | ok second w =>
      rw [resolve_of_both hfirst hsecond] at h
      cases hjoined : combine first second isomorphism with
      | error e =>
        rw [hjoined] at h
        contradiction
      | ok q =>
        rw [hjoined] at h
        obtain ⟨rfl, rfl⟩ := EStateM.Result.ok.inj h
        exact ⟨first, second, u, rfl, hsecond, hjoined⟩

end

/-- A value of the second type comes out at the shared form, with the residuals of the second
type. -/
theorem decomposeSecond_eq_ok_iff {value : Applied α} {d : Decomposed α} :
    p.decomposeSecond value = .ok d ↔ value.type = p.second.applied ∧
      d = ⟨p.form, p.second.residuals, p.isomorphism.toLeft value.value⟩ := by
  have hsecond : p.second.toDecomposed value = p.second.equality.toDecomposed value := rfl
  simp only [decomposeSecond, hsecond, bind, Except.bind, pure, Except.pure, Equality.toDecomposed]
  by_cases htype : value.type = p.second.equality.applied
  · simp [htype, Resolution.applied, Resolution.residuals, Equality.decompose, eq_comm]
  · simp [htype, Resolution.applied]

/-- Both parts of an accepted product were obtained on the run. -/
theorem Accepted.obtained (h : p.Accepted s x y) :
    p.first.Obtained s x ∧ p.second.Obtained s y := by
  cases h with
  | combine first_obtained second_obtained joined =>
    obtain ⟨_, _, rfl⟩ := combine_eq_ok_iff.mp joined
    exact ⟨first_obtained, second_obtained⟩
  | resolve start later stored joined =>
    obtain ⟨first, second, u, hfirst, hsecond, hjoined⟩ := exists_of_resolve joined
    obtain ⟨_, _, rfl⟩ := combine_eq_ok_iff.mp hjoined
    exact ⟨.resolve start later stored.1 hfirst, .resolve start later stored.2 hsecond⟩

end Product

/-- The shared form of an accepted product gives the first type at the first residual. At the second
residual it gives a type of the same kind, if the second type is proper or the first form is
constant; what is converted from the second type is then a view of this type. Otherwise the second
type was taken by the constant pattern, which takes types of all kinds, and there is no such
type. -/
theorem Product.shared_form_at_residuals {p : Product ι α} (h : p.Accepted s x y) :
    ∃ a b, p.firstResidual? = some a ∧ p.secondResidual? = some b ∧
      p.form.instantiate [a] s = .ok x s ∧
      (p.first.pattern = .constant ∨ s.kind y = .proper →
        ∃ z t, p.form.instantiate [b] s = .ok z t ∧ t.kind z = s.kind x ∧
          ∀ value d, p.decomposeSecond value = .ok d →
            d.form = p.form ∧ d.form.reconstructs t d.residuals z = true) ∧
      (p.first.pattern ≠ .constant → s.kind y ≠ .proper →
        p.second.pattern = .constant ∧ b = y ∧
          ∃ cause t, p.form.instantiate [b] s = .error (.kind cause) t) := by
  obtain ⟨a, hfirst⟩ := h.obtained.1.exists_takenFrom
  obtain ⟨b, hsecond⟩ := h.obtained.2.exists_takenFrom
  have hs := hfirst.wellFormed
  have hgives : p.form.reconstructs s [a] x = true := hfirst.reconstructs
  have harity : [b].length = p.form.arity := by simpa using Form.length_of_reconstructs hgives
  have hstored : ∀ r ∈ [b], r ∈ s := List.forall_mem_singleton.mpr hsecond.residual_mem
  refine ⟨a, b, hfirst.residual?_eq, hsecond.residual?_eq,
    Form.instantiate_of_reconstructs hs hgives, ?_, ?_⟩
  · intro hfits
    have hinstance : ∃ z t, p.form.instantiate [b] s = .ok z t ∧ t.kind z = s.kind x := by
      by_cases hp : p.first.pattern = .constant
      · have hform : p.form = .constant x := (hfirst.of_constant hp).1
        exact ⟨x, s, by rw [hform]; rfl, rfl⟩
      · have hproper := hsecond.residual_proper (hfits.resolve_left hp)
        exact Pattern.instantiate_of_proper hs hfirst.type_mem hp hfirst.candidate harity
          (List.forall_mem_singleton.mpr ⟨hsecond.residual_mem, hproper⟩)
    obtain ⟨z, t, hz, hkind⟩ := hinstance
    refine ⟨z, t, hz, hkind, ?_⟩
    intro value d hd
    obtain ⟨_, rfl⟩ := decomposeSecond_eq_ok_iff.mp hd
    rw [hsecond.residuals_eq]
    exact ⟨rfl, Form.reconstructs_of_instantiate hfirst.valid.stored hstored hz⟩
  · intro hp hkind
    have hconstant : p.second.pattern = .constant := by
      by_contra hne
      exact hkind (Pattern.kind_of_candidate? hne hsecond.candidate)
    obtain ⟨_, rfl⟩ := hsecond.of_constant hconstant
    refine ⟨hconstant, rfl, ?_⟩
    cases hz : p.form.instantiate [b] s with
    | ok z t =>
      have hproper :=
        Pattern.proper_of_instantiate hs hfirst.type_mem hp hfirst.candidate hstored hz
      exact absurd (hproper b (List.mem_singleton_self b)) hkind
    | error e t =>
      obtain ⟨cause, rfl⟩ := Form.kind_of_instantiate_error hfirst.valid harity hz
      exact ⟨cause, t, rfl⟩

/-- `Pair Int String` at `\a -> Pair Int a`. -/
def Resolution.pairSecond : Resolution String :=
  ⟨.binarySecond, ⟨"Functor"⟩, "pair", Equality.pairFirst⟩

/-- A type itself, by the constant pattern. -/
def Resolution.ofConstant (x : TypeId) : Resolution String :=
  ⟨.constant, ⟨"Functor"⟩, "constant", ⟨x, .constant x, [x]⟩⟩

namespace Product

/-- `Pair Int String` joined with a type of any kind. -/
def pairWith (x : TypeId) : Product String Int :=
  ⟨.pairSecond, .ofConstant x, ⟨Resolution.pairSecond.form, .constant x, (· + 1), (· - 1)⟩⟩

theorem accepted_pairWith (hx : x ∈ Store.pairs) : (pairWith x).Accepted Store.pairs ⟨4⟩ x := by
  have hpair : ⟨.binarySecond, Equality.pairFirst.form, [⟨1⟩]⟩ ∈
      Catalog.single.candidates Store.pairs ⟨4⟩ := by decide +kernel
  have hsingle : Pattern.constant ∈ Catalog.single.patterns := by decide
  have hconstant : ⟨.constant, .constant x, [x]⟩ ∈ Catalog.single.candidates Store.pairs x :=
    (Catalog.mem_candidates_iff ..).mpr ⟨hsingle, Pattern.candidate?_constant Store.pairs x⟩
  exact .combine
    (Resolution.obtained_of_candidate Store.reachable_pairs (by decide +kernel) hpair _ "pair")
    (Resolution.obtained_of_candidate Store.reachable_pairs hx hconstant _ "constant")
    (combine_eq_ok_iff.mpr ⟨rfl, ⟨rfl, rfl⟩, rfl⟩)

/-- `Int` is proper: `\a -> Pair Int a` gives a type at it. -/
theorem shared_form_of_pair_and_int :
    (pairWith ⟨0⟩).Accepted Store.pairs ⟨4⟩ ⟨0⟩ ∧ Store.pairs.kind ⟨0⟩ = .proper ∧
      (pairWith ⟨0⟩).secondResidual? = some ⟨0⟩ ∧ ∃ z t,
        (pairWith ⟨0⟩).form.instantiate [⟨0⟩] Store.pairs = .ok z t ∧
          t.kind z = Store.pairs.kind ⟨4⟩ := by
  have hint : Store.pairs.kind ⟨0⟩ = .proper := by decide +kernel
  have haccepted : (pairWith ⟨0⟩).Accepted Store.pairs ⟨4⟩ ⟨0⟩ :=
    accepted_pairWith (by decide +kernel)
  obtain ⟨a, b, _, hb, _, hgives, _⟩ := shared_form_at_residuals haccepted
  obtain ⟨z, t, hz, hkind, _⟩ := hgives (.inr hint)
  obtain rfl : b = ⟨0⟩ := (Option.some.inj hb).symm
  exact ⟨haccepted, hint, hb, z, t, hz, hkind⟩

/-- `Pair` is not proper. It is joined with `Pair Int String` all the same, and its values come out
at `\a -> Pair Int a` and `Pair`, which give no type. -/
theorem pair_without_shared_form :
    (pairWith ⟨2⟩).Accepted Store.pairs ⟨4⟩ ⟨2⟩ ∧ (pairWith ⟨2⟩).secondResidual? = some ⟨2⟩ ∧
      (pairWith ⟨2⟩).form.instantiate [⟨2⟩] Store.pairs =
        .error (.kind (.argumentMismatch ⟨3⟩ ⟨2⟩ .proper (.ofArity 2))) Store.pairs ∧
      (pairWith ⟨2⟩).decomposeSecond ⟨⟨2⟩, 7⟩ = .ok ⟨(pairWith ⟨2⟩).form, [⟨2⟩], 6⟩ := by
  have hmissing : Store.pairs.lookup (.application ⟨3⟩ ⟨2⟩) = none := by decide +kernel
  have hfunction : Store.pairs.kind ⟨3⟩ = .arrow .proper .proper := by decide +kernel
  have hargument : Store.pairs.kind ⟨2⟩ = .ofArity 2 := by decide +kernel
  have hrefused : Interning.apply ⟨3⟩ ⟨2⟩ Store.pairs =
      .error (.argumentMismatch ⟨3⟩ ⟨2⟩ .proper (.ofArity 2)) Store.pairs := by
    simp [Interning.apply, hmissing, hfunction, hargument, Kind.ofArity]
  have hfails : (pairWith ⟨2⟩).form.instantiate [⟨2⟩] Store.pairs =
      .error (.kind (.argumentMismatch ⟨3⟩ ⟨2⟩ .proper (.ofArity 2))) Store.pairs := by
    refine Interning.bind_eq_error_iff.mpr (.inr ⟨⟨3⟩, Store.pairs, rfl, ?_⟩)
    refine Interning.bind_eq_error_iff.mpr (.inr ⟨⟨2⟩, Store.pairs, rfl, ?_⟩)
    exact Interning.adaptExcept_eq_error_iff.mpr ⟨_, hrefused, rfl⟩
  exact ⟨accepted_pairWith (by decide +kernel), rfl, hfails,
    decomposeSecond_eq_ok_iff.mpr ⟨rfl, rfl⟩⟩

end Product

end FormRecovery
