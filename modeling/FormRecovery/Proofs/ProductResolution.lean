import FormRecovery.Proofs.CacheTransparency
import FormRecovery.Proofs.Shadowing
import FormRecovery.Proofs.SharedForm

/-!
Resolving a product is resolving its two types in turn and comparing forms. The second type is asked
about only after the first was resolved, a failure of either is the failure of the product, and of
what joining checks only the forms can fail, since both types are resolved for one capability.
-/
namespace FormRecovery

variable {σ τ ι α : Type}

section

variable {s : Store} {lookup : Lookup σ ι} {lookup' : Lookup τ ι} {f : InstanceHead → Option ι}

theorem Lookup.Answers.recorded (hf : lookup.Answers f) : lookup.recorded.Answers f :=
  fun head m => hf head m.1

/-- What is asked of a service that answers by a function, and where it stops, is a matter of the
function. -/
theorem survey_of_answers (hf : lookup.Answers f) (hf' : lookup'.Answers f) (r : Request)
    (cs : List Candidate) (m : σ) (n : τ) :
    (survey lookup' r cs n).missed = (survey lookup r cs m).missed ∧
      (survey lookup' r cs n).hit = (survey lookup r cs m).hit := by
  induction cs generalizing m n with
  | nil => exact ⟨rfl, rfl⟩
  | cons c rest ih =>
    have hanswer := (hf' (r.head c) n).trans (hf (r.head c) m).symm
    rw [survey, survey]
    generalize (lookup (r.head c)).run m = result at hanswer ⊢
    generalize (lookup' (r.head c)).run n = result' at hanswer ⊢
    obtain ⟨answer, m'⟩ := result
    obtain ⟨answer', n'⟩ := result'
    obtain rfl : answer' = answer := hanswer
    cases answer' with
    | none =>
      obtain ⟨hmissed, hhit⟩ := ih m' n'
      exact ⟨congrArg (c :: ·) hmissed, hhit⟩
    | some value => exact ⟨rfl, rfl⟩

theorem outcome_resolve_of_answers (hf : lookup.Answers f) (hf' : lookup'.Answers f) (r : Request)
    (t : Session σ) (t' : Session τ) :
    Resolving.outcome (resolve s lookup' r t') = Resolving.outcome (resolve s lookup r t) := by
  obtain ⟨hmissed, hhit⟩ := survey_of_answers hf hf' r (r.candidates s) t.memory t'.memory
  rw [Resolving.outcome_resolve, Resolving.outcome_resolve, Resolving.outcome_search,
    Resolving.outcome_search, Survey.ending, Survey.ending, hmissed, hhit]

/-- What a resolution asks of a service that answers by this function. -/
def Request.asks (s : Store) (f : InstanceHead → Option ι) (r : Request) :
    List (InstanceHead × Option ι) :=
  (survey (fun head => (pure (f head) : StateM Unit (Option ι))) r (r.candidates s) ()).questions r

theorem asked_of_resolve (hf : lookup.Answers f) (r : Request)
    (t : Session (σ × List (InstanceHead × Option ι))) :
    (Resolving.left (resolve s lookup.recorded r t)).memory.2 = t.memory.2 ++ r.asks s f := by
  have hfunction : Lookup.Answers (fun head => (pure (f head) : StateM Unit (Option ι))) f :=
    fun _ _ => rfl
  obtain ⟨hmissed, hhit⟩ := survey_of_answers hfunction hf r (r.candidates s) () t.memory.1
  rw [Resolving.left_resolve, asked_of_search, Request.asks, Survey.questions,
    Survey.questions, hmissed, hhit]

end

namespace Product

variable {s : Store} {lookup : Lookup σ ι} {capability : Capability} {x y : TypeId}
  {isomorphism : Isomorphism α} {t u v : Session σ} {first second : Resolution ι}

/-- Two resolutions for one capability are joined if the isomorphism is between their forms. -/
theorem combine_of_capability (h : first.capability = second.capability) :
    combine first second isomorphism =
      if isomorphism.left = first.form ∧ isomorphism.right = second.form then
        .ok ⟨first, second, isomorphism⟩
      else .error ⟨.isomorphismMismatch first.form second.form isomorphism.left isomorphism.right,
        []⟩ := by
  simp [combine, h]

theorem resolve_of_both_ok
    (h : FormRecovery.resolve s lookup ⟨.single, capability, x⟩ t = .ok first u)
    (h' : FormRecovery.resolve s lookup ⟨.single, capability, y⟩ u = .ok second v) :
    resolve s lookup capability x y isomorphism t =
      if isomorphism.left = first.form ∧ isomorphism.right = second.form then
        .ok ⟨first, second, isomorphism⟩ v
      else .error ⟨.isomorphismMismatch first.form second.form isomorphism.left isomorphism.right,
        []⟩ v := by
  have hcapability : first.capability = second.capability :=
    (search_of_resolve h).2.trans (search_of_resolve h').2.symm
  rw [resolve_of_both h h', combine_of_capability hcapability]
  by_cases hforms : isomorphism.left = first.form ∧ isomorphism.right = second.form
  · simp only [if_pos hforms]
  · simp only [if_neg hforms]

end Product

/-- What resolving a product ends with, from what resolving its two types ends with. -/
inductive Product.InTurn (isomorphism : Isomorphism α) : Except ResolveError (Resolution ι) →
    Except ResolveError (Resolution ι) → Except ResolveError (Product ι α) → Prop where
  | first_fails (e : ResolveError) (second : Except ResolveError (Resolution ι)) :
      InTurn isomorphism (.error e) second (.error ⟨e.cause, [.productFirst, .single]⟩)
  | second_fails (first : Resolution ι) (e : ResolveError) :
      InTurn isomorphism (.ok first) (.error e) (.error ⟨e.cause, [.productSecond, .single]⟩)
  | joined (first second : Resolution ι)
      (forms : isomorphism.left = first.form ∧ isomorphism.right = second.form) :
      InTurn isomorphism (.ok first) (.ok second) (.ok ⟨first, second, isomorphism⟩)
  | unrelated (first second : Resolution ι)
      (forms : ¬(isomorphism.left = first.form ∧ isomorphism.right = second.form)) :
      InTurn isomorphism (.ok first) (.ok second)
        (.error ⟨.isomorphismMismatch first.form second.form isomorphism.left isomorphism.right,
          []⟩)

section

variable {isomorphism : Isomorphism α} {first? second? : Except ResolveError (Resolution ι)}

theorem Product.InTurn.of_ok {p : Product ι α} (h : InTurn isomorphism first? second? (.ok p)) :
    ∃ first second, first? = .ok first ∧ second? = .ok second ∧
      p = ⟨first, second, isomorphism⟩ := by
  cases h with
  | joined first second => exact ⟨first, second, rfl, rfl, rfl⟩

theorem Product.InTurn.of_error {e : ResolveError}
    (h : InTurn isomorphism first? second? (.error e)) :
    (∃ e', (first? = .error e' ∨ second? = .error e') ∧ e.cause = e'.cause) ∨
      ∃ first second left right, e.cause = .isomorphismMismatch first second left right := by
  cases h with
  | first_fails e' => exact .inl ⟨e', .inl rfl, rfl⟩
  | second_fails _ e' => exact .inl ⟨e', .inr rfl, rfl⟩
  | unrelated => exact .inr ⟨_, _, _, _, rfl⟩

end

section

variable {s : Store} {lookup : Lookup σ ι} {f : InstanceHead → Option ι} {capability : Capability}
  {x y : TypeId} {isomorphism : Isomorphism α}

theorem residual_of_single {r : Resolution ι} {t : Session σ}
    (h : Resolving.outcome (resolve s lookup ⟨.single, capability, x⟩ t) = .ok r) :
    ∃ a, r.residuals = [a] :=
  List.length_eq_one_iff.mp
    (length_residuals_of_search (search_of_resolve (Resolving.eq_ok_of_outcome h)).1)

theorem error_of_single {e : ResolveError} {t : Session σ}
    (h : Resolving.outcome (resolve s lookup ⟨.single, capability, x⟩ t) = .error e) :
    (∃ attempted, e.cause = .noViableDecomposition capability x attempted) ∧
      e.crumbs = [.single] := by
  rw [error_of_search (error_of_resolve (Resolving.eq_error_of_outcome h))]
  exact ⟨⟨_, rfl⟩, rfl⟩

/-- Whatever the service remembers of the first type, the second is resolved as by itself. -/
theorem inTurn_of_answers (hf : lookup.Answers f) (capability : Capability) (x y : TypeId)
    (isomorphism : Isomorphism α) (t t₁ t₂ : Session σ) :
    Product.InTurn isomorphism (Resolving.outcome (resolve s lookup ⟨.single, capability, x⟩ t₁))
      (Resolving.outcome (resolve s lookup ⟨.single, capability, y⟩ t₂))
      (Resolving.outcome (Product.resolve s lookup capability x y isomorphism t)) := by
  rw [outcome_resolve_of_answers hf hf ⟨.single, capability, x⟩ t t₁]
  cases hfirst : resolve s lookup ⟨.single, capability, x⟩ t with
  | error e u =>
    have hcrumbs := (error_of_single (congrArg Resolving.outcome hfirst)).2
    rw [Product.resolve_of_first_error hfirst, ResolveError.within, hcrumbs]
    exact .first_fails e _
  | ok first u =>
    rw [outcome_resolve_of_answers hf hf ⟨.single, capability, y⟩ u t₂]
    cases hsecond : resolve s lookup ⟨.single, capability, y⟩ u with
    | error e v =>
      have hcrumbs := (error_of_single (congrArg Resolving.outcome hsecond)).2
      rw [Product.resolve_of_second_error hfirst hsecond, ResolveError.within, hcrumbs]
      exact .second_fails first e
    | ok second v =>
      rw [Product.resolve_of_both_ok hfirst hsecond]
      by_cases hforms : isomorphism.left = first.form ∧ isomorphism.right = second.form
      · rw [if_pos hforms]
        exact .joined first second hforms
      · rw [if_neg hforms]
        exact .unrelated first second hforms

theorem asked_of_product (hf : lookup.Answers f)
    (t : Session (σ × List (InstanceHead × Option ι))) :
    (Resolving.left (Product.resolve s lookup.recorded capability x y isomorphism t)).memory.2 =
      t.memory.2 ++ Request.asks s f ⟨.single, capability, x⟩ ++
        match Resolving.outcome (resolve s lookup.recorded ⟨.single, capability, x⟩ t) with
        | .ok _ => Request.asks s f ⟨.single, capability, y⟩
        | .error _ => [] := by
  have hasked := asked_of_resolve (s := s) hf ⟨.single, capability, x⟩ t
  cases hfirst : resolve s lookup.recorded ⟨.single, capability, x⟩ t with
  | error e u =>
    rw [hfirst] at hasked
    rw [Product.resolve_of_first_error hfirst]
    simpa [Resolving.left, Resolving.outcome] using hasked
  | ok first u =>
    have hasked' := asked_of_resolve (s := s) hf ⟨.single, capability, y⟩ u
    rw [hfirst] at hasked
    simp only [Resolving.left] at hasked
    simp only [Resolving.outcome, ← hasked, ← hasked']
    cases hsecond : resolve s lookup.recorded ⟨.single, capability, y⟩ u with
    | error e v => rw [Product.resolve_of_second_error hfirst hsecond]; rfl
    | ok second v =>
      rw [Product.resolve_of_both_ok hfirst hsecond]
      split <;> rfl

end

/-- Resolving a product with a service that answers by a function asks what resolving the first type
asks and then, only if that succeeds, what resolving the second type asks. It ends with the failure
of the first or else of the second type under its step, or with both resolutions joined if the
isomorphism is from the first form to the second, and else with the four forms. The capabilities
always agree. -/
theorem product_resolves_in_turn (s : Store) {lookup : Lookup σ ι} {f : InstanceHead → Option ι}
    (hf : lookup.Answers f) (capability : Capability) (x y : TypeId) (isomorphism : Isomorphism α) :
    (∃ asked asked' : List (InstanceHead × Option ι),
      (∀ t, (Resolving.left (resolve s lookup.recorded ⟨.single, capability, x⟩ t)).memory.2 =
        t.memory.2 ++ asked) ∧
      (∀ t, (Resolving.left (resolve s lookup.recorded ⟨.single, capability, y⟩ t)).memory.2 =
        t.memory.2 ++ asked') ∧
      ∀ t t₁,
        ((∃ e, Resolving.outcome (resolve s lookup ⟨.single, capability, x⟩ t₁) = .error e) →
          (Resolving.left
              (Product.resolve s lookup.recorded capability x y isomorphism t)).memory.2 =
            t.memory.2 ++ asked) ∧
        ((∃ first, Resolving.outcome (resolve s lookup ⟨.single, capability, x⟩ t₁) = .ok first) →
          (Resolving.left
              (Product.resolve s lookup.recorded capability x y isomorphism t)).memory.2 =
            t.memory.2 ++ asked ++ asked')) ∧
    ∀ t t₁ t₂ : Session σ,
      Product.InTurn isomorphism (Resolving.outcome (resolve s lookup ⟨.single, capability, x⟩ t₁))
        (Resolving.outcome (resolve s lookup ⟨.single, capability, y⟩ t₂))
        (Resolving.outcome (Product.resolve s lookup capability x y isomorphism t)) ∧
      (∀ p, Resolving.outcome (Product.resolve s lookup capability x y isomorphism t) = .ok p →
        p.form = p.first.form ∧ p.value = p.first.value ∧
          ∃ a b, p.first.residuals = [a] ∧ p.second.residuals = [b] ∧
            p.firstResidual? = some a ∧ p.secondResidual? = some b) ∧
      ∀ e, Resolving.outcome (Product.resolve s lookup capability x y isomorphism t) = .error e →
        ∀ a b, e.cause ≠ .capabilityMismatch a b := by
  constructor
  · refine ⟨_, _, asked_of_resolve hf _, asked_of_resolve hf _, ?_⟩
    intro t t₁
    have hsame := outcome_resolve_of_answers (s := s) hf hf.recorded ⟨.single, capability, x⟩ t₁ t
    constructor
    · rintro ⟨e, he⟩
      rw [asked_of_product hf, hsame, he, List.append_nil]
    · rintro ⟨first, hfirst⟩
      rw [asked_of_product hf, hsame, hfirst]
  · intro t t₁ t₂
    have hturn := inTurn_of_answers (s := s) hf capability x y isomorphism t t₁ t₂
    refine ⟨hturn, ?_, ?_⟩
    · intro p hp
      rw [hp] at hturn
      obtain ⟨first, second, hfirst, hsecond, rfl⟩ := hturn.of_ok
      obtain ⟨a, ha⟩ := residual_of_single hfirst
      obtain ⟨b, hb⟩ := residual_of_single hsecond
      refine ⟨rfl, rfl, a, b, ha, hb, ?_, ?_⟩
      · rw [Product.firstResidual?, Resolution.residual?, ha]
      · rw [Product.secondResidual?, Resolution.residual?, hb]
    · intro e he a b
      rw [he] at hturn
      rcases hturn.of_error with ⟨e', hfails, hcause⟩ | ⟨_, _, _, _, hcause⟩
      · obtain ⟨z, attempted, hcause'⟩ :
            ∃ z attempted, e'.cause = .noViableDecomposition capability z attempted := by
          rcases hfails with h | h
          · exact ⟨x, (error_of_single h).1⟩
          · exact ⟨y, (error_of_single h).1⟩
        simp [hcause, hcause']
      · simp [hcause]

/-- Conversions at `\a -> Pair Int a`. -/
def Isomorphism.onPair : Isomorphism Int :=
  ⟨Equality.pairFirst.form, Equality.pairFirst.form, (· + 1), (· - 1)⟩

/-- `Pair Int String` and `Pair Int Int` are joined at `\a -> Pair Int a`. `Int` has no instance:
where it is the first type, it alone is asked about. -/
theorem product_over_pair :
    let answers := Environment.functorOfPair
    let functor : Capability := ⟨"Functor"⟩
    (∃ p, Resolving.outcome (Product.resolve .pairs answers.lookup functor ⟨4⟩ ⟨5⟩ .onPair
        (⟨(), none, []⟩ : Session Unit)) = .ok p ∧
      p.form = Equality.pairFirst.form ∧ p.firstResidual? = some ⟨1⟩ ∧
        p.secondResidual? = some ⟨0⟩) ∧
    Resolving.outcome (Product.resolve .pairs answers.lookup functor ⟨0⟩ ⟨4⟩ .onPair
        (⟨(), none, []⟩ : Session Unit)) =
      .error ⟨.noViableDecomposition functor ⟨0⟩ [.constant], [.productFirst, .single]⟩ ∧
    (Resolving.left (Product.resolve .pairs answers.lookup.recorded functor ⟨0⟩ ⟨4⟩ .onPair
        (⟨((), []), none, []⟩ : Session (Unit × _)))).memory.2 =
          [(⟨functor, .constant ⟨0⟩, []⟩, none)] := by
  intro answers functor
  let t : Session Unit := ⟨(), none, []⟩
  have hanswers : (answers.lookup (σ := Unit)).Answers answers.get? := answers.answers
  have hint : Resolving.outcome (resolve .pairs answers.lookup ⟨.single, functor, ⟨0⟩⟩ t) =
      .error ⟨.noViableDecomposition functor ⟨0⟩ [.constant], [.single]⟩ := by decide +kernel
  have hpair : Resolving.outcome (resolve .pairs answers.lookup ⟨.single, functor, ⟨4⟩⟩ t) =
      .ok ⟨.binarySecond, functor, "map", Equality.pairFirst⟩ := by decide +kernel
  have hpair' : Resolving.outcome (resolve .pairs answers.lookup ⟨.single, functor, ⟨5⟩⟩ t) =
      .ok ⟨.binarySecond, functor, "map", ⟨⟨5⟩, Equality.pairFirst.form, [⟨0⟩]⟩⟩ := by
    decide +kernel
  have hasked : (Resolving.left (resolve .pairs answers.lookup.recorded ⟨.single, functor, ⟨0⟩⟩
      (⟨((), []), none, []⟩ : Session (Unit × _)))).memory.2 =
        [(⟨functor, .constant ⟨0⟩, []⟩, none)] := by decide +kernel
  obtain ⟨_, hjoined⟩ := product_resolves_in_turn .pairs hanswers functor ⟨4⟩ ⟨5⟩ .onPair
  obtain ⟨⟨asked, _, hfirst, _, hboth⟩, hfailed⟩ :=
    product_resolves_in_turn .pairs hanswers functor ⟨0⟩ ⟨4⟩ .onPair
  refine ⟨?_, ?_, ?_⟩
  · obtain ⟨hturn, _⟩ := hjoined t t t
    rw [hpair, hpair'] at hturn
    generalize Resolving.outcome (Product.resolve .pairs answers.lookup functor ⟨4⟩ ⟨5⟩ .onPair t) =
      result at hturn ⊢
    cases hturn with
    | joined => exact ⟨_, rfl, rfl, rfl, rfl⟩
    | unrelated _ _ hforms => exact absurd ⟨rfl, rfl⟩ hforms
  · obtain ⟨hturn, _⟩ := hfailed t t t
    rw [hint] at hturn
    generalize Resolving.outcome (Product.resolve .pairs answers.lookup functor ⟨0⟩ ⟨4⟩ .onPair t) =
      result at hturn ⊢
    cases hturn with
    | first_fails => rfl
  · rw [(hboth _ t).1 ⟨_, hint⟩, ← hfirst, hasked]

end FormRecovery
