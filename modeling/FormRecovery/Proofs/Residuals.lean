import FormRecovery.Proofs.Instantiation
import FormRecovery.Proofs.Serving

/-!
What a form and a type say about the residuals. The type says what stands in each hole that occurs
in the form, and nothing about the others. All holes of a matched form occur in it, so that its
residuals are the only ones that give the type.
-/
namespace FormRecovery

/-- A template gives a type for the residuals that agree, at the holes that occur, with some for
which it gives it. -/
theorem Template.reconstructs_iff_agree {s : Store} {u : Template} {residuals others : List TypeId}
    {x : TypeId} (h : u.reconstructs s residuals x = true) :
    u.reconstructs s others x = true ↔ ∀ k ∈ u.holes, others[k]? = residuals[k]? := by
  induction u generalizing x with
  | fixed id => simpa [reconstructs] using h
  | hole k =>
    have hk : residuals[k]? = some x := by simpa [reconstructs] using h
    simp [reconstructs, hk]
  | application f a ihf iha =>
    obtain ⟨g, b, hsplit, hf, ha⟩ := reconstructs_application.mp h
    rw [holes_application, List.forall_mem_append, ← ihf hf, ← iha ha]
    simp [reconstructs, hsplit]

namespace Form

variable {s : Store} {f : Form} {residuals others : List TypeId} {x : TypeId}

theorem reconstructs_iff_agree (h : f.reconstructs s residuals x = true) :
    f.reconstructs s others x = true ↔
      others.length = residuals.length ∧ ∀ k ∈ f.body.holes, others[k]? = residuals[k]? := by
  obtain ⟨hcount, hbody⟩ := reconstructs_iff.mp h
  rw [reconstructs_iff, Template.reconstructs_iff_agree hbody, hcount]

/-- All holes below the arity occur in the body. -/
def Full (f : Form) : Prop := ∀ h < f.arity, h ∈ f.body.holes

instance (f : Form) : Decidable f.Full :=
  inferInstanceAs (Decidable (∀ h < f.arity, h ∈ f.body.holes))

/-- The residuals of a form with all its holes can be read off the type. -/
theorem Full.residuals_unique (hf : f.Full) (h : f.reconstructs s residuals x = true)
    (h' : f.reconstructs s others x = true) : others = residuals := by
  obtain ⟨hlength, hagree⟩ := (reconstructs_iff_agree h).mp h'
  have hcount := (reconstructs_iff.mp h).1
  refine List.ext_getElem? fun k => ?_
  rcases Nat.lt_or_ge k f.arity with hlt | hge
  · exact hagree k (hf k hlt)
  · rw [List.getElem?_eq_none (by omega), List.getElem?_eq_none (by omega)]

/-- Such a form with a hole is not constant. -/
theorem Full.not_isConstant (hf : f.Full) (hpos : 0 < f.arity) : f.isConstant = false := by
  rw [isConstant, Template.isClosed, List.isEmpty_eq_false_iff]
  exact List.ne_nil_of_mem (hf 0 hpos)

end Form

theorem Decomposition.full {s : Store} {p : Spine} {slots : List Slot} {form : Form}
    {residuals : List TypeId} (d : Decomposition s p slots form residuals) : form.Full :=
  fun _ hh => d.mem_holes_body hh

theorem Equality.isSome_certify (s : Store) (x : TypeId) (f : Form) (residuals : List TypeId) :
    (certify s x f residuals).isSome = f.reconstructs s residuals x := by
  unfold certify
  cases f.reconstructs s residuals x <;> rfl

/-- The form of a candidate other than the constant one has all its holes. -/
theorem Pattern.full_of_candidate? {s : Store} {p : Pattern} (hp : p ≠ constant) {x : TypeId}
    {c : Candidate} (h : p.candidate? s x = some c) : c.form.Full := by
  obtain ⟨_, _, ⟨d⟩⟩ := (candidate?_eq_some_iff hp s x c).mp h
  exact d.full

/-- The residuals of a resolution other than a constant one are the only ones that certify, then and
later. -/
theorem Resolution.certify_iff {σ ι : Type} {s u : Store} {lookup : Lookup σ ι} {r : Request}
    {t t' : Session σ} {resolution : Resolution ι} (h : resolve s lookup r t = .ok resolution t')
    (hp : resolution.pattern ≠ .constant) (hle : s ≤ u) (residuals : List TypeId) :
    (Equality.certify u resolution.applied resolution.form residuals).isSome = true ↔
      residuals = resolution.residuals := by
  obtain ⟨c, hc, _, rfl⟩ := exists_candidate_of_resolve h
  obtain ⟨_, hcandidate⟩ := (Catalog.mem_candidates_iff ..).mp hc
  have hgives := Form.reconstructs_of_le hle (Pattern.reconstructs_of_candidate? hcandidate)
  rw [Equality.isSome_certify]
  constructor
  · intro h'
    exact (Pattern.full_of_candidate? hp hcandidate).residuals_unique hgives h'
  · rintro rfl
    exact hgives

/-- A form gives a type for the lists that agree, at the holes that occur, with one that it gives it
for. So there is one list if all holes occur, and otherwise the rest of the list is free. All holes
of a matched form occur, so that the residuals of a resolution that is not a constant one are the
only ones that certify. -/
theorem residuals_determined_by_form (s : Store) (x : TypeId) :
    (∀ f : Form, f.Full → ∀ residuals others, f.reconstructs s residuals x = true →
      f.reconstructs s others x = true → others = residuals) ∧
    (∀ (f : Form) (residuals : List TypeId), f.reconstructs s residuals x = true → ∀ others,
      f.reconstructs s others x = true ↔
        others.length = residuals.length ∧ ∀ h ∈ f.body.holes, others[h]? = residuals[h]?) ∧
    (∀ f residuals, (Equality.certify s x f residuals).isSome = f.reconstructs s residuals x) ∧
    (∀ p slots form residuals, Form.decompose s p slots = some (form, residuals) → form.Full) ∧
    ∀ {σ ι : Type} (lookup : Lookup σ ι) (r : Request) (t t' : Session σ)
      (resolution : Resolution ι),
      resolve s lookup r t = .ok resolution t' → resolution.pattern ≠ .constant →
      ∀ u, s.Reaches u → ∀ residuals,
        (Equality.certify u resolution.applied resolution.form residuals).isSome = true ↔
          residuals = resolution.residuals := by
  refine ⟨?_, ?_, Equality.isSome_certify s x, ?_, ?_⟩
  · intro f hf residuals others h h'
    exact hf.residuals_unique h h'
  · intro f residuals h others
    exact Form.reconstructs_iff_agree h
  · intro p slots form residuals h
    obtain ⟨d⟩ := (Form.decompose_eq_some_iff ..).mp h
    exact d.full
  · intro σ ι lookup r t t' resolution h hp u hu residuals
    exact Resolution.certify_iff h hp hu.grows.le residuals

/-- The form `\a b -> Pair Int b`, in which the first hole does not occur. -/
def Form.pairIntSecond : Form := ⟨2, .application (.fixed ⟨3⟩) (.hole 1)⟩

/-- `\a b -> a b b` is `Pair Int Int` at `Pair` and `Int` only. `\a b -> Pair Int b` is
`Pair Int String` at anything and `String`. And `Pair Int String`, resolved to `\a -> Pair Int a`,
certifies with `String` only. -/
theorem residuals_of_doubled_pair :
    (∀ residuals, Form.doubled.reconstructs Store.pairs residuals ⟨5⟩ = true →
      residuals = [⟨2⟩, ⟨0⟩]) ∧
    ¬Form.pairIntSecond.Full ∧
    (∀ a, Form.pairIntSecond.reconstructs Store.pairs [a, ⟨1⟩] ⟨4⟩ = true) ∧
    ∃ resolution t', resolve Store.pairs (Environment.only (Catalog.single.head ⟨"Functor"⟩
        ⟨.binarySecond, .ofConstructor ⟨3⟩, [⟨1⟩]⟩) "map").lookup ⟨.single, ⟨"Functor"⟩, ⟨4⟩⟩
          ⟨(), none, []⟩ = .ok resolution t' ∧
      ∀ residuals, (Equality.certify Store.pairs ⟨4⟩ resolution.form residuals).isSome = true ↔
        residuals = [⟨1⟩] := by
  obtain ⟨hunique, _⟩ := residuals_determined_by_form Store.pairs ⟨5⟩
  obtain ⟨_, hfree, _, _, hcertifies⟩ := residuals_determined_by_form Store.pairs ⟨4⟩
  have hdoubled : Form.doubled.reconstructs Store.pairs [⟨2⟩, ⟨0⟩] ⟨5⟩ = true := by decide +kernel
  have hsecond : Form.pairIntSecond.reconstructs Store.pairs [⟨0⟩, ⟨1⟩] ⟨4⟩ = true := by
    decide +kernel
  have hfirst : (Environment.only (Catalog.single.head ⟨"Functor"⟩
      ⟨.binarySecond, .ofConstructor ⟨3⟩, [⟨1⟩]⟩) "map").firstOf? ⟨.single, ⟨"Functor"⟩, ⟨4⟩⟩
      (Catalog.single.candidates Store.pairs ⟨4⟩) =
        some (⟨.binarySecond, .ofConstructor ⟨3⟩, [⟨1⟩]⟩, "map") := by decide +kernel
  obtain ⟨t', hresolved⟩ := resolve_of_first hfirst (⟨(), none, []⟩ : Session Unit)
  refine ⟨?_, by decide, ?_, _, t', hresolved, ?_⟩
  · intro residuals h
    exact hunique Form.doubled (by decide) _ residuals hdoubled h
  · intro a
    exact (hfree _ _ hsecond [a, ⟨1⟩]).mpr ⟨rfl, by simp [Form.pairIntSecond]⟩
  · exact hcertifies _ _ _ t' _ hresolved (by decide) _ (.refl _)

end FormRecovery
