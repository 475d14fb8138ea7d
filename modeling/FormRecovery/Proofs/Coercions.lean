import FormRecovery.Proofs.Certification
import FormRecovery.Proofs.Reachability
import Mathlib.Logic.Relation

/-!
Coercions by evidence. A form and residuals determine the type that they give, and evidence stays
true as the store grows. So a value that is moved between its views, by any evidence obtained at any
moments of a run, keeps its type and what it carries.
-/
namespace FormRecovery

namespace Template

variable {s t : Store} {u : Template} {residuals : List TypeId} {x y : TypeId}

/-- In a well-formed store a template gives one type for the residuals. -/
theorem reconstructs_unique (hs : s.WellFormed) (hx : u.reconstructs s residuals x = true)
    (hy : u.reconstructs s residuals y = true) : x = y := by
  induction u generalizing x y with
  | fixed id =>
    simp only [reconstructs, beq_iff_eq] at hx hy
    exact hx.symm.trans hy
  | hole h =>
    simp only [reconstructs, beq_iff_eq] at hx hy
    exact Option.some.inj (hx.symm.trans hy)
  | application f a ihf iha =>
    obtain ⟨g, b, hsplit, hg, hb⟩ := reconstructs_application.mp hx
    obtain ⟨g', b', hsplit', hg', hb'⟩ := reconstructs_application.mp hy
    obtain rfl := ihf hg hg'
    obtain rfl := iha hb hb'
    exact hs.split?_injective hsplit hsplit'

/-- What a template gives it gives in every later store. -/
theorem reconstructs_of_le (hle : s ≤ t) (h : u.reconstructs s residuals x = true) :
    u.reconstructs t residuals x = true := by
  induction u generalizing x with
  | fixed id => exact h
  | hole k => exact h
  | application f a ihf iha =>
    obtain ⟨g, b, hsplit, hg, hb⟩ := reconstructs_application.mp h
    exact reconstructs_application.mpr ⟨g, b, Store.split?_of_le hle hsplit, ihf hg, iha hb⟩

end Template

namespace Form

variable {s t : Store} {f : Form} {residuals : List TypeId} {x y : TypeId}

theorem reconstructs_unique (hs : s.WellFormed) (hx : f.reconstructs s residuals x = true)
    (hy : f.reconstructs s residuals y = true) : x = y := by
  exact Template.reconstructs_unique hs (reconstructs_iff.mp hx).2 (reconstructs_iff.mp hy).2

theorem reconstructs_of_le (hle : s ≤ t) (h : f.reconstructs s residuals x = true) :
    f.reconstructs t residuals x = true := by
  rw [reconstructs_iff] at h ⊢
  exact ⟨h.1, Template.reconstructs_of_le hle h.2⟩

end Form

/-- The form of the evidence gives the applied type for its residuals. -/
def Equality.Holds (s : Store) (e : Equality) : Prop :=
  e.form.reconstructs s e.residuals e.applied = true

/-- A run of the store together with the evidence obtained on the way. -/
inductive Store.Certifies : Store → List Equality → Prop where
  | start (hash : Shape → UInt64) : Certifies (emptyWith hash) []
  | operation {s : Store} {es : List Equality} (earlier : Certifies s es) (op : Operation)
      (issued : op.Issued s) : Certifies (op.after s) es
  | certify {s : Store} {es : List Equality} (earlier : Certifies s es) {x : TypeId} {form : Form}
      {residuals : List TypeId} {e : Equality}
      (certified : Equality.certify s x form residuals = some e) : Certifies s (e :: es)
  | resolve {s : Store} {es : List Equality} (earlier : Certifies s es) {σ ι : Type}
      {lookup : Lookup σ ι} {r : Request} {t t' : Session σ} {resolution : Resolution ι}
      (resolved : resolve s lookup r t = .ok resolution t') :
      Certifies s (resolution.equality :: es)

namespace Store

variable {s : Store} {es : List Equality}

theorem Certifies.reachable (h : s.Certifies es) : s.Reachable := by
  induction h with
  | start hash => exact .empty hash
  | operation _ op issued ih => exact .step ih op issued
  | certify _ _ ih => exact ih
  | resolve _ _ ih => exact ih

theorem Reachable.certifies_nil (h : s.Reachable) : s.Certifies [] := by
  induction h with
  | empty hash => exact .start hash
  | step _ op issued ih => exact .operation ih op issued

/-- Evidence obtained on a run holds then and later. -/
theorem Certifies.holds (h : s.Certifies es) : ∀ e ∈ es, e.Holds s := by
  induction h with
  | start => simp
  | operation _ op issued ih =>
    intro e he
    exact Form.reconstructs_of_le (Operation.grows_after issued).le (ih e he)
  | certify _ certified ih =>
    obtain ⟨hr, rfl⟩ := Equality.certify_eq_some_iff.mp certified
    exact List.forall_mem_cons.mpr ⟨hr, ih⟩
  | @resolve s es _ σ ι lookup r t t' resolution resolved ih =>
    obtain ⟨c, hc, _, rfl⟩ := exists_candidate_of_resolve resolved
    obtain ⟨_, hcandidate⟩ := (Catalog.mem_candidates_iff ..).mp hc
    exact List.forall_mem_cons.mpr ⟨Pattern.reconstructs_of_candidate? hcandidate, ih⟩

/-- Evidence for one form at one list of residuals is about one type. -/
theorem Certifies.applied_eq (h : s.Certifies es) {e e' : Equality} (he : e ∈ es) (he' : e' ∈ es)
    (hform : e.form = e'.form) (hresiduals : e.residuals = e'.residuals) :
    e.applied = e'.applied := by
  have hx := h.holds e he
  have hy := h.holds e' he'
  rw [Equality.Holds, hform, hresiduals] at hx
  exact Form.reconstructs_unique h.reachable.wellFormed hx hy

end Store

/-- A value in one of its two views. -/
inductive View (α : Type) where
  | applied (a : Applied α)
  | decomposed (d : Decomposed α)

variable {α : Type}

/-- A coercion by some of the evidence that succeeds. -/
inductive Coerces (es : List Equality) : View α → View α → Prop where
  | toDecomposed {e : Equality} (mem : e ∈ es) {a : Applied α} {d : Decomposed α}
      (success : e.toDecomposed a = .ok d) : Coerces es (.applied a) (.decomposed d)
  | decompose {e : Equality} (mem : e ∈ es) {a : Applied α} (known : a.type = e.applied) :
      Coerces es (.applied a) (.decomposed (e.decompose a.value))
  | toApplied {e : Equality} (mem : e ∈ es) {d : Decomposed α} {a : Applied α}
      (success : e.toApplied d = .ok a) : Coerces es (.decomposed d) (.applied a)

/-- The view is one of the value `v` at the type `x`. -/
def View.Shows (s : Store) (x : TypeId) (v : α) : View α → Prop
  | applied a => a.type = x ∧ a.value = v
  | decomposed d => d.value = v ∧ d.form.reconstructs s d.residuals x = true

namespace Equality

variable {e : Equality} {a : Applied α} {d : Decomposed α}

theorem toDecomposed_eq_ok_iff :
    e.toDecomposed a = .ok d ↔ a.type = e.applied ∧ d = e.decompose a.value := by
  unfold toDecomposed
  split
  · next h => simp [h, eq_comm]
  · next h => simp [h]

theorem toApplied_eq_ok_iff :
    e.toApplied d = .ok a ↔
      (d.form = e.form ∧ d.residuals = e.residuals) ∧ a = ⟨e.applied, d.value⟩ := by
  unfold toApplied
  split
  · next h => simp [h, eq_comm]
  · next h => simp [h]

/-- The two directions of one piece of evidence undo each other. -/
theorem toDecomposed_eq_ok_iff_toApplied : e.toDecomposed a = .ok d ↔ e.toApplied d = .ok a := by
  rw [toDecomposed_eq_ok_iff, toApplied_eq_ok_iff]
  obtain ⟨type, value⟩ := a
  obtain ⟨form, residuals, value'⟩ := d
  simp only [decompose, Decomposed.mk.injEq, Applied.mk.injEq, eq_comm (a := value)]
  tauto

end Equality

section

variable {s : Store} {es : List Equality} {x : TypeId} {v : α} {w w' : View α}

/-- A coercion shows the same value at the same type. -/
theorem Coerces.shows (h : s.Certifies es) (hw : w.Shows s x v) (hstep : Coerces es w w') :
    w'.Shows s x v := by
  cases hstep with
  | toDecomposed mem success =>
    obtain ⟨htype, rfl⟩ := Equality.toDecomposed_eq_ok_iff.mp success
    obtain ⟨rfl, rfl⟩ := hw
    exact ⟨rfl, htype ▸ h.holds _ mem⟩
  | decompose mem known =>
    obtain ⟨rfl, rfl⟩ := hw
    exact ⟨rfl, known ▸ h.holds _ mem⟩
  | @toApplied e mem d a success =>
    obtain ⟨⟨hform, hresiduals⟩, rfl⟩ := Equality.toApplied_eq_ok_iff.mp success
    obtain ⟨hvalue, hx⟩ := hw
    rw [hform, hresiduals] at hx
    exact ⟨Form.reconstructs_unique h.reachable.wellFormed (h.holds e mem) hx, hvalue⟩

/-- So does a chain of coercions. -/
theorem shows_of_chain (h : s.Certifies es) (hchain : Relation.ReflTransGen (Coerces es) w w')
    (hw : w.Shows s x v) : w'.Shows s x v := by
  induction hchain with
  | refl => exact hw
  | tail _ hstep ih => exact hstep.shows h ih

end

/-- Coercions by the evidence of a run change neither the type nor the value. An applied view is the
value that was started from, a decomposed view carries it at a form and residuals that give its
type, and each piece of evidence goes both ways. -/
theorem coercions_keep_value {s : Store} {es : List Equality} (h : s.Certifies es) :
    (∀ (x : TypeId) (v : α) (a : Applied α),
      Relation.ReflTransGen (Coerces es) (.applied ⟨x, v⟩) (.applied a) → a = ⟨x, v⟩) ∧
    (∀ (x : TypeId) (v : α) (d : Decomposed α),
      Relation.ReflTransGen (Coerces es) (.applied ⟨x, v⟩) (.decomposed d) →
        d.value = v ∧ ∀ t, s.Reaches t → d.form.reconstructs t d.residuals x = true) ∧
    (∀ e ∈ es, ∀ e' ∈ es, e.form = e'.form → e.residuals = e'.residuals → e.applied = e'.applied) ∧
    ∀ e ∈ es, (∀ (a : Applied α) (d : Decomposed α),
        e.toDecomposed a = .ok d ↔ e.toApplied d = .ok a) ∧
      ∀ v : α, e.toDecomposed ⟨e.applied, v⟩ = .ok (e.decompose v) ∧
        e.toApplied (e.decompose v) = .ok ⟨e.applied, v⟩ := by
  have hstart : ∀ (x : TypeId) (v : α), (View.applied ⟨x, v⟩).Shows s x v := fun _ _ => ⟨rfl, rfl⟩
  refine ⟨?_, ?_, ?_, ?_⟩
  · intro x v a hchain
    obtain ⟨rfl, rfl⟩ := shows_of_chain h hchain (hstart x v)
    rfl
  · intro x v d hchain
    obtain ⟨hvalue, hx⟩ := shows_of_chain h hchain (hstart x v)
    exact ⟨hvalue, fun t ht => Form.reconstructs_of_le ht.grows.le hx⟩
  · intro e he e' he' hform hresiduals
    exact h.applied_eq he he' hform hresiduals
  · intro e _
    refine ⟨fun a d => Equality.toDecomposed_eq_ok_iff_toApplied, fun v => ?_⟩
    have hout : e.toDecomposed ⟨e.applied, v⟩ = .ok (e.decompose v) :=
      Equality.toDecomposed_eq_ok_iff.mpr ⟨rfl, rfl⟩
    exact ⟨hout, Equality.toDecomposed_eq_ok_iff_toApplied.mp hout⟩

namespace Equality

/-- `Pair Int String` as `\a -> Pair Int a` at `String`. -/
def pairFirst : Equality := ⟨⟨4⟩, ⟨1, .application (.fixed ⟨3⟩) (.hole 0)⟩, [⟨1⟩]⟩

/-- `Pair Int String` as `\a b -> Pair a b` at `Int` and `String`. -/
def pairBoth : Equality :=
  ⟨⟨4⟩, ⟨2, .application (.application (.fixed ⟨2⟩) (.hole 0)) (.hole 1)⟩, [⟨0⟩, ⟨1⟩]⟩

end Equality

/-- Out at one hole and back, and out at both by evidence of a later store: the pair is still a
`Pair Int String`. -/
theorem coercions_of_pair :
    ∃ s, Store.pairs.Reaches s ∧ s.Certifies [Equality.pairBoth, Equality.pairFirst] ∧
      (Equality.pairFirst.toDecomposed (⟨⟨4⟩, "pair"⟩ : Applied String) >>=
        Equality.pairFirst.toApplied >>= Equality.pairBoth.toDecomposed) =
        .ok (Equality.pairBoth.decompose "pair") ∧
      ∀ t, s.Reaches t →
        Equality.pairBoth.form.reconstructs t Equality.pairBoth.residuals ⟨4⟩ = true := by
  let s := (Operation.declare "Unit" .proper).after Store.pairs
  have hearly : Equality.certify Store.pairs ⟨4⟩ Equality.pairFirst.form
      Equality.pairFirst.residuals = some Equality.pairFirst := by decide +kernel
  have hlate : Equality.certify s ⟨4⟩ Equality.pairBoth.form
      Equality.pairBoth.residuals = some Equality.pairBoth := by decide +kernel
  have hcertifies : s.Certifies [Equality.pairBoth, Equality.pairFirst] :=
    ((Store.reachable_pairs.certifies_nil.certify hearly).operation (.declare "Unit" .proper)
      trivial).certify hlate
  obtain ⟨_, hdecomposed, _, hinverse⟩ := coercions_keep_value (α := String) hcertifies
  obtain ⟨hout, hback⟩ := (hinverse Equality.pairFirst (by simp)).2 "pair"
  obtain ⟨hboth, _⟩ := (hinverse Equality.pairBoth (by simp)).2 "pair"
  have hchain : Relation.ReflTransGen (Coerces [Equality.pairBoth, Equality.pairFirst])
      (.applied ⟨⟨4⟩, "pair"⟩) (.decomposed (Equality.pairBoth.decompose "pair")) :=
    ((Relation.ReflTransGen.single (.toDecomposed (by simp) hout)).tail
      (.toApplied (by simp) hback)).tail (.toDecomposed (by simp) hboth)
  exact ⟨s, (Store.Reaches.refl _).step _ trivial, hcertifies, rfl, (hdecomposed _ _ _ hchain).2⟩

end FormRecovery
