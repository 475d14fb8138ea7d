import FormRecovery.Proofs.Instantiation

/-!
Applications by kind. A stored application is given back without a look at its kinds, a new one is
checked first. In a store that a run reaches this makes no difference: the answer, success or
failure, depends on the kinds of the two types, and over a list of arguments on how far they unfold
the kind of the function.
-/
namespace FormRecovery

/-- The kind `k₁ -> … -> kₙ -> r`. -/
def Kind.arrows (parameters : List Kind) (result : Kind) : Kind := parameters.foldr arrow result

@[simp] theorem Kind.arrows_cons (k : Kind) (ks : List Kind) (result : Kind) :
    arrows (k :: ks) result = arrow k (arrows ks result) := rfl

theorem Store.kinds_of_le {s t : Store} (hle : s ≤ t) {xs : List TypeId} (hxs : ∀ x ∈ xs, x ∈ s) :
    xs.map t.kind = xs.map s.kind :=
  List.map_congr_left fun x hx => kind_of_le hle (hxs x hx)

namespace Interning

/-- Why a type of the first kind is not applied to an argument of the second kind. -/
inductive Refused (f x : TypeId) : Kind → Kind → KindError → Prop where
  | notAFunction (actual : Kind) : Refused f x .proper actual (.notAFunction f .proper)
  | argumentMismatch {expected actual : Kind} (result : Kind) (differ : expected ≠ actual) :
      Refused f x (.arrow expected result) actual (.argumentMismatch f x expected actual)

/-- Applies a type to another, but looks at the kinds before it looks for a stored application. -/
def applyChecked (f x : TypeId) : Interning KindError TypeId := fun s =>
  match s.kind f with
  | .proper => .error (.notAFunction f .proper) s
  | .arrow parameter result =>
    if parameter = s.kind x then
      match s.lookup (.application f x) with
      | some id => .ok id s
      | none => insert ⟨.application f x, result⟩ s
    else .error (.argumentMismatch f x parameter (s.kind x)) s

section

variable {f x : TypeId} {k actual : Kind} {e : KindError}

theorem refused_notAFunction_iff {g : TypeId} {k' : Kind} :
    Refused f x k actual (.notAFunction g k') ↔ k = .proper ∧ g = f ∧ k' = k := by
  constructor
  · rintro ⟨⟩
    exact ⟨rfl, rfl, rfl⟩
  · rintro ⟨rfl, rfl, rfl⟩
    exact .notAFunction actual

theorem refused_argumentMismatch_iff {g y : TypeId} {expected actual' : Kind} :
    Refused f x k actual (.argumentMismatch g y expected actual') ↔
      (∃ result, k = .arrow expected result) ∧ expected ≠ actual ∧ g = f ∧ y = x ∧
        actual' = actual := by
  constructor
  · rintro (_ | ⟨result, differ⟩)
    exact ⟨⟨result, rfl⟩, differ, rfl, rfl, rfl⟩
  · rintro ⟨⟨result, rfl⟩, differ, rfl, rfl, rfl⟩
    exact .argumentMismatch result differ

/-- A refusal is a kind that does not unfold at the argument. -/
theorem Refused.ne_arrow (h : Refused f x k actual e) (result : Kind) :
    k ≠ .arrow actual result := by
  cases h with
  | notAFunction => simp
  | argumentMismatch _ differ => simp [differ]

end

section

variable {s t : Store} {f x : TypeId} {xs : List TypeId} {e : KindError}

/-- What is stored was checked when it was stored, so that checking it again refuses nothing. -/
theorem apply_eq_applyChecked (hs : s.WellFormed) (f x : TypeId) :
    apply f x s = applyChecked f x s := by
  unfold apply applyChecked
  cases hl : s.lookup (.application f x) with
  | some id =>
    have hkind := hs.kinds id f x (Store.shape?_of_lookup hl)
    simp [hkind]
  | none =>
    cases s.kind f with
    | proper => rfl
    | arrow parameter result => rfl

theorem apply_eq_error_iff (hs : s.WellFormed) :
    apply f x s = .error e t ↔ Refused f x (s.kind f) (s.kind x) e ∧ t = s := by
  rw [apply_eq_applyChecked hs, applyChecked]
  cases s.kind f with
  | proper =>
    constructor
    · rintro ⟨⟩
      exact ⟨.notAFunction _, rfl⟩
    · rintro ⟨⟨⟩, rfl⟩
      rfl
  | arrow parameter result =>
    by_cases hp : parameter = s.kind x
    · subst hp
      -- the argument fits: whether the application is stored or not, there is no error
      have hfits : ¬Refused f x (.arrow (s.kind x) result) (s.kind x) e := fun h =>
        h.ne_arrow result rfl
      simp only [if_true, hfits, false_and, iff_false]
      cases s.lookup (.application f x) <;> simp [insert]
    · simp only [hp, if_false]
      constructor
      · rintro ⟨⟩
        exact ⟨.argumentMismatch result hp, rfl⟩
      · rintro ⟨⟨⟩, rfl⟩
        rfl

theorem exists_apply_iff (hs : s.WellFormed) (hf : f ∈ s) (hx : x ∈ s) (r : Kind) :
    (∃ y t, apply f x s = .ok y t ∧ t.kind y = r) ↔ s.kind f = .arrow (s.kind x) r := by
  constructor
  · rintro ⟨y, t, hy, rfl⟩
    exact kind_of_apply hs hf hx hy
  · intro hkind
    obtain ⟨y, t, hy, _, _, hr⟩ := apply_of_kind hs hf hx hkind
    exact ⟨y, t, hy, hr⟩

/-- Arguments are taken if their kinds unfold the kind of the function one after the other. The
store grows between them, but the kinds of what was stored stay. -/
theorem exists_applyAll_iff (hs : s.WellFormed) (hf : f ∈ s) (hxs : ∀ x ∈ xs, x ∈ s) (r : Kind) :
    (∃ y t, applyAll f xs s = .ok y t ∧ t.kind y = r) ↔ s.kind f = .arrows (xs.map s.kind) r := by
  induction xs generalizing s f with
  | nil =>
    constructor
    · rintro ⟨y, t, hy, rfl⟩
      obtain ⟨rfl, rfl⟩ := EStateM.Result.ok.inj hy
      rfl
    · rintro rfl
      exact ⟨f, s, rfl, rfl⟩
  | cons x xs ih =>
    rw [List.forall_mem_cons] at hxs
    have hrest {g : TypeId} {u : Store} (hsu : s.Grows u) (hg : g ∈ u) :
        (∃ y t, applyAll g xs u = .ok y t ∧ t.kind y = r) ↔
          u.kind g = .arrows (xs.map s.kind) r := by
      rw [← Store.kinds_of_le hsu.le hxs.2]
      exact ih (hsu.wellFormed hs) hg fun y hy => Store.mem_of_le hsu.le (hxs.2 y hy)
    simp only [applyAll_cons, bind_eq_ok_iff, List.map_cons, Kind.arrows_cons]
    constructor
    · rintro ⟨y, t, ⟨g, u, hg, hy⟩, hr⟩
      obtain ⟨hsu, hshape⟩ := (keeps_apply hf hxs.1).of_ok hg
      rw [kind_of_apply hs hf hxs.1 hg, (hrest hsu (Store.mem_of_shape? hshape)).mp ⟨y, t, hy, hr⟩]
    · intro hkind
      obtain ⟨g, u, hg, hsu, hmem, hgkind⟩ := apply_of_kind hs hf hxs.1 hkind
      obtain ⟨y, t, hy, hr⟩ := (hrest hsu hmem).mpr hgkind
      exact ⟨y, t, ⟨g, u, hg, hy⟩, hr⟩

/-- Arguments are refused at the first one that does not unfold the kind of the function: what the
ones before it made is refused for its kind. -/
theorem refused_of_applyAll (hs : s.WellFormed) (hf : f ∈ s) (hxs : ∀ x ∈ xs, x ∈ s)
    (h : applyAll f xs s = .error e t) :
    ∃ before x rest g k, xs = before ++ x :: rest ∧ s.kind f = .arrows (before.map s.kind) k ∧
      applyAll f before s = .ok g t ∧ t.kind g = k ∧ Refused g x k (s.kind x) e := by
  obtain ⟨before, x, rest, g, rfl, hbefore, hfails⟩ := applyAll_error h
  obtain ⟨hmem, hx, _⟩ := by simpa only [List.forall_mem_append, List.forall_mem_cons] using hxs
  obtain ⟨hst, _⟩ := (keeps_applyAll hf hmem).of_ok hbefore
  have hunfolds := (exists_applyAll_iff hs hf hmem (t.kind g)).mp ⟨g, t, hbefore, rfl⟩
  obtain ⟨hrefused, _⟩ := (apply_eq_error_iff (hst.wellFormed hs)).mp hfails
  rw [Store.kind_of_le hst.le hx] at hrefused
  exact ⟨before, x, rest, g, t.kind g, rfl, hunfolds, hbefore, rfl, hrefused⟩

end

end Interning

open Interning in
/-- An application is answered as if its kinds were always looked at first, whether it is stored or
not. It has the kind `r` exactly if the function has the kind `k -> r` for the kind `k` of the
argument; it is refused as no function exactly if the function is proper, and else for the kind of
the argument. Arguments one by one give the kind `r` exactly if the function has the kind
`k₁ -> … -> kₙ -> r` for their kinds, and are refused at the first one where this unfolding ends. -/
theorem application_follows_kinds {s : Store} (hs : s.Reachable) :
    (∀ f ∈ s, ∀ x ∈ s,
      apply f x s = applyChecked f x s ∧
      (∀ r, (∃ id t, apply f x s = .ok id t ∧ t.kind id = r) ↔ s.kind f = .arrow (s.kind x) r) ∧
      (∀ g k t, apply f x s = .error (.notAFunction g k) t ↔
        s.kind f = .proper ∧ g = f ∧ k = s.kind f ∧ t = s) ∧
      ∀ g y expected actual t, apply f x s = .error (.argumentMismatch g y expected actual) t ↔
        (∃ r, s.kind f = .arrow expected r) ∧ expected ≠ s.kind x ∧ g = f ∧ y = x ∧
          actual = s.kind x ∧ t = s) ∧
    ∀ f ∈ s, ∀ xs : List TypeId, (∀ x ∈ xs, x ∈ s) →
      (∀ r, (∃ id t, applyAll f xs s = .ok id t ∧ t.kind id = r) ↔
        s.kind f = .arrows (xs.map s.kind) r) ∧
      ((∀ r, s.kind f ≠ .arrows (xs.map s.kind) r) →
        ∃ before x rest k g e t, xs = before ++ x :: rest ∧
          s.kind f = .arrows (before.map s.kind) k ∧
          (∀ r, k ≠ .arrow (s.kind x) r) ∧ applyAll f before s = .ok g t ∧ t.kind g = k ∧
          applyAll f xs s = .error e t ∧
          (k = .proper → e = .notAFunction g k) ∧
          ∀ expected r, k = .arrow expected r → e = .argumentMismatch g x expected (s.kind x)) := by
  have hw := hs.wellFormed
  constructor
  · intro f hf x hx
    refine ⟨apply_eq_applyChecked hw f x, exists_apply_iff hw hf hx, ?_, ?_⟩
    · intro g k t
      rw [apply_eq_error_iff hw, refused_notAFunction_iff]
      simp only [and_assoc]
    · intro g y expected actual t
      rw [apply_eq_error_iff hw, refused_argumentMismatch_iff]
      simp only [and_assoc]
  · intro f hf xs hxs
    have hsucceeds := exists_applyAll_iff hw hf hxs
    refine ⟨hsucceeds, ?_⟩
    intro hends
    cases hr : applyAll f xs s with
    | ok id t => exact absurd ((hsucceeds _).mp ⟨id, t, hr, rfl⟩) (hends _)
    | error e t =>
      obtain ⟨before, x, rest, g, k, hsplit, hunfolds, hbefore, hk, hrefused⟩ :=
        refused_of_applyAll hw hf hxs hr
      refine ⟨before, x, rest, k, g, e, t, hsplit, hunfolds, hrefused.ne_arrow, hbefore, hk, rfl,
        ?_, ?_⟩
      · rintro rfl
        cases hrefused
        rfl
      · rintro expected r rfl
        cases hrefused
        rfl

open Interning in
/-- `Pair Int String` is stored already and is proper, `Int String` and `Pair Int Pair` are refused.
`Pair` at `String` and `Pair` is refused at the second argument, which `Pair String` does not
take. -/
theorem kinds_of_pair_string_pair :
    (∃ id t, apply ⟨3⟩ ⟨1⟩ .pairs = .ok id t ∧ t.kind id = .proper) ∧
    apply ⟨0⟩ ⟨1⟩ .pairs = .error (.notAFunction ⟨0⟩ .proper) .pairs ∧
    apply ⟨3⟩ ⟨2⟩ .pairs = .error (.argumentMismatch ⟨3⟩ ⟨2⟩ .proper (.ofArity 2)) .pairs ∧
    ∃ g t, applyAll ⟨2⟩ [⟨1⟩] .pairs = .ok g t ∧ t.kind g = .ofArity 1 ∧
      applyAll ⟨2⟩ [⟨1⟩, ⟨2⟩] .pairs = .error (.argumentMismatch g ⟨2⟩ .proper (.ofArity 2)) t := by
  have hint : Store.pairs.kind ⟨0⟩ = .proper := by decide +kernel
  have hstring : Store.pairs.kind ⟨1⟩ = .proper := by decide +kernel
  have hpair : Store.pairs.kind ⟨2⟩ = .ofArity 2 := by decide +kernel
  have hpairInt : Store.pairs.kind ⟨3⟩ = .ofArity 1 := by decide +kernel
  obtain ⟨hone, hall⟩ := application_follows_kinds Store.reachable_pairs
  obtain ⟨_, hstored, _, _⟩ := hone ⟨3⟩ (by decide +kernel) ⟨1⟩ (by decide +kernel)
  obtain ⟨_, _, hproper, _⟩ := hone ⟨0⟩ (by decide +kernel) ⟨1⟩ (by decide +kernel)
  obtain ⟨_, _, _, hmismatch⟩ := hone ⟨3⟩ (by decide +kernel) ⟨2⟩ (by decide +kernel)
  obtain ⟨_, hrefused⟩ := hall ⟨2⟩ (by decide +kernel) [⟨1⟩, ⟨2⟩] (by decide +kernel)
  obtain ⟨before, x, rest, k, g, e, t, hsplit, hunfolds, hends, hbefore, hk, hr, _, hcause⟩ :=
    hrefused (by simp [hstring, hpair, Kind.ofArity])
  refine ⟨(hstored .proper).mpr (by rw [hpairInt, hstring]; rfl),
    (hproper ..).mpr ⟨hint, rfl, hint.symm, rfl⟩,
    (hmismatch ..).mpr
      ⟨⟨.proper, hpairInt⟩, by simp [hpair, Kind.ofArity], rfl, rfl, hpair.symm, rfl⟩,
    ?_⟩
  -- the first argument is taken, so that the second is the one that is refused
  cases before with
  | nil =>
    obtain ⟨rfl, _⟩ := List.cons.inj hsplit
    obtain rfl : Kind.ofArity 2 = k := hpair.symm.trans hunfolds
    exact absurd rfl (hstring ▸ hends _)
  | cons y before =>
    obtain ⟨rfl, hrest⟩ := List.cons.inj hsplit
    cases before with
    | nil =>
      obtain ⟨rfl, _⟩ := List.cons.inj hrest
      rw [hpair, List.map_singleton, hstring] at hunfolds
      obtain rfl : Kind.ofArity 1 = k := (Kind.arrow.inj hunfolds).2
      rw [hcause .proper .proper rfl, hpair] at hr
      exact ⟨g, t, hbefore, hk, hr⟩
    | cons z before => simp at hrest

end FormRecovery
