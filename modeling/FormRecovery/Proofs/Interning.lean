import FormRecovery.Form
import FormRecovery.Proofs.Growth

/-!
What a step that may append types does to a store: whether it fails or not it only grows the
store, and what it gives stands in the store it leaves. Each step has one lemma that says so, and
a sequence of steps has it from its parts.
-/
namespace FormRecovery

namespace Template

/-- All types inside the template are stored. -/
def Over (s : Store) : Template → Prop
  | fixed id => id ∈ s
  | hole _ => True
  | application function argument => function.Over s ∧ argument.Over s

instance decidableOver (s : Store) : (u : Template) → Decidable (u.Over s)
  | fixed id => inferInstanceAs (Decidable (id ∈ s))
  | hole _ => inferInstanceAs (Decidable True)
  | application f x =>
    have := decidableOver s f
    have := decidableOver s x
    inferInstanceAs (Decidable (f.Over s ∧ x.Over s))

/-- Every part without holes is a single type. -/
def Canonical : Template → Prop
  | fixed _ => True
  | hole _ => True
  | application function argument =>
    function.Canonical ∧ argument.Canonical ∧ ¬(function.isClosed ∧ argument.isClosed)

theorem over_of_le {s t : Store} (h : s ≤ t) {u : Template} (hu : u.Over s) : u.Over t := by
  induction u with
  | fixed id => exact Store.mem_of_le h hu
  | hole _ => trivial
  | application _ _ ihf ihx => exact ⟨ihf hu.1, ihx hu.2⟩

theorem canonical_closed {u : Template} (hu : u.Canonical) (hc : u.isClosed = true) :
    ∃ id, u = fixed id := by
  cases u with
  | fixed id => exact ⟨id, rfl⟩
  | hole h => simp [isClosed] at hc
  | application f x =>
    rw [isClosed_application, Bool.and_eq_true] at hc
    exact absurd hc hu.2.2

end Template

namespace Interning

variable {ε δ α β : Type} {s : Store}

/-- On this store the step only grows it, and keeps its promise unless it fails. -/
def Keeps (x : Interning ε α) (s : Store) (promise : Store → α → Prop) : Prop :=
  match x s with
  | .ok a t => s.Grows t ∧ promise t a
  | .error _ t => s.Grows t

theorem Keeps.of_ok {x : Interning ε α} {promise : Store → α → Prop} (hx : Keeps x s promise)
    {a : α} {t : Store} (hr : x s = .ok a t) : s.Grows t ∧ promise t a := by
  unfold Keeps at hx
  rwa [hr] at hx

theorem Keeps.of_error {x : Interning ε α} {promise : Store → α → Prop} (hx : Keeps x s promise)
    {e : ε} {t : Store} (hr : x s = .error e t) : s.Grows t := by
  unfold Keeps at hx
  rwa [hr] at hx

theorem keeps_pure {promise : Store → α → Prop} (a : α) (h : promise s a) :
    Keeps (pure a : Interning ε α) s promise := ⟨.refl s, h⟩

theorem keeps_throw {promise : Store → α → Prop} (e : ε) :
    Keeps (throw e : Interning ε α) s promise := .refl s

theorem Keeps.bind {x : Interning ε α} {f : α → Interning ε β} {promise : Store → α → Prop}
    {promise' : Store → β → Prop} (hx : Keeps x s promise)
    (hf : ∀ a t, s.Grows t → promise t a → Keeps (f a) t promise') :
    Keeps (x >>= f) s promise' := by
  simp only [Keeps, Bind.bind, EStateM.bind]
  cases hr : x s with
  | error e t => exact hx.of_error hr
  | ok a t =>
    obtain ⟨hst, ha⟩ := hx.of_ok hr
    have hfa := hf a t hst ha
    dsimp only
    cases hb : f a t with
    | error e u => exact hst.trans (hfa.of_error hb)
    | ok b u =>
      obtain ⟨htu, hb⟩ := hfa.of_ok hb
      exact ⟨hst.trans htu, hb⟩

theorem Keeps.adaptExcept {x : Interning ε α} {promise : Store → α → Prop} (hx : Keeps x s promise)
    (f : ε → δ) : Keeps (x.adaptExcept f) s promise := by
  simp only [Keeps, EStateM.adaptExcept]
  cases hr : x s with
  | error e t => exact hx.of_error hr
  | ok a t => exact hx.of_ok hr

theorem Keeps.imp {x : Interning ε α} {promise promise' : Store → α → Prop} (hx : Keeps x s promise)
    (h : ∀ t a, promise t a → promise' t a) : Keeps x s promise' := by
  unfold Keeps
  cases hr : x s with
  | error e t => exact hx.of_error hr
  | ok a t =>
    obtain ⟨hst, ha⟩ := hx.of_ok hr
    exact ⟨hst, h t a ha⟩

theorem Keeps.map {x : Interning ε α} {promise : Store → α → Prop} {promise' : Store → β → Prop}
    (hx : Keeps x s promise) {f : α → β} (hf : ∀ a t, s.Grows t → promise t a → promise' t (f a)) :
    Keeps (f <$> x) s promise' := by
  rw [← bind_pure_comp]
  exact hx.bind fun a t hg ha => keeps_pure (f a) (hf a t hg ha)

theorem bind_eq_ok_iff {x : Interning ε α} {f : α → Interning ε β} {b : β} {t : Store} :
    (x >>= f) s = .ok b t ↔ ∃ a u, x s = .ok a u ∧ f a u = .ok b t := by
  simp only [Bind.bind, EStateM.bind]
  cases x s <;> simp [and_assoc]

theorem bind_eq_error_iff {x : Interning ε α} {f : α → Interning ε β} {e : ε} {t : Store} :
    (x >>= f) s = .error e t ↔
      x s = .error e t ∨ ∃ a u, x s = .ok a u ∧ f a u = .error e t := by
  simp only [Bind.bind, EStateM.bind]
  cases x s <;> simp [and_assoc]

theorem map_eq_ok_iff {x : Interning ε α} {f : α → β} {b : β} {t : Store} :
    EStateM.map f x s = .ok b t ↔ ∃ a, x s = .ok a t ∧ f a = b := by
  unfold EStateM.map
  cases x s with
  | ok a u => simpa [and_assoc] using and_comm
  | error e u => simp

theorem map_eq_error_iff {x : Interning ε α} {f : α → β} {e : ε} {t : Store} :
    EStateM.map f x s = .error e t ↔ x s = .error e t := by
  unfold EStateM.map
  cases x s <;> simp

theorem adaptExcept_eq_ok_iff {x : Interning ε α} {f : ε → δ} {a : α} {t : Store} :
    x.adaptExcept f s = .ok a t ↔ x s = .ok a t := by
  unfold EStateM.adaptExcept
  cases x s <;> simp

theorem adaptExcept_eq_error_iff {x : Interning ε α} {f : ε → δ} {d : δ} {t : Store} :
    x.adaptExcept f s = .error d t ↔ ∃ e, x s = .error e t ∧ f e = d := by
  unfold EStateM.adaptExcept
  cases x s with
  | ok a u => simp
  | error e u => simpa [and_assoc] using and_comm

theorem keeps_insert {e : Entry} (he : s.Admits e) :
    Keeps (insert e : Interning ε TypeId) s (fun t id => t.shape? id = some e.shape) := by
  refine ⟨.push (.refl s) he, ?_⟩
  change (s.push e).shape? s.next = some e.shape
  rw [Store.shape?_push, if_pos rfl]

theorem keeps_declare (name : String) (kind : Kind) :
    Keeps (declare name kind) s (fun t id => t.shape? id = some (.constructor name)) := by
  unfold Keeps declare
  cases hl : s.constructor? name with
  | some id =>
    by_cases hk : s.kind id = kind
    · simp only [hk, if_true]
      exact ⟨.refl s, Store.shape?_of_lookup hl⟩
    · simp only [hk, if_false]
      exact .refl s
  | none =>
    exact keeps_insert (ε := KindError) (e := ⟨.constructor name, kind⟩) ⟨hl, by simp, by simp⟩

theorem keeps_apply {f x : TypeId} (hf : f ∈ s) (hx : x ∈ s) :
    Keeps (apply f x) s (fun t id => t.shape? id = some (.application f x)) := by
  unfold Keeps apply
  cases hl : s.lookup (.application f x) with
  | some id => exact ⟨.refl s, Store.shape?_of_lookup hl⟩
  | none =>
    cases hk : s.kind f with
    | proper => exact .refl s
    | arrow parameter result =>
      by_cases hp : parameter = s.kind x
      · have hadmits : s.Admits ⟨.application f x, result⟩ := by
          refine ⟨hl, ?_, ?_⟩
          · rintro _ _ he
            cases he
            exact ⟨hf, hx⟩
          · rintro _ _ he
            cases he
            rw [hk, hp]
        simp only [hp, if_true]
        exact keeps_insert (ε := KindError) hadmits
      · simp only [hp, if_false]
        exact .refl s

theorem applyAll_cons (f x : TypeId) (xs : List TypeId) :
    applyAll f (x :: xs) = apply f x >>= fun g => applyAll g xs := List.foldlM_cons

theorem keeps_applyAll {f : TypeId} {xs : List TypeId} (hf : f ∈ s) (hxs : ∀ x ∈ xs, x ∈ s) :
    Keeps (applyAll f xs) s (fun t id => id ∈ t) := by
  induction xs generalizing s f with
  | nil => exact keeps_pure f hf
  | cons x xs ih =>
    rw [List.forall_mem_cons] at hxs
    rw [applyAll_cons]
    refine (keeps_apply hf hxs.1).bind ?_
    intro g t hg hshape
    exact ih (Store.mem_of_shape? hshape) fun y hy => Store.mem_of_le hg.le (hxs.2 y hy)

end Interning

namespace Template

open Interning

variable {s : Store}

theorem collapse_fixed (a b : TypeId) :
    collapse (fixed a) (fixed b) = EStateM.map fixed (Interning.apply a b) := by
  funext s'
  unfold collapse EStateM.map
  dsimp only
  cases Interning.apply a b s' <;> rfl

theorem collapse_open {f x : Template} (h : ¬(f.isClosed = true ∧ x.isClosed = true)) :
    collapse f x = pure (application f x) := by
  cases f <;> cases x <;> first | rfl | exact absurd ⟨rfl, rfl⟩ h

theorem keeps_collapse {f x : Template} (hf : f.Over s ∧ f.Canonical)
    (hx : x.Over s ∧ x.Canonical) :
    Keeps (collapse f x) s (fun t u => u.Over t ∧ u.Canonical ∧ u.holes = f.holes ++ x.holes) := by
  by_cases hc : f.isClosed = true ∧ x.isClosed = true
  · obtain ⟨a, rfl⟩ := canonical_closed hf.2 hc.1
    obtain ⟨b, rfl⟩ := canonical_closed hx.2 hc.2
    rw [collapse_fixed]
    apply (keeps_apply hf.1 hx.1).map
    intro id t _ hshape
    exact ⟨Store.mem_of_shape? hshape, trivial, rfl⟩
  · rw [collapse_open hc]
    exact keeps_pure _ ⟨⟨hf.1, hx.1⟩, ⟨hf.2, hx.2, hc⟩, rfl⟩

/-- What is made canonical is canonical, over the store, and has the holes it had. -/
theorem keeps_canonicalize {u : Template} (hu : u.Over s) :
    Keeps u.canonicalize s (fun t v => v.Over t ∧ v.Canonical ∧ v.holes = u.holes) := by
  induction u generalizing s with
  | fixed id => exact keeps_pure _ ⟨hu, trivial, rfl⟩
  | hole h => exact keeps_pure _ ⟨trivial, trivial, rfl⟩
  | application f x ihf ihx =>
    refine (ihf hu.1).bind ?_
    intro f' t hst hf
    refine (ihx (over_of_le hst.le hu.2)).bind ?_
    intro x' t' htt' hx
    rw [holes_application, ← hf.2.2, ← hx.2.2]
    exact keeps_collapse ⟨over_of_le htt'.le hf.1, hf.2.1⟩ ⟨hx.1, hx.2.1⟩

theorem keeps_instantiate {u : Template} (hu : u.Over s) {residuals : List TypeId}
    (hr : ∀ r ∈ residuals, r ∈ s) : Keeps (u.instantiate residuals) s (fun t id => id ∈ t) := by
  induction u generalizing s with
  | fixed id => exact keeps_pure _ hu
  | hole h =>
    unfold instantiate
    split
    · next id he => exact keeps_pure _ (hr id (List.mem_of_getElem? he))
    · exact keeps_throw _
  | application f x ihf ihx =>
    refine (ihf hu.1 hr).bind ?_
    intro a t hst ha
    refine (ihx (over_of_le hst.le hu.2) fun r hm => Store.mem_of_le hst.le (hr r hm)).bind ?_
    intro b t' htt' hb
    refine Keeps.adaptExcept ((keeps_apply (Store.mem_of_le htt'.le ha) hb).imp ?_) FormError.kind
    intro t'' id hshape
    exact Store.mem_of_shape? hshape

end Template

namespace Form

open Interning

variable {s : Store}

/-- What makes a form usable as a key over a store. -/
structure Valid (s : Store) (f : Form) : Prop where
  arity_eq : f.arity = 1 ∨ f.arity = 2
  holes_lt : ∀ h ∈ f.body.holes, h < f.arity
  canonical : f.body.Canonical
  stored : f.body.Over s

theorem valid_of_le {s t : Store} (h : s ≤ t) {f : Form} (hf : f.Valid s) : f.Valid t :=
  ⟨hf.arity_eq, hf.holes_lt, hf.canonical, Template.over_of_le h hf.stored⟩

theorem supported_iff (arity : Nat) : (1 ≤ arity ∧ arity ≤ maxArity) ↔ (arity = 1 ∨ arity = 2) := by
  simp only [maxArity]
  omega

theorem fault?_eq_none_iff (arity : Nat) (body : Template) :
    fault? arity body = none ↔ (arity = 1 ∨ arity = 2) ∧ ∀ h ∈ body.holes, h < arity := by
  unfold fault?
  rw [← supported_iff]
  split
  · next hr =>
    simp only [hr, true_and]
    split
    · next h hmax =>
      obtain ⟨hmem, hle⟩ := List.max?_eq_some_iff.mp hmax
      split
      · next hlt => simp only [true_iff]; exact fun k hk => Nat.lt_of_le_of_lt (hle k hk) hlt
      · next hlt => simp only [reduceCtorEq, false_iff]; exact fun hall => hlt (hall h hmem)
    · next hnone => simp [List.max?_eq_none_iff.mp hnone]
  · next hr => simp [hr]

theorem keeps_ofTemplate {body : Template} (hb : body.Over s) (arity : Nat) :
    Keeps (ofTemplate arity body) s (fun t f => f.Valid t) := by
  unfold ofTemplate
  split
  · exact keeps_throw _
  · next hfault =>
    obtain ⟨ha, hh⟩ := (fault?_eq_none_iff arity body).mp hfault
    refine (Keeps.adaptExcept (Template.keeps_canonicalize hb) FormError.kind).bind ?_
    rintro u t _ ⟨hover, hcanonical, hholes⟩
    exact keeps_pure _ ⟨ha, by simpa [hholes] using hh, hcanonical, hover⟩

theorem keeps_instantiate {f : Form} (hf : f.body.Over s) {residuals : List TypeId}
    (hr : ∀ r ∈ residuals, r ∈ s) : Keeps (f.instantiate residuals) s (fun t id => id ∈ t) := by
  unfold instantiate
  split
  · exact Template.keeps_instantiate hf hr
  · exact keeps_throw _

end Form

end FormRecovery
