import FormRecovery.Proofs.Reachability

/-!
Declarations. Only a declaration stores a constructor, and the first one of a name decides its kind:
a later one agrees with it or fails, and no other operation touches a constructor.
-/
namespace FormRecovery

namespace Interning

variable {ε δ α β γ : Type} {view : Store → γ}

/-- The store that a step leaves, on success and on failure alike. -/
def after (x : Interning ε α) (s : Store) : Store :=
  match x s with
  | .ok _ t => t
  | .error _ t => t

/-- The step leaves this view of the store as it was. -/
def Leaves (view : Store → γ) (x : Interning ε α) : Prop := ∀ s, view (x.after s) = view s

theorem leaves_pure (a : α) : Leaves view (pure a : Interning ε α) := fun _ => rfl

theorem leaves_throw (e : ε) : Leaves view (throw e : Interning ε α) := fun _ => rfl

theorem Leaves.bind {x : Interning ε α} {f : α → Interning ε β} (hx : Leaves view x)
    (hf : ∀ a, Leaves view (f a)) : Leaves view (x >>= f) := by
  intro s
  have hs := hx s
  simp only [after, Bind.bind, EStateM.bind] at hs ⊢
  cases hr : x s with
  | error e t =>
    rw [hr] at hs
    exact hs
  | ok a t =>
    rw [hr] at hs
    exact (hf a t).trans hs

theorem after_map (x : Interning ε α) (f : α → β) (s : Store) :
    after (EStateM.map f x) s = x.after s := by
  unfold after EStateM.map
  cases x s <;> rfl

theorem after_adaptExcept (x : Interning ε α) (f : ε → δ) (s : Store) :
    after (x.adaptExcept f) s = x.after s := by
  unfold after EStateM.adaptExcept
  cases x s <;> rfl

theorem Leaves.map {x : Interning ε α} (hx : Leaves view x) (f : α → β) :
    Leaves view (EStateM.map f x) := by
  intro s
  rw [after_map]
  exact hx s

theorem Leaves.adaptExcept {x : Interning ε α} (hx : Leaves view x) (f : ε → δ) :
    Leaves view (x.adaptExcept f) := by
  intro s
  rw [after_adaptExcept]
  exact hx s

theorem leaves_applyAll (h : ∀ f x, Leaves view (apply f x)) (f : TypeId) (xs : List TypeId) :
    Leaves view (applyAll f xs) := by
  induction xs generalizing f with
  | nil => exact leaves_pure f
  | cons x xs ih =>
    rw [applyAll_cons]
    exact (h f x).bind ih

end Interning

section

open Interning

variable {γ : Type} {view : Store → γ}

theorem Template.collapse_cases (f x : Template) :
    (∃ a b, f = fixed a ∧ x = fixed b) ∨ collapse f x = pure (application f x) := by
  cases f with
  | fixed a =>
    cases x with
    | fixed b => exact .inl ⟨a, b, rfl, rfl⟩
    | hole k => exact .inr rfl
    | application g y => exact .inr rfl
  | hole k => exact .inr rfl
  | application g y => exact .inr rfl

theorem Template.leaves_canonicalize (h : ∀ f x, Leaves view (apply f x)) (u : Template) :
    Leaves view u.canonicalize := by
  induction u with
  | fixed id => exact leaves_pure _
  | hole k => exact leaves_pure _
  | application f x ihf ihx =>
    refine ihf.bind fun f' => ihx.bind fun x' => ?_
    rcases collapse_cases f' x' with ⟨a, b, rfl, rfl⟩ | hopen
    · rw [collapse_fixed]
      exact (h a b).map fixed
    · rw [hopen]
      exact leaves_pure _

theorem Template.leaves_instantiate (h : ∀ f x, Leaves view (apply f x)) (u : Template)
    (residuals : List TypeId) : Leaves view (u.instantiate residuals) := by
  induction u with
  | fixed id => exact leaves_pure _
  | hole k =>
    unfold instantiate
    split
    · exact leaves_pure _
    · exact leaves_throw _
  | application f x ihf ihx => exact ihf.bind fun a => ihx.bind fun b => (h a b).adaptExcept _

theorem Form.leaves_ofTemplate (h : ∀ f x, Leaves view (apply f x)) (arity : Nat)
    (body : Template) : Leaves view (ofTemplate arity body) := by
  unfold ofTemplate
  split
  · exact leaves_throw _
  · exact ((Template.leaves_canonicalize h body).adaptExcept _).bind fun u => leaves_pure _

theorem Form.leaves_instantiate (h : ∀ f x, Leaves view (apply f x)) (f : Form)
    (residuals : List TypeId) : Leaves view (f.instantiate residuals) := by
  unfold instantiate
  split
  · exact Template.leaves_instantiate h f.body residuals
  · exact leaves_throw _

end

namespace Store

/-- The kind that a constructor is stored with. -/
def declared? (s : Store) (name : String) : Option Kind := (s.constructor? name).map s.kind

theorem declared?_emptyWith (hash : Shape → UInt64) (name : String) :
    (emptyWith hash).declared? name = none := rfl

/-- A look-up finds an appended entry if it has the shape, and otherwise what it found before. -/
theorem lookup_push (s : Store) (e : Entry) (shape : Shape) :
    (s.push e).lookup shape = if e.shape = shape then some s.next else s.lookup shape := by
  have hother (id : TypeId) (he : e.shape ≠ shape) :
      ((s.push e).shape? id == some shape) = (s.shape? id == some shape) := by
    rw [shape?_push]
    split
    · next hid => simp [hid, shape?_next, he]
    · rfl
  by_cases he : e.shape = shape
  · subst he
    simp [lookup, Table.find?, shape?_push]
  · simp [lookup, Table.find?, hother _ he, shape?_next, he]

/-- An appended constructor counts. -/
theorem declared?_push {s : Store} {e : Entry} (he : s.lookup e.shape = none) (name : String) :
    (s.push e).declared? name =
      (s.declared? name).or (if e.shape = .constructor name then some e.kind else none) := by
  unfold declared? constructor?
  rw [lookup_push]
  split
  · next hname =>
    rw [← hname, he]
    simp [kind_push]
  · cases hl : s.lookup (.constructor name) with
    | none => rfl
    | some id =>
      have hne := ne_next (mem_of_shape? (shape?_of_lookup hl))
      simp [kind_push, hne]

end Store

namespace Interning

theorem leaves_declared?_apply (name : String) (f x : TypeId) :
    Leaves (·.declared? name) (apply f x) := by
  intro s
  unfold after apply
  cases hl : s.lookup (.application f x) with
  | some id => rfl
  | none =>
    cases s.kind f with
    | proper => rfl
    | arrow parameter result =>
      by_cases hp : parameter = s.kind x
      · simp [hp, insert, Store.declared?_push (e := ⟨.application f x, result⟩) hl]
      · simp [hp]

/-- A declaration counts if its name is new. -/
theorem declared?_after_declare (name other : String) (kind : Kind) (s : Store) :
    ((declare other kind).after s).declared? name =
      (s.declared? name).or (if other = name then some kind else none) := by
  unfold after declare
  cases hl : s.constructor? other with
  | some id =>
    have hstored : other = name → s.declared? name = some (s.kind id) := by
      rintro rfl
      rw [Store.declared?, hl, Option.map_some]
    by_cases hk : s.kind id = kind <;> by_cases hn : other = name <;> simp [hk, hn, hstored]
  | none => simp [insert, Store.declared?_push (e := ⟨.constructor other, kind⟩) hl]

end Interning

namespace Operation

/-- The kind that the operation declares the name with. -/
def declares? (name : String) : Operation → Option Kind
  | declare other kind => if other = name then some kind else none
  | _ => none

theorem after_eq (op : Operation) (s : Store) : op.after s = op.run.after s := by
  unfold after Interning.after
  cases op.run s <;> rfl

/-- An operation stores a constructor by a declaration of a new name, and not otherwise. -/
theorem declared?_after (op : Operation) (s : Store) (name : String) :
    (op.after s).declared? name = (s.declared? name).or (op.declares? name) := by
  have hkept := Interning.leaves_declared?_apply name
  have hrest (h : Interning.Leaves (·.declared? name) op.run) (hd : op.declares? name = none) :
      (op.after s).declared? name = (s.declared? name).or (op.declares? name) := by
    rw [hd, Option.or_none, after_eq]
    exact h s
  cases op with
  | declare other kind =>
    rw [after_eq, run, Interning.after_map, Interning.after_adaptExcept]
    exact Interning.declared?_after_declare name other kind s
  | apply f x => exact hrest (((hkept f x).adaptExcept _).map _) rfl
  | applyAll f xs => exact hrest (((Interning.leaves_applyAll hkept f xs).adaptExcept _).map _) rfl
  | form arity body => exact hrest ((Form.leaves_ofTemplate hkept arity body).map _) rfl
  | instantiate f rs => exact hrest ((Form.leaves_instantiate hkept f rs).map _) rfl

/-- The store after the operations, in order. -/
def afterAll (ops : List Operation) (s : Store) : Store := ops.foldl (fun s op => op.after s) s

/-- Each operation mentions types only that the store gave out by then. -/
def AllIssued : List Operation → Store → Prop
  | [], _ => True
  | op :: ops, s => op.Issued s ∧ AllIssued ops (op.after s)

instance decidableAllIssued : (ops : List Operation) → (s : Store) → Decidable (AllIssued ops s)
  | [], _ => inferInstanceAs (Decidable True)
  | op :: ops, s =>
    have := decidableAllIssued ops (op.after s)
    inferInstanceAs (Decidable (op.Issued s ∧ AllIssued ops (op.after s)))

theorem reaches_afterAll {ops : List Operation} {s : Store} (h : AllIssued ops s) :
    s.Reaches (afterAll ops s) := by
  induction ops generalizing s with
  | nil => exact .refl s
  | cons op ops ih => exact ((Store.Reaches.refl s).step op h.1).trans (ih h.2)

theorem afterAll_append (before ops : List Operation) (s : Store) :
    afterAll (before ++ ops) s = afterAll ops (afterAll before s) := List.foldl_append

/-- The kind of a constructor is that of the first declaration of its name. -/
theorem declared?_afterAll (ops : List Operation) (s : Store) (name : String) :
    (afterAll ops s).declared? name = (s.declared? name).or (ops.findSome? (·.declares? name)) := by
  induction ops generalizing s with
  | nil => simp [afterAll]
  | cons op ops ih =>
    rw [afterAll, List.foldl_cons, ← afterAll, ih, declared?_after, Option.or_assoc,
      List.findSome?_cons]
    cases op.declares? name <;> rfl

end Operation

end FormRecovery
