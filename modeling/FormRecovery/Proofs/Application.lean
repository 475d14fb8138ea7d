import FormRecovery.Proofs.Growth
import FormRecovery.Spine
import FormRecovery.Template
import Mathlib.Data.List.Forall2
import Mathlib.Data.List.Induction

/-!
Chains of applications. `Applies s f xs y` says that the store holds `f` applied to `xs` one by
one, and that this is `y`. Spines and templates are read through such chains: a spine is the
longest chain that ends at its type, and a template applied to templates gives a type exactly if
the parts give the members of a chain.
-/
namespace FormRecovery

/-- All types of the spine are stored. -/
def Spine.Over (s : Store) (p : Spine) : Prop :=
  p.head ∈ s ∧ ∀ step ∈ p.steps, step.argument ∈ s ∧ step.reached ∈ s

namespace Spine.Over

variable {s : Store} {p : Spine}

theorem arguments_mem (h : p.Over s) : ∀ x ∈ p.arguments, x ∈ s := by
  intro x hx
  obtain ⟨step, hstep, rfl⟩ := List.mem_map.mp hx
  exact (h.2 step hstep).1

theorem prefixes_mem (h : p.Over s) : ∀ x ∈ p.prefixes, x ∈ s := by
  intro x hx
  rcases List.mem_cons.mp hx with rfl | hx
  · exact h.1
  · obtain ⟨step, hstep, rfl⟩ := List.mem_map.mp hx
    exact (h.2 step hstep).2

theorem upTo?_mem (h : p.Over s) {n : Nat} {x : TypeId} (hx : p.upTo? n = some x) : x ∈ s :=
  h.prefixes_mem x (List.mem_of_getElem? hx)

end Spine.Over

namespace Store

inductive Applies (s : Store) : TypeId → List TypeId → TypeId → Prop where
  | nil (f : TypeId) : Applies s f [] f
  | cons {f x g y : TypeId} {xs : List TypeId} (first : s.split? g = some (f, x))
      (rest : Applies s g xs y) : Applies s f (x :: xs) y

namespace Applies

variable {s : Store} {f g x y z : TypeId} {xs ys : List TypeId}

@[simp] theorem nil_iff : s.Applies f [] y ↔ f = y := by
  constructor
  · intro h
    cases h
    rfl
  · rintro rfl
    exact .nil f

@[simp] theorem cons_iff :
    s.Applies f (x :: xs) y ↔ ∃ g, s.split? g = some (f, x) ∧ s.Applies g xs y := by
  constructor
  · intro h
    cases h with
    | cons first rest => exact ⟨_, first, rest⟩
  · rintro ⟨g, first, rest⟩
    exact .cons first rest

theorem append (h : s.Applies f xs g) (h' : s.Applies g ys y) : s.Applies f (xs ++ ys) y := by
  induction h with
  | nil => exact h'
  | cons first _ ih => exact .cons first (ih h')

theorem snoc (h : s.Applies f xs g) (h' : s.split? y = some (g, x)) : s.Applies f (xs ++ [x]) y :=
  h.append (.cons h' (.nil y))

theorem of_append (h : s.Applies f (xs ++ ys) y) : ∃ g, s.Applies f xs g ∧ s.Applies g ys y := by
  induction xs generalizing f with
  | nil => exact ⟨f, .nil f, h⟩
  | cons x xs ih =>
    obtain ⟨k, hk, hr⟩ := cons_iff.mp h
    obtain ⟨g, h₁, h₂⟩ := ih hr
    exact ⟨g, .cons hk h₁, h₂⟩

/-- A chain is determined by its end and its length. -/
theorem start_unique (h : s.Applies f xs y) (h' : s.Applies g ys y) (hl : xs.length = ys.length) :
    f = g ∧ xs = ys := by
  induction xs using List.reverseRecOn generalizing ys y with
  | nil =>
    obtain rfl := List.eq_nil_of_length_eq_zero hl.symm
    exact ⟨(nil_iff.mp h).trans (nil_iff.mp h').symm, rfl⟩
  | append_singleton xs a ih =>
    obtain ⟨ys, b, rfl⟩ : ∃ zs b, ys = zs ++ [b] := by
      have hne : ys ≠ [] := by rintro rfl; simp at hl
      exact ⟨ys.dropLast, ys.getLast hne, (List.dropLast_append_getLast hne).symm⟩
    obtain ⟨k, h₁, h₂⟩ := h.of_append
    obtain ⟨k', h₁', h₂'⟩ := h'.of_append
    simp only [cons_iff, nil_iff, exists_eq_right] at h₂ h₂'
    obtain ⟨rfl, rfl⟩ := Prod.mk.inj (Option.some.inj (h₂.symm.trans h₂'))
    obtain ⟨rfl, rfl⟩ := ih h₁ h₁' (by simpa using hl)
    exact ⟨rfl, rfl⟩

/-- The kind of the end depends on the kind of the start and the number of arguments only. -/
theorem kind_end (hs : s.WellFormed) (h : s.Applies f xs y) (h' : s.Applies g ys z)
    (hk : s.kind f = s.kind g) (hl : xs.length = ys.length) : s.kind y = s.kind z := by
  induction h generalizing g ys with
  | nil =>
    obtain rfl := List.eq_nil_of_length_eq_zero hl.symm
    rw [← nil_iff.mp h', hk]
  | cons first _ ih =>
    cases h' with
    | nil => simp at hl
    | cons first' rest' =>
      have h₁ := hs.kinds _ _ _ ((split?_eq_some_iff ..).mp first)
      have h₂ := hs.kinds _ _ _ ((split?_eq_some_iff ..).mp first')
      rw [hk, h₂] at h₁
      exact ih rest' (Kind.arrow.inj h₁).2.symm (by simpa using hl)

theorem start_mem (hs : s.WellFormed) (h : s.Applies f xs y) (hy : y ∈ s) : f ∈ s := by
  cases h with
  | nil => exact hy
  | cons first _ => exact (hs.split_mem first).1

theorem of_le {t : Store} (hle : s ≤ t) (h : s.Applies f xs y) :
    t.Applies f xs y := by
  induction h with
  | nil f => exact .nil f
  | cons first _ ih => exact .cons (split?_of_le hle first) ih

end Applies

theorem spine_of_split?_none {s : Store} {y : TypeId} (h : s.split? y = none) :
    s.spine y = ⟨y, []⟩ := by
  rw [spine, h]

theorem spine_of_split? {s : Store} (hs : s.WellFormed) {y f x : TypeId}
    (h : s.split? y = some (f, x)) : s.spine y = (s.spine f).snoc x y := by
  rw [spine, h]
  exact if_pos (hs.earlier y f x ((split?_eq_some_iff ..).mp h)).1

/-- A spine ends at the type that it is the spine of. -/
theorem prefixes_spine (s : Store) (x : TypeId) :
    (s.spine x).prefixes = (s.spine x).prefixes.dropLast ++ [x] := by
  rw [spine]
  split
  · split
    · rw [Spine.prefixes_snoc, List.dropLast_concat]
    · rfl
  · rfl

theorem applied_spine (s : Store) (x : TypeId) : (s.spine x).applied = x := by
  rw [Spine.applied, prefixes_spine, List.getLastD_concat]

theorem spine_steps_mem {s : Store} (hs : s.WellFormed) (y : TypeId) :
    ∀ step ∈ (s.spine y).steps, step.argument ∈ s ∧ step.reached ∈ s := by
  induction y using Store.spine.induct s with
  | case1 y f x hsplit hlt ih =>
    have hshape := (split?_eq_some_iff ..).mp hsplit
    rw [spine_of_split? hs hsplit, Spine.snoc]
    intro step hstep
    rcases List.mem_append.mp hstep with hstep | hstep
    · exact ih step hstep
    · rw [List.mem_singleton.mp hstep]
      exact ⟨(hs.sides_mem hshape).2, mem_of_shape? hshape⟩
  | case2 y f x hsplit hlt =>
    exact absurd (hs.earlier y f x ((split?_eq_some_iff ..).mp hsplit)).1 hlt
  | case3 y hsplit => simp [spine_of_split?_none hsplit]

/-- A spine without steps has one cut. -/
theorem spine_cut_of_no_steps {s : Store} {y : TypeId} (h : s.spine y = ⟨y, []⟩) {n : Nat}
    (hn : n ≤ (s.spine y).arity) :
    ∃ p, (s.spine y).upTo? n = some p ∧
      s.Applies (s.spine y).head ((s.spine y).arguments.take n) p ∧
      s.Applies p ((s.spine y).arguments.drop n) y := by
  rw [h] at hn ⊢
  obtain rfl : n = 0 := by simpa [Spine.arity] using hn
  exact ⟨y, rfl, .nil y, .nil y⟩

/-- Every cut of a spine is a chain on both sides. -/
theorem spine_cut (s : Store) (y : TypeId) (n : Nat) (hn : n ≤ (s.spine y).arity) :
    ∃ p, (s.spine y).upTo? n = some p ∧
      s.Applies (s.spine y).head ((s.spine y).arguments.take n) p ∧
      s.Applies p ((s.spine y).arguments.drop n) y := by
  induction y using Store.spine.induct s generalizing n with
  | case1 y f x h hlt ih =>
    rw [spine, h] at hn ⊢
    simp only [hlt, if_true, Spine.arity_snoc] at hn ⊢
    rcases Nat.lt_or_ge n ((s.spine f).arity + 1) with hlt' | hge
    · obtain ⟨p, hp, h₁, h₂⟩ := ih n (by omega)
      have hle : n ≤ (s.spine f).arguments.length := by simp; omega
      refine ⟨p, ?_, ?_, ?_⟩
      · rw [Spine.upTo?, Spine.prefixes_snoc, List.getElem?_append_left (by simp; omega)]
        exact hp
      · rw [Spine.arguments_snoc, List.take_append_of_le_length hle]
        exact h₁
      · rw [Spine.arguments_snoc, List.drop_append_of_le_length hle]
        exact h₂.snoc h
    · obtain rfl : n = (s.spine f).arity + 1 := by omega
      obtain ⟨p, _, h₁, h₂⟩ := ih (s.spine f).arity (by omega)
      have hp : p = f := by simpa [← Spine.length_arguments] using h₂
      refine ⟨y, ?_, ?_, ?_⟩
      · rw [Spine.upTo?, Spine.prefixes_snoc, List.getElem?_append_right (by simp)]
        simp
      · rw [List.take_of_length_le (by simp), Spine.arguments_snoc, Spine.head_snoc]
        rw [← Spine.length_arguments, List.take_length, hp] at h₁
        exact h₁.snoc h
      · rw [List.drop_of_length_le (by simp)]
        exact .nil y
  | case2 y f x h hlt =>
    have hspine : s.spine y = ⟨y, []⟩ := by
      rw [spine, h]
      exact if_neg hlt
    exact spine_cut_of_no_steps hspine hn
  | case3 y h => exact spine_cut_of_no_steps (spine_of_split?_none h) hn

/-- A spine is a chain from its head to its type. -/
theorem spine_applies (s : Store) (y : TypeId) :
    s.Applies (s.spine y).head (s.spine y).arguments y := by
  obtain ⟨f, _, hstart, hrest⟩ := s.spine_cut y 0 (Nat.zero_le _)
  rw [List.take_zero, Applies.nil_iff] at hstart
  rwa [List.drop_zero, ← hstart] at hrest

theorem spine_over {s : Store} (hs : s.WellFormed) {y : TypeId} (hy : y ∈ s) : (s.spine y).Over s :=
  ⟨(s.spine_applies y).start_mem hs hy, spine_steps_mem hs y⟩

/-- The head of a spine is a named constructor. -/
theorem spine_head {s : Store} (hs : s.WellFormed) {y : TypeId} (hy : y ∈ s) :
    ∃ name, s.shape? (s.spine y).head = some (.constructor name) := by
  induction y using Store.spine.induct s with
  | case1 y f x hsplit hlt ih =>
    rw [spine_of_split? hs hsplit, Spine.head_snoc]
    exact ih (hs.split_mem hsplit).1
  | case2 y f x hsplit hlt =>
    exact absurd (hs.earlier y f x ((split?_eq_some_iff ..).mp hsplit)).1 hlt
  | case3 y hsplit =>
    rw [spine_of_split?_none hsplit]
    obtain ⟨shape, hshape⟩ := exists_shape? hy
    cases shape with
    | constructor name => exact ⟨name, hshape⟩
    | application f x =>
      rw [(split?_eq_some_iff ..).mpr hshape] at hsplit
      contradiction

/-- A chain continues the spine of its start. -/
theorem spine_of_applies {s : Store} (hs : s.WellFormed) {f y : TypeId} {xs : List TypeId}
    (h : s.Applies f xs y) :
    (s.spine y).head = (s.spine f).head ∧ (s.spine y).arguments = (s.spine f).arguments ++ xs ∧
      (s.spine f).prefixes <+: (s.spine y).prefixes := by
  induction h with
  | nil f => simp
  | cons first _ ih =>
    obtain ⟨h₁, h₂, h₃⟩ := ih
    rw [spine_of_split? hs first] at h₁ h₂ h₃
    refine ⟨h₁, by simpa using h₂, ?_⟩
    rw [Spine.prefixes_snoc] at h₃
    exact (List.prefix_append _ _).trans h₃

/-- A chain from a named constructor is the spine of its end. -/
theorem spine_of_constructor_applies {s : Store} (hs : s.WellFormed) {f y : TypeId} {name : String}
    {xs : List TypeId} (hf : s.shape? f = some (.constructor name)) (h : s.Applies f xs y) :
    (s.spine y).head = f ∧ (s.spine y).arguments = xs := by
  have hsplit : s.split? f = none := by simp [split?, hf]
  obtain ⟨hhead, harguments, _⟩ := spine_of_applies hs h
  rw [spine_of_split?_none hsplit] at hhead harguments
  exact ⟨hhead, harguments⟩

end Store

namespace Template

theorem reconstructs_application {s : Store} {residuals : List TypeId} {f a : Template}
    {x : TypeId} : (application f a).reconstructs s residuals x = true ↔
      ∃ g b, s.split? x = some (g, b) ∧ f.reconstructs s residuals g = true ∧
        a.reconstructs s residuals b = true := by
  cases hsplit : s.split? x with
  | none => simp [reconstructs, hsplit]
  | some sides => simp [reconstructs, hsplit, Prod.ext_iff]

/-- A template applied to templates gives a type if the parts give the members of a chain. -/
theorem reconstructs_applyAll (s : Store) (residuals : List TypeId) (t : Template)
    (us : List Template) (y : TypeId) :
    (applyAll t us).reconstructs s residuals y = true ↔
      ∃ f xs, s.Applies f xs y ∧ t.reconstructs s residuals f = true ∧
        List.Forall₂ (fun u x => u.reconstructs s residuals x = true) us xs := by
  induction us generalizing t with
  | nil => simp [applyAll]
  | cons u us ih =>
    rw [applyAll, List.foldl_cons]
    refine (ih (application t u)).trans ?_
    constructor
    · rintro ⟨g, xs, hg, ht, hus⟩
      obtain ⟨f, x, hsplit, hf, hx⟩ := reconstructs_application.mp ht
      exact ⟨f, x :: xs, .cons hsplit hg, hf, .cons hx hus⟩
    · rintro ⟨f, xs, hg, ht, hus⟩
      cases hus with
      | cons hu hus =>
        cases hg with
        | cons first rest =>
          exact ⟨_, _, rest, reconstructs_application.mpr ⟨_, _, first, ht, hu⟩, hus⟩

end Template

end FormRecovery
