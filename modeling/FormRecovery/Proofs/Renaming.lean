import FormRecovery.Proofs.Candidates
import FormRecovery.Proofs.Expansion

/-!
Renamings. A map between the ids of two stores that keeps names, kinds and applications keeps all
that is read off a type: its tree, its spine, what slots make of the spine, and so the candidates of
every pattern. Nothing here depends on the order of ids, or on what else is stored.
-/
namespace FormRecovery

section

variable (ρ : TypeId → TypeId)

def Shape.rename : Shape → Shape
  | constructor name => constructor name
  | application f x => application (ρ f) (ρ x)

def Template.rename : Template → Template
  | fixed id => fixed (ρ id)
  | hole h => hole h
  | application f x => application f.rename x.rename

def Form.rename (f : Form) : Form := ⟨f.arity, f.body.rename ρ⟩

def SpineStep.rename (step : SpineStep) : SpineStep := ⟨ρ step.argument, ρ step.reached⟩

def Spine.rename (p : Spine) : Spine := ⟨ρ p.head, p.steps.map (·.rename ρ)⟩

def Opening.rename (o : Opening) : Opening :=
  ⟨o.template.rename ρ, o.taken.map fun (h, id) => (h, ρ id)⟩

def Candidate.rename (c : Candidate) : Candidate :=
  ⟨c.pattern, c.form.rename ρ, c.residuals.map ρ⟩

theorem Template.rename_applyAll (t : Template) (us : List Template) :
    (applyAll t us).rename ρ = applyAll (t.rename ρ) (us.map (·.rename ρ)) := by
  induction us generalizing t with
  | nil => rfl
  | cons u us ih => exact ih (application t u)

@[simp] theorem Spine.arity_rename (p : Spine) : (p.rename ρ).arity = p.arity := by
  simp [rename, arity]

@[simp] theorem Spine.arguments_rename (p : Spine) :
    (p.rename ρ).arguments = p.arguments.map ρ := by
  simp [rename, arguments, SpineStep.rename]

@[simp] theorem Spine.prefixes_rename (p : Spine) : (p.rename ρ).prefixes = p.prefixes.map ρ := by
  simp [rename, prefixes, SpineStep.rename]

theorem Spine.rename_snoc (p : Spine) (x y : TypeId) :
    (p.snoc x y).rename ρ = (p.rename ρ).snoc (ρ x) (ρ y) := by
  simp [rename, snoc, SpineStep.rename]

theorem Spine.upTo?_rename (p : Spine) (n : Nat) : (p.rename ρ).upTo? n = (p.upTo? n).map ρ := by
  rw [upTo?, prefixes_rename, List.getElem?_map, upTo?]

end

@[simp] theorem Spine.rename_id (p : Spine) : p.rename (fun id => id) = p := by
  simp [rename, SpineStep.rename]

@[simp] theorem Template.rename_id (t : Template) : t.rename (fun id => id) = t := by
  induction t with
  | fixed id => rfl
  | hole h => rfl
  | application f x ihf ihx => rw [rename, ihf, ihx]

@[simp] theorem Form.rename_id (f : Form) : f.rename (fun id => id) = f := by
  simp [rename]

@[simp] theorem Candidate.rename_id (c : Candidate) : c.rename (fun id => id) = c := by
  simp [rename]

/-- A map between the ids of two stores that keeps names, kinds and applications. -/
structure Store.Renaming (s t : Store) where
  map : TypeId → TypeId
  kind_map : ∀ id ∈ s, t.kind (map id) = s.kind id
  shape_map : ∀ id shape, s.shape? id = some shape → t.shape? (map id) = some (shape.rename map)

namespace Store.Renaming

variable {s t : Store}

instance : CoeFun (s.Renaming t) (fun _ => TypeId → TypeId) := ⟨map⟩

/-- A later store, with every id as it is. -/
def later (h : s ≤ t) : s.Renaming t where
  map id := id
  kind_map _ hid := kind_of_le h hid
  shape_map id shape hshape := by
    rw [shape?_of_le h (mem_of_shape? hshape), hshape]
    cases shape <;> rfl

variable (ρ : s.Renaming t) {x : TypeId}

theorem split?_map (hx : x ∈ s) :
    t.split? (ρ x) = (s.split? x).map fun (f, y) => (ρ f, ρ y) := by
  obtain ⟨shape, hshape⟩ := exists_shape? hx
  have hshape' := ρ.shape_map x shape hshape
  cases shape with
  | constructor name => simp [split?, hshape, hshape', Shape.rename]
  | application f y => simp [split?, hshape, hshape', Shape.rename]

section

variable (hs : s.WellFormed) (ht : t.WellFormed)

include hs ht

/-- A renaming keeps what a type stands for. -/
theorem tree_map (hx : x ∈ s) : t.tree (ρ x) = s.tree x := by
  induction hn : x.index using Nat.strongRecOn generalizing x with
  | ind n ih =>
    obtain ⟨shape, hshape⟩ := exists_shape? hx
    have hshape' := ρ.shape_map x shape hshape
    cases shape with
    | constructor name => rw [tree_of_constructor hshape, tree_of_constructor hshape']
    | application f y =>
      have hlt := hs.earlier x f y hshape
      have hm := hs.sides_mem hshape
      rw [tree_of_application hs hshape, tree_of_application ht hshape',
        ih f.index (hn ▸ hlt.1) hm.1 rfl, ih y.index (hn ▸ hlt.2) hm.2 rfl]

/-- A renaming keeps different types apart. -/
theorem injective {i j : TypeId} (hi : i ∈ s) (hj : j ∈ s) (h : ρ i = ρ j) : i = j := by
  apply tree_injective hs hi hj
  rw [← ρ.tree_map hs ht hi, ← ρ.tree_map hs ht hj, h]

theorem spine_map (hx : x ∈ s) : t.spine (ρ x) = (s.spine x).rename ρ := by
  induction hn : x.index using Nat.strongRecOn generalizing x with
  | ind n ih =>
    have hsplit' := ρ.split?_map hx
    cases hsplit : s.split? x with
    | none =>
      rw [hsplit] at hsplit'
      rw [spine_of_split?_none hsplit, spine_of_split?_none hsplit']
      rfl
    | some sides =>
      obtain ⟨f, y⟩ := sides
      rw [hsplit] at hsplit'
      have hshape := (split?_eq_some_iff ..).mp hsplit
      rw [spine_of_split? hs hsplit, spine_of_split? ht hsplit', Spine.rename_snoc,
        ih f.index (hn ▸ (hs.earlier x f y hshape).1) (hs.sides_mem hshape).1 rfl]

end

end Store.Renaming

/-- If every answer is mapped, so is the list of all answers. -/
theorem mapM_map_of_forall {α α' β γ : Type} {f : α → Option β} {f' : α' → Option γ} {g : β → γ}
    (r : α → α') (l : List α) (h : ∀ a ∈ l, f' (r a) = (f a).map g) :
    (l.map r).mapM f' = (l.mapM f).map (List.map g) := by
  induction l with
  | nil => rfl
  | cons a l ih =>
    rw [List.forall_mem_cons] at h
    rw [List.map_cons, List.mapM_cons, List.mapM_cons, ih h.2, h.1]
    cases f a <;> cases l.mapM f <;> rfl

section

variable {s t : Store} (ρ : s.Renaming t)

theorem Requirement.admits_map {x : TypeId} (hs : s.WellFormed) (hx : x ∈ s)
    (requirement : Requirement) : requirement.admits t (ρ x) = requirement.admits s x := by
  cases requirement with
  | proper => simp only [admits_eq, ρ.kind_map x hx]
  | constructor => simp only [admits_eq, ρ.kind_map x hx]
  | partialBinary =>
    simp only [admits_eq, ρ.split?_map hx]
    cases hsplit : s.split? x with
    | none => rfl
    | some sides =>
      have hm := hs.split_mem hsplit
      simp only [Option.map_some, ρ.kind_map _ hm.1, ρ.kind_map _ hm.2]

theorem Slot.open?_map {x : TypeId} (hx : x ∈ s) (slot : Slot) :
    slot.open? t (ρ x) = (slot.open? s x).map (·.rename ρ) := by
  cases slot with
  | fixed => rfl
  | hole h => rfl
  | partialHole h =>
    simp only [open?, ρ.split?_map hx, Option.map_map]
    rfl

theorem Opening.takenFor?_rename (h : Hole) (o : Opening) :
    (o.rename ρ).takenFor? h = (o.takenFor? h).map ρ := by
  unfold takenFor? rename
  cases o.taken with
  | none => rfl
  | some taken => by_cases hk : taken.1 = h <;> simp [hk]

/-- Whether what is taken out agrees does not depend on the ids. -/
theorem residual?_rename (hs : s.WellFormed) (ht : t.WellFormed) {os : List Opening}
    (hos : ∀ o ∈ os, ∀ k y, o.taken = some (k, y) → y ∈ s) (h : Hole) :
    residual? (os.map (·.rename ρ)) h = (residual? os h).map ρ := by
  have htaken : (os.map (·.rename ρ)).filterMap (·.takenFor? h) =
      (os.filterMap (·.takenFor? h)).map ρ := by
    rw [List.filterMap_map, List.map_filterMap]
    exact List.filterMap_congr fun o _ => o.takenFor?_rename ρ h
  have hmem : ∀ y ∈ os.filterMap (·.takenFor? h), y ∈ s := by
    intro y hy
    obtain ⟨o, ho, hoy⟩ := List.mem_filterMap.mp hy
    exact hos o ho h y ((Opening.takenFor?_eq_some_iff ..).mp hoy)
  unfold residual?
  rw [htaken]
  cases htypes : os.filterMap (·.takenFor? h) with
  | nil => rfl
  | cons y ys =>
    rw [htypes, List.forall_mem_cons] at hmem
    have hsame : (ys.map ρ).all (· == ρ y) = ys.all (· == y) := by
      rw [Bool.eq_iff_iff, List.all_eq_true, List.all_eq_true]
      simp only [List.forall_mem_map, beq_iff_eq]
      apply forall₂_congr
      intro z hz
      exact ⟨ρ.injective hs ht (hmem.2 z hz) hmem.1, congrArg ρ⟩
    simp only [List.map_cons, hsame]
    split <;> rfl

theorem Slot.mapM_open?_map (slots : List Slot) {xs : List TypeId} (hxs : ∀ x ∈ xs, x ∈ s) :
    (slots.zip (xs.map ρ)).mapM (fun (slot, x) => Slot.open? t x slot) =
      ((slots.zip xs).mapM fun (slot, x) => Slot.open? s x slot).map
        (List.map (Opening.rename ρ)) := by
  rw [List.zip_map_right]
  apply mapM_map_of_forall
  rintro ⟨slot, x⟩ hmem
  exact slot.open?_map ρ (hxs x (List.of_mem_zip hmem).2)

theorem Slot.OpenAll.taken_mem (hs : s.WellFormed) {slots : List Slot} {xs : List TypeId}
    {os : List Opening} (h : OpenAll s slots xs os) (hxs : ∀ x ∈ xs, x ∈ s) :
    ∀ o ∈ os, ∀ k y, o.taken = some (k, y) → y ∈ s := by
  intro o ho k y hy
  obtain ⟨slot, _, x, hx, hopened⟩ := h.exists_open? o ho
  exact Slot.taken_mem hs (hxs x hx) hopened k y hy

/-- The same slots make of the image of a spine the image of what they make of the spine. -/
theorem Form.decompose_map (hs : s.WellFormed) (ht : t.WellFormed) {p : Spine} (hp : p.Over s)
    (slots : List Slot) :
    decompose t (p.rename ρ) slots =
      (decompose s p slots).map fun (form, residuals) => (form.rename ρ, residuals.map ρ) := by
  unfold decompose
  simp only [Spine.arity_rename, Spine.arguments_rename, Spine.upTo?_rename,
    Slot.mapM_open?_map ρ slots hp.arguments_mem]
  by_cases hlength : slots.length = p.arity
  case neg => simp [hlength]
  cases (slots.filterMap Slot.hole?).max? with
  | none => simp [hlength]
  | some largest =>
    cases hos : (slots.zip p.arguments).mapM fun (slot, x) => Slot.open? s x slot with
    | none => simp [hlength]
    | some os =>
      have hall := (Slot.OpenAll.iff_mapM ..).mpr ⟨hlength.trans p.length_arguments.symm, hos⟩
      have hresiduals := mapM_map_of_forall id (List.range (largest + 1)) fun h _ =>
        residual?_rename ρ hs ht (hall.taken_mem hs hp.arguments_mem) h
      rw [List.map_id] at hresiduals
      simp only [Option.map_some, Option.bind_eq_bind, Option.bind_some, hresiduals]
      cases (List.range (largest + 1)).mapM (residual? os) with
      | none => simp [hlength]
      | some residuals =>
        cases p.upTo? (slots.takeWhile (· == .fixed)).length with
        | none => simp [hlength]
        | some start =>
          by_cases hlt : largest < maxArity
          · simp [hlength, hlt, rename, Template.rename_applyAll, Template.rename]
            rfl
          · simp [hlength, hlt]

namespace Pattern

theorem admits_map (hs : s.WellFormed) (ht : t.WellFormed) {x : TypeId} (hx : x ∈ s) (p : Pattern) :
    p.admits t (t.spine (ρ x)) = p.admits s (s.spine x) := by
  have hall : (∀ q ∈ p.layout.zip ((s.spine x).arguments.map ρ), q.1.1.admits t q.2 = true) ↔
      ∀ q ∈ p.layout.zip (s.spine x).arguments, q.1.1.admits s q.2 = true := by
    rw [List.zip_map_right, List.forall_mem_map]
    apply forall₂_congr
    rintro ⟨⟨requirement, slot⟩, a⟩ hmem
    have ha := (Store.spine_over hs hx).arguments_mem a (List.of_mem_zip hmem).2
    simp only [Prod.map_apply, id_eq, Requirement.admits_map ρ hs ha]
  rw [Bool.eq_iff_iff, admits_iff, admits_iff, ρ.kind_map x hx, ρ.spine_map hs ht hx,
    Spine.arity_rename, Spine.arguments_rename, hall]

/-- A pattern makes of the image of a type the image of what it makes of the type. -/
theorem candidate?_map (hs : s.WellFormed) (ht : t.WellFormed) {x : TypeId} (hx : x ∈ s)
    (p : Pattern) : p.candidate? t (ρ x) = (p.candidate? s x).map (·.rename ρ) := by
  unfold candidate?
  rw [admits_map ρ hs ht hx]
  split
  · rfl
  · split
    · rw [ρ.spine_map hs ht hx, Form.decompose_map ρ hs ht (Store.spine_over hs hx), Option.map_map,
        Option.map_map]
      rfl
    · rfl

end Pattern

theorem Catalog.candidates_map (hs : s.WellFormed) (ht : t.WellFormed) {x : TypeId} (hx : x ∈ s)
    (k : Catalog) : k.candidates t (ρ x) = (k.candidates s x).map (·.rename ρ) := by
  rw [candidates, candidates, List.map_filterMap]
  exact List.filterMap_congr fun p _ => p.candidate?_map ρ hs ht hx

/-- A later store has the same candidates for the types of an earlier one. -/
theorem Catalog.candidates_of_le (hs : s.WellFormed) (ht : t.WellFormed) (hle : s ≤ t) {x : TypeId}
    (hx : x ∈ s) (k : Catalog) : k.candidates t x = k.candidates s x := by
  have hid : Candidate.rename (Store.Renaming.later hle) = id := funext Candidate.rename_id
  have hmap := candidates_map (.later hle) hs ht hx k
  rwa [hid, List.map_id] at hmap

end

section

variable {s t : Store} (ρ : s.Renaming t) (hs : s.WellFormed) (ht : t.WellFormed)

include hs ht

theorem Store.print_map {x : TypeId} (hx : x ∈ s) (width : Nat) :
    t.print width (ρ x) = s.print width x := by
  rw [print, ρ.tree_map hs ht hx, print]

namespace Template

theorem head_map {u : Template} (hu : u.Over s) (place : Place) :
    (u.rename ρ).head t place = u.head s place := by
  induction u generalizing place with
  | fixed id => simp only [rename, head, ρ.tree_map hs ht hu]
  | hole h => rfl
  | application f x ihf _ => exact ihf hu.1 .free

theorem arguments_map {u : Template} (hu : u.Over s) :
    (u.rename ρ).arguments t = u.arguments s := by
  induction u with
  | fixed id => rfl
  | hole h => rfl
  | application f x ihf ihx =>
    simp only [rename, arguments, ihf hu.1, ihx hu.2, head_map ρ hs ht hu.2]

end Template

/-- A form and its image have the same text. -/
theorem Form.print_map {f : Form} (hf : f.body.Over s) (width : Nat) :
    (f.rename ρ).print t width = f.print s width := by
  simp only [print, document, binder, rename, Template.document, Template.head_map ρ hs ht hf,
    Template.arguments_map ρ hs ht hf]

end

end FormRecovery
