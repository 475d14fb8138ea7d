import FormRecovery.Proofs.Instantiation
import FormRecovery.Proofs.Renaming
import Mathlib.Logic.Relation

/-!
The walk that collects a spine, and the way back. The walk goes from a type to its function for as
long as it stands at an application, and collects arguments and functions from the last to the
first. It ends because functions are earlier entries. Applying the head of a spine to its arguments
gives the type again, and the spine of what is applied to arguments is the spine it had, continued
by them.
-/
namespace FormRecovery

/-- Where the walk stands, and what it collected, the last argument first. -/
@[ext]
structure Walk where
  current : TypeId
  arguments : List TypeId
  passed : List TypeId
  deriving DecidableEq

namespace Walk

def start (x : TypeId) : Walk := ⟨x, [], [x]⟩

/-- One step, from an application to its function. At a constructor there is none. -/
def step? (s : Store) (w : Walk) : Option Walk :=
  (s.split? w.current).map fun (function, argument) =>
    ⟨function, w.arguments ++ [argument], w.passed ++ [function]⟩

/-- Steps of the walk, one after the other. -/
def Runs (s : Store) : Walk → Walk → Prop :=
  Relation.ReflTransGen fun v w => v.step? s = some w

/-- The spine of `x` is the spine of where the walk stands, continued by what it collected. -/
structure On (s : Store) (x : TypeId) (w : Walk) : Prop where
  head : (s.spine x).head = (s.spine w.current).head
  arguments : (s.spine x).arguments = (s.spine w.current).arguments ++ w.arguments.reverse
  prefixes : (s.spine x).prefixes = (s.spine w.current).prefixes.dropLast ++ w.passed.reverse

variable {s : Store} {v w : Walk} {x : TypeId}

theorem step?_eq_some_iff : v.step? s = some w ↔
    ∃ f a, s.split? v.current = some (f, a) ∧ w = ⟨f, v.arguments ++ [a], v.passed ++ [f]⟩ := by
  simp [step?, eq_comm]

theorem step?_eq_none_iff : w.step? s = none ↔ s.split? w.current = none := by
  simp [step?]

end Walk

namespace Store

variable {s t : Store} {x : TypeId}

/-- The spine of a type stays as it is when the store grows. -/
theorem spine_of_le (hs : s.WellFormed) (ht : t.WellFormed) (h : s ≤ t) (hx : x ∈ s) :
    t.spine x = s.spine x :=
  ((Renaming.later h).spine_map hs ht hx).trans (Spine.rename_id _)

/-- One argument further in a spine is an application that is stored. -/
theorem spine_step (s : Store) (x : TypeId) {i : Nat} (hi : i < (s.spine x).arity) :
    ∃ f a g, (s.spine x).upTo? i = some f ∧ (s.spine x).arguments[i]? = some a ∧
      (s.spine x).upTo? (i + 1) = some g ∧ s.split? g = some (f, a) := by
  obtain ⟨f, hf, _, hrest⟩ := s.spine_cut x i (Nat.le_of_lt hi)
  obtain ⟨g, hg, _, hrest'⟩ := s.spine_cut x (i + 1) hi
  have hlt : i < (s.spine x).arguments.length := by simpa using hi
  rw [List.drop_eq_getElem_cons hlt, Applies.cons_iff] at hrest
  obtain ⟨k, hsplit, hrest⟩ := hrest
  -- both chains that are left end at the type and have the same length, and so the same start
  obtain ⟨rfl, _⟩ := hrest.start_unique hrest' rfl
  exact ⟨f, _, k, hf, List.getElem?_eq_getElem hlt, hg, hsplit⟩

end Store

namespace Walk

variable {s : Store} {v w : Walk} {x : TypeId}

theorem on_start (s : Store) (x : TypeId) : On s x (start x) :=
  ⟨rfl, by simp [start], by simpa [start] using s.prefixes_spine x⟩

theorem On.step (hs : s.WellFormed) (hv : On s x v) (h : v.step? s = some w) : On s x w := by
  obtain ⟨f, a, hsplit, rfl⟩ := step?_eq_some_iff.mp h
  obtain ⟨hhead, harguments, hprefixes⟩ := hv
  rw [Store.spine_of_split? hs hsplit] at hhead harguments hprefixes
  refine ⟨hhead, ?_, ?_⟩
  · simpa using harguments
  · -- the function that is reached is the last type of its own spine
    rw [Spine.prefixes_snoc, List.dropLast_concat, s.prefixes_spine f] at hprefixes
    simpa using hprefixes

theorem On.runs (hs : s.WellFormed) (hv : On s x v) (h : Runs s v w) : On s x w := by
  induction h with
  | refl => exact hv
  | tail _ hstep ih => exact ih.step hs hstep

/-- The walk ends: the function of an application is an earlier entry. -/
theorem exists_end (hs : s.WellFormed) (v : Walk) : ∃ w, Runs s v w ∧ w.step? s = none := by
  induction hn : v.current.index using Nat.strongRecOn generalizing v with
  | ind n ih =>
    cases h : v.step? s with
    | none => exact ⟨v, .refl, h⟩
    | some u =>
      obtain ⟨f, a, hsplit, hu⟩ := step?_eq_some_iff.mp h
      have hlt : u.current.index < v.current.index := by
        rw [hu]
        exact (hs.earlier v.current f a ((Store.split?_eq_some_iff ..).mp hsplit)).1
      obtain ⟨w, hrest, hend⟩ := ih u.current.index (hn ▸ hlt) u rfl
      exact ⟨w, .head h hrest, hend⟩

/-- At its end the walk has collected the spine, turned around. -/
theorem On.spine_of_end (h : On s x w) (hend : w.step? s = none) :
    (s.spine x).head = w.current ∧ (s.spine x).arguments = w.arguments.reverse ∧
      (s.spine x).prefixes = w.passed.reverse := by
  obtain ⟨hhead, harguments, hprefixes⟩ := h
  rw [Store.spine_of_split?_none (step?_eq_none_iff.mp hend)] at hhead harguments hprefixes
  exact ⟨hhead, harguments, hprefixes⟩

end Walk

namespace Interning

variable {s t : Store} {f y : TypeId} {xs : List TypeId}

/-- A chain that is stored is given back as it is. -/
theorem applyAll_of_applies (hs : s.WellFormed) (h : s.Applies f xs y) :
    applyAll f xs s = .ok y s := by
  induction h with
  | nil f => rfl
  | cons first _ ih =>
    rw [applyAll_cons, bind_eq_ok_iff]
    exact ⟨_, s, apply_of_split? hs first, ih⟩

/-- What is applied to arguments one by one is a chain afterwards. -/
theorem applies_of_applyAll (hf : f ∈ s) (hxs : ∀ x ∈ xs, x ∈ s) (h : applyAll f xs s = .ok y t) :
    s.Grows t ∧ t.Applies f xs y := by
  induction xs generalizing s f with
  | nil =>
    obtain ⟨rfl, rfl⟩ := EStateM.Result.ok.inj h
    exact ⟨.refl s, .nil f⟩
  | cons x xs ih =>
    rw [List.forall_mem_cons] at hxs
    rw [applyAll_cons, bind_eq_ok_iff] at h
    obtain ⟨g, u, hg, hrest⟩ := h
    obtain ⟨hsu, hshape⟩ := (keeps_apply hf hxs.1).of_ok hg
    have hlater : ∀ y ∈ xs, y ∈ u := fun y hy => Store.mem_of_le hsu.le (hxs.2 y hy)
    obtain ⟨hut, hchain⟩ := ih (Store.mem_of_shape? hshape) hlater hrest
    have hfirst := Store.split?_of_le hut.le ((Store.split?_eq_some_iff ..).mpr hshape)
    exact ⟨hsu.trans hut, .cons hfirst hchain⟩

end Interning

/-- The spine spells the type out: a named constructor, applied to one argument after the other. -/
structure Spine.Spells (s : Store) (p : Spine) (x : TypeId) : Prop where
  head : ∃ name, s.shape? p.head = some (.constructor name)
  first : p.upTo? 0 = some p.head
  last : p.upTo? p.arity = some x
  applied : p.applied = x
  next : ∀ i < p.arity, ∃ f a g, p.upTo? i = some f ∧ p.arguments[i]? = some a ∧
    p.upTo? (i + 1) = some g ∧ s.lookup (.application f a) = some g ∧
      s.kind f = .arrow (s.kind a) (s.kind g)
  rebuilt : Interning.applyAll p.head p.arguments s = .ok x s

theorem Store.spells_spine {s : Store} (hs : s.WellFormed) {x : TypeId} (hx : x ∈ s) :
    (s.spine x).Spells s x where
  head := spine_head hs hx
  first := rfl
  last := by
    obtain ⟨y, hy, _, hrest⟩ := s.spine_cut x (s.spine x).arity (Nat.le_refl _)
    rw [← Spine.length_arguments, List.drop_length, Applies.nil_iff] at hrest
    rw [hy, hrest]
  applied := s.applied_spine x
  next i hi := by
    obtain ⟨f, a, g, hf, ha, hg, hsplit⟩ := s.spine_step x hi
    have hshape := (split?_eq_some_iff ..).mp hsplit
    exact ⟨f, a, g, hf, ha, hg, (hs.lookup_eq_some_iff _ _).mpr hshape, hs.kinds g f a hshape⟩
  rebuilt := Interning.applyAll_of_applies hs (s.spine_applies x)

/-- Taking a type apart and applying its head again undo each other. The walk from a type ends, and
what it collected is the spine turned around, which spells the type out; applying the head to the
arguments stores nothing. And what is applied to arguments has the spine that it had, continued by
them. -/
theorem spine_inverts_application {s : Store} (hs : s.Reachable) :
    (∀ x ∈ s, (∃ w, Walk.Runs s (.start x) w ∧ w.step? s = none ∧ (s.spine x).head = w.current ∧
        (s.spine x).arguments = w.arguments.reverse ∧ (s.spine x).prefixes = w.passed.reverse) ∧
      (s.spine x).Spells s x) ∧
    ∀ (f x : TypeId) (xs : List TypeId) (t : Store), f ∈ s → (∀ a ∈ xs, a ∈ s) →
      Interning.applyAll f xs s = .ok x t →
      t.spine f = s.spine f ∧ (t.spine x).head = (s.spine f).head ∧
        (t.spine x).arguments = (s.spine f).arguments ++ xs ∧
        (s.spine f).prefixes <+: (t.spine x).prefixes := by
  have hw := hs.wellFormed
  constructor
  · intro x hx
    obtain ⟨w, hruns, hend⟩ := Walk.exists_end hw (.start x)
    have hspine := ((Walk.on_start s x).runs hw hruns).spine_of_end hend
    exact ⟨⟨w, hruns, hend, hspine⟩, Store.spells_spine hw hx⟩
  · intro f x xs t hf hxs h
    obtain ⟨hgrows, hchain⟩ := Interning.applies_of_applyAll hf hxs h
    have ht := hgrows.wellFormed hw
    have hsame := Store.spine_of_le hw ht hgrows.le hf
    refine ⟨hsame, ?_⟩
    rw [← hsame]
    exact Store.spine_of_applies ht hchain

/-- The walk from `Pair Int String` collects `String` and `Int`. `Pair Int` has the spine `Pair` at
`Int`, and applied to `Pair Int String` it is a new type with one argument more. -/
theorem spine_of_pair_int :
    Walk.Runs Store.pairs (.start ⟨4⟩) ⟨⟨2⟩, [⟨1⟩, ⟨0⟩], [⟨4⟩, ⟨3⟩, ⟨2⟩]⟩ ∧
    (Store.pairs.spine ⟨4⟩).Spells Store.pairs ⟨4⟩ ∧
    ∃ t, Interning.applyAll ⟨3⟩ [⟨4⟩] Store.pairs = .ok ⟨6⟩ t ∧ ⟨6⟩ ∉ Store.pairs ∧
      (t.spine ⟨6⟩).head = ⟨2⟩ ∧ (t.spine ⟨6⟩).arguments = [⟨0⟩, ⟨4⟩] ∧
      [⟨2⟩, ⟨3⟩] <+: (t.spine ⟨6⟩).prefixes := by
  obtain ⟨hdown, hup⟩ := spine_inverts_application Store.reachable_pairs
  obtain ⟨⟨w, hruns, _, hhead, harguments, hpassed⟩, hspells⟩ := hdown ⟨4⟩ (by decide +kernel)
  have hpair : Store.pairs.spine ⟨4⟩ = ⟨⟨2⟩, [⟨⟨0⟩, ⟨3⟩⟩, ⟨⟨1⟩, ⟨4⟩⟩]⟩ := by decide +kernel
  have hpartial : Store.pairs.spine ⟨3⟩ = ⟨⟨2⟩, [⟨⟨0⟩, ⟨3⟩⟩]⟩ := by decide +kernel
  have hnew : Interning.applyAll ⟨3⟩ [⟨4⟩] Store.pairs =
      .ok ⟨6⟩ ((Operation.applyAll ⟨3⟩ [⟨4⟩]).after Store.pairs) := rfl
  obtain ⟨_, hhead', harguments', hprefixes⟩ :=
    hup ⟨3⟩ ⟨6⟩ [⟨4⟩] _ (by decide +kernel) (by decide +kernel) hnew
  rw [hpartial] at hhead' harguments' hprefixes
  have hwalk : w = ⟨⟨2⟩, [⟨1⟩, ⟨0⟩], [⟨4⟩, ⟨3⟩, ⟨2⟩]⟩ := by
    rw [hpair] at hhead harguments hpassed
    rw [eq_comm, List.reverse_eq_iff] at harguments hpassed
    exact Walk.ext hhead.symm harguments hpassed
  exact ⟨hwalk ▸ hruns, hspells, _, hnew, by decide +kernel, hhead', harguments', hprefixes⟩

end FormRecovery
