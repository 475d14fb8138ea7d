import FormRecovery.Proofs.Candidates
import FormRecovery.Proofs.SlotLists

/-!
The shapes of the patterns, as they are written down: the arguments of a type, what stands for them
in the form, and the residuals. A pattern proposes a form for the types of its shape and for no
others, and the form is the one that is written down.
-/
namespace FormRecovery

namespace Requirement

/-- There is one argument for each requirement, and each is admitted by its own. -/
def AdmitsAll (s : Store) (required : List Requirement) (xs : List TypeId) : Prop :=
  List.Forall₂ (fun r x => r.admits s x = true) required xs

variable {s : Store} {r : Requirement} {required : List Requirement} {xs : List TypeId}

theorem admitsAll_cons_iff : AdmitsAll s (r :: required) xs ↔
    ∃ y ys, r.admits s y = true ∧ AdmitsAll s required ys ∧ xs = y :: ys :=
  List.forall₂_cons_left_iff

theorem admitsAll_proper_iff {n : Nat} : AdmitsAll s (List.replicate n proper) xs ↔
    xs.length = n ∧ ∀ x ∈ xs, s.kind x = .proper := by
  induction n generalizing xs with
  | zero => simp +contextual [AdmitsAll]
  | succ n ih =>
    rw [List.replicate_succ, admitsAll_cons_iff]
    constructor
    · rintro ⟨y, ys, hy, hys, rfl⟩
      obtain ⟨hlength, hproper⟩ := ih.mp hys
      exact ⟨congrArg Nat.succ hlength, List.forall_mem_cons.mpr
        ⟨(admits_proper_iff s y).mp hy, hproper⟩⟩
    · rintro ⟨hlength, hproper⟩
      obtain ⟨y, ys, rfl⟩ := List.exists_of_length_succ xs hlength
      rw [List.forall_mem_cons] at hproper
      exact ⟨y, ys, (admits_proper_iff s y).mpr hproper.1,
        ih.mpr ⟨Nat.succ.inj hlength, hproper.2⟩, rfl⟩

/-- A constructor of kind `Type -> Type` and proper arguments after it. -/
theorem admitsAll_constructor_iff {n : Nat} :
    AdmitsAll s (constructor :: List.replicate n proper) xs ↔
      ∃ f ys, s.kind f = .ofArity 1 ∧ ys.length = n ∧ (∀ y ∈ ys, s.kind y = .proper) ∧
        xs = f :: ys := by
  simp only [admitsAll_cons_iff, admitsAll_proper_iff, admits_eq, Kind.isUnary_iff, and_assoc]

end Requirement

namespace Pattern

/-- The types of a pattern are a constructor applied to the arguments. Its form is the constructor
applied to the templates, with the residuals in the order of the holes. -/
inductive Shape (s : Store) : Pattern → (arguments : List TypeId) → (templates : List Template) →
    (residuals : List TypeId) → Prop where
  | unary {a : TypeId} (ha : s.kind a = .proper) : Shape s .unary [a] [.hole 0] [a]
  | constructorArgument {f a : TypeId} (hf : s.kind f = .ofArity 1) (ha : s.kind a = .proper) :
      Shape s .constructorArgument [f, a] [.fixed f, .hole 0] [a]
  | binaryFirst {a b : TypeId} (ha : s.kind a = .proper) (hb : s.kind b = .proper) :
      Shape s .binaryFirst [a, b] [.hole 0, .fixed b] [a]
  | binarySecond {a b : TypeId} (ha : s.kind a = .proper) (hb : s.kind b = .proper) :
      Shape s .binarySecond [a, b] [.fixed a, .hole 0] [b]
  | trailing {arity : TrailingArity} {xs : List TypeId} {z : TypeId}
      (hcount : xs.length + 1 = arity.value) (hxs : ∀ x ∈ xs, s.kind x = .proper)
      (hz : s.kind z = .proper) :
      Shape s (.trailing arity) (xs ++ [z]) (xs.map .fixed ++ [.hole 0]) [z]
  | constructorCoupled {f a b : TypeId} (hf : s.kind f = .ofArity 1) (ha : s.kind a = .proper)
      (hb : s.kind b = .proper) :
      Shape s .constructorCoupled [f, a, a, b] [.fixed f, .hole 0, .hole 0, .fixed b] [a]
  | constructorTrailing {f a b c : TypeId} (hf : s.kind f = .ofArity 1) (ha : s.kind a = .proper)
      (hb : s.kind b = .proper) (hc : s.kind c = .proper) :
      Shape s .constructorTrailing [f, a, b, c] [.fixed f, .fixed a, .fixed b, .hole 0] [c]
  | constructorFirst {f a b : TypeId} (hf : s.kind f = .ofArity 1) (ha : s.kind a = .proper)
      (hb : s.kind b = .proper) :
      Shape s .constructorFirst [f, a, b] [.fixed f, .hole 0, .fixed b] [a]
  | constructorSecond {f a b : TypeId} (hf : s.kind f = .ofArity 1) (ha : s.kind a = .proper)
      (hb : s.kind b = .proper) :
      Shape s .constructorSecond [f, a, b] [.fixed f, .fixed a, .hole 0] [b]
  | binaryBoth {a b : TypeId} (ha : s.kind a = .proper) (hb : s.kind b = .proper) :
      Shape s .binaryBoth [a, b] [.hole 0, .hole 1] [a, b]
  | constructorBinaryBoth {f a b : TypeId} (hf : s.kind f = .ofArity 1) (ha : s.kind a = .proper)
      (hb : s.kind b = .proper) :
      Shape s .constructorBinaryBoth [f, a, b] [.fixed f, .hole 0, .hole 1] [a, b]
  | partialBinary {x f a c b : TypeId} (split : s.split? x = some (f, a))
      (hf : s.kind f = .ofArity 2) (ha : s.kind a = .proper) (hc : s.kind c = .proper)
      (hb : s.kind b = .proper) :
      Shape s .partialBinary [x, c, b] [.application (.fixed f) (.hole 0), .fixed c, .hole 1] [a, b]

def requirements (p : Pattern) : List Requirement := p.layout.map (·.1)

theorem zip_replicate_append {α β : Type} (a b : α) (xs : List β) (z : β) :
    (List.replicate xs.length a ++ [b]).zip (xs ++ [z]) = xs.map (a, ·) ++ [(b, z)] := by
  induction xs with
  | nil => rfl
  | cons x xs ih => exact congrArg ((a, x) :: ·) ih

variable {s : Store} {p : Pattern} {xs : List TypeId} {us : List Template} {rs : List TypeId}

section

variable {arity : TrailingArity} {z : TypeId}

theorem requirements_trailing :
    (trailing arity).requirements = List.replicate arity.value .proper := by
  have hpositive := arity.three_le
  rw [requirements, layout, List.map_append, List.map_replicate, List.map_singleton,
    ← List.replicate_succ', Nat.sub_add_cancel (by omega)]

theorem slots_trailing (hcount : xs.length + 1 = arity.value) :
    (trailing arity).slots = List.replicate xs.length .fixed ++ [.hole 0] := by
  simp [slots, layout, ← hcount]

end

theorem admits_iff_admitsAll (s : Store) (x : TypeId) (p : Pattern) :
    p.admits s (s.spine x) = true ↔
      s.kind x = .proper ∧ Requirement.AdmitsAll s p.requirements (s.spine x).arguments := by
  rw [admits_iff, Requirement.AdmitsAll, requirements, List.forall₂_map_left_iff,
    List.forall₂_iff_zip, Spine.length_arguments]
  simp only [Prod.forall]

/-- Arguments as the layout asks for, one type for each hole, are those of the shape. -/
theorem exists_shape (hp : p ≠ constant) (hadmitted : Requirement.AdmitsAll s p.requirements xs)
    (hagree : ∀ q ∈ p.slots.zip xs, ∀ r ∈ p.slots.zip xs, ∀ h y z,
      q.1.Selects s q.2 h y → r.1.Selects s r.2 h z → y = z) : ∃ us rs, p.Shape s xs us rs := by
  cases p with
  | unary =>
    obtain ⟨hlength, hproper⟩ := (Requirement.admitsAll_proper_iff (n := 1)).mp hadmitted
    obtain ⟨a, rfl⟩ := List.length_eq_one_iff.mp hlength
    exact ⟨_, _, .unary (hproper a (by simp))⟩
  | constructorArgument =>
    obtain ⟨f, ys, hf, hlength, hproper, rfl⟩ :=
      (Requirement.admitsAll_constructor_iff (n := 1)).mp hadmitted
    obtain ⟨a, rfl⟩ := List.length_eq_one_iff.mp hlength
    exact ⟨_, _, .constructorArgument hf (hproper a (by simp))⟩
  | binaryFirst =>
    obtain ⟨hlength, hproper⟩ := (Requirement.admitsAll_proper_iff (n := 2)).mp hadmitted
    obtain ⟨a, b, rfl⟩ := List.length_eq_two.mp hlength
    exact ⟨_, _, .binaryFirst (hproper a (by simp)) (hproper b (by simp))⟩
  | binarySecond =>
    obtain ⟨hlength, hproper⟩ := (Requirement.admitsAll_proper_iff (n := 2)).mp hadmitted
    obtain ⟨a, b, rfl⟩ := List.length_eq_two.mp hlength
    exact ⟨_, _, .binarySecond (hproper a (by simp)) (hproper b (by simp))⟩
  | trailing arity =>
    rw [requirements_trailing] at hadmitted
    obtain ⟨hlength, hproper⟩ := Requirement.admitsAll_proper_iff.mp hadmitted
    have hne : xs ≠ [] := by
      rintro rfl
      exact absurd (hlength ▸ arity.three_le) (by decide)
    obtain ⟨ys, z, rfl⟩ := (List.eq_nil_or_concat' xs).resolve_left hne
    rw [List.forall_mem_append, List.forall_mem_singleton] at hproper
    exact ⟨_, _, .trailing (by simpa using hlength) hproper.1 hproper.2⟩
  | constructorCoupled =>
    obtain ⟨f, ys, hf, hlength, hproper, rfl⟩ :=
      (Requirement.admitsAll_constructor_iff (n := 3)).mp hadmitted
    obtain ⟨a, a', b, rfl⟩ := List.length_eq_three.mp hlength
    obtain rfl : a = a' := hagree (.hole 0, a) (by simp [slots, layout]) (.hole 0, a')
      (by simp [slots, layout]) 0 a a' (.hole 0 a) (.hole 0 a')
    exact ⟨_, _, .constructorCoupled hf (hproper a (by simp)) (hproper b (by simp))⟩
  | constructorTrailing =>
    obtain ⟨f, ys, hf, hlength, hproper, rfl⟩ :=
      (Requirement.admitsAll_constructor_iff (n := 3)).mp hadmitted
    obtain ⟨a, b, c, rfl⟩ := List.length_eq_three.mp hlength
    exact ⟨_, _, .constructorTrailing hf (hproper a (by simp)) (hproper b (by simp))
      (hproper c (by simp))⟩
  | constructorFirst =>
    obtain ⟨f, ys, hf, hlength, hproper, rfl⟩ :=
      (Requirement.admitsAll_constructor_iff (n := 2)).mp hadmitted
    obtain ⟨a, b, rfl⟩ := List.length_eq_two.mp hlength
    exact ⟨_, _, .constructorFirst hf (hproper a (by simp)) (hproper b (by simp))⟩
  | constructorSecond =>
    obtain ⟨f, ys, hf, hlength, hproper, rfl⟩ :=
      (Requirement.admitsAll_constructor_iff (n := 2)).mp hadmitted
    obtain ⟨a, b, rfl⟩ := List.length_eq_two.mp hlength
    exact ⟨_, _, .constructorSecond hf (hproper a (by simp)) (hproper b (by simp))⟩
  | constant => exact absurd rfl hp
  | binaryBoth =>
    obtain ⟨hlength, hproper⟩ := (Requirement.admitsAll_proper_iff (n := 2)).mp hadmitted
    obtain ⟨a, b, rfl⟩ := List.length_eq_two.mp hlength
    exact ⟨_, _, .binaryBoth (hproper a (by simp)) (hproper b (by simp))⟩
  | constructorBinaryBoth =>
    obtain ⟨f, ys, hf, hlength, hproper, rfl⟩ :=
      (Requirement.admitsAll_constructor_iff (n := 2)).mp hadmitted
    obtain ⟨a, b, rfl⟩ := List.length_eq_two.mp hlength
    exact ⟨_, _, .constructorBinaryBoth hf (hproper a (by simp)) (hproper b (by simp))⟩
  | partialBinary =>
    obtain ⟨x, ys, hx, hys, rfl⟩ := Requirement.admitsAll_cons_iff.mp hadmitted
    obtain ⟨f, a, hsplit, hf, ha⟩ := (Requirement.admits_partialBinary_iff s x).mp hx
    obtain ⟨hlength, hproper⟩ := (Requirement.admitsAll_proper_iff (n := 2)).mp hys
    obtain ⟨c, b, rfl⟩ := List.length_eq_two.mp hlength
    exact ⟨_, _, .partialBinary hsplit hf ha (hproper c (by simp)) (hproper b (by simp))⟩

namespace Shape

theorem ne_constant (h : p.Shape s xs us rs) : p ≠ constant := by
  cases h <;> nofun

theorem admitted (h : p.Shape s xs us rs) : Requirement.AdmitsAll s p.requirements xs := by
  cases h with
  | trailing hcount hxs hz =>
    rw [requirements_trailing, Requirement.admitsAll_proper_iff, List.forall_mem_append,
      List.forall_mem_singleton]
    exact ⟨by simpa using hcount, hxs, hz⟩
  | partialBinary split hf ha hc hb =>
    have hx := (Requirement.admits_partialBinary_iff s _).mpr ⟨_, _, split, hf, ha⟩
    exact .cons hx (.cons ((Requirement.admits_proper_iff s _).mpr hc)
      (.cons ((Requirement.admits_proper_iff s _).mpr hb) .nil))
  | _ => simp_all [Requirement.AdmitsAll, requirements, layout, Requirement.admits_eq]

theorem writes (h : p.Shape s xs us rs) :
    List.Forall₂ (fun q u => q.1.Writes s q.2 u) (p.slots.zip xs) us := by
  cases h with
  | trailing hcount hxs hz =>
    rw [slots_trailing hcount, zip_replicate_append]
    refine List.rel_append ?_ (.cons (.hole 0 _) .nil)
    rw [List.forall₂_map_left_iff, List.forall₂_map_right_iff, List.forall₂_same]
    exact fun x _ => .fixed x
  | partialBinary split hf ha hc hb =>
    simp [slots, layout, (Store.split?_eq_some_iff ..).mp split]
  | _ => simp [slots, layout]

theorem getElem?_residuals_iff (h : p.Shape s xs us rs) (k : Hole) (y : TypeId) :
    rs[k]? = some y ↔ ∃ q ∈ p.slots.zip xs, q.1.Selects s q.2 k y := by
  cases h with
  | trailing hcount hxs hz =>
    rw [slots_trailing hcount, zip_replicate_append]
    rcases k with _ | k <;> simp
  | partialBinary split hf ha hc hb =>
    rcases k with _ | _ | k <;> simp [slots, layout, (Store.split?_eq_some_iff ..).mp split]
  | _ => rcases k with _ | _ | k <;> simp [slots, layout]

theorem holes_eq (h : p.Shape s xs us rs) :
    Slot.holes p.slots = {0} ∨ Slot.holes p.slots = {0, 1} := by
  cases h with
  | trailing hcount hxs hz =>
    left
    rw [Slot.holes, slots_trailing hcount, List.filterMap_append,
      List.filterMap_replicate_of_none rfl]
    rfl
  | binaryBoth => exact .inr rfl
  | constructorBinaryBoth => exact .inr rfl
  | partialBinary => exact .inr rfl
  | _ => exact .inl rfl

theorem fits (h : p.Shape s xs us rs) : Slot.Fits s p.slots xs := by
  refine ⟨?_, h.holes_eq, Slot.applications_of_writes h.writes,
    Slot.agree_of_residuals h.getElem?_residuals_iff⟩
  simpa [slots, requirements] using h.admitted.length_eq

end Shape

/-- The type is proper, and it is the constructor `m` applied to arguments of the shape of the
pattern. -/
structure Describes (s : Store) (p : Pattern) (x m : TypeId) (us : List Template)
    (rs : List TypeId) : Prop where
  proper : s.kind x = .proper
  constructor : ∃ name, s.shape? m = some (.constructor name)
  arguments : ∃ xs, s.Applies m xs x ∧ p.Shape s xs us rs

section

variable {x m : TypeId} {c : Candidate}

/-- A pattern describes the types that it proposes something for. -/
theorem exists_describes (hs : s.WellFormed) (hx : x ∈ s) (hp : p ≠ constant)
    (h : p.candidate? s x = some c) : ∃ m us rs, p.Describes s x m us rs := by
  obtain ⟨hadmits, _, ⟨d⟩⟩ := (candidate?_eq_some_iff hp s x c).mp h
  obtain ⟨hkind, hadmitted⟩ := (admits_iff_admitsAll s x p).mp hadmits
  obtain ⟨us, rs, hshape⟩ := exists_shape hp hadmitted d.fits.agree
  exact ⟨_, us, rs, hkind, Store.spine_head hs hx, _, s.spine_applies x, hshape⟩

/-- A pattern proposes what is written down for the types that it describes. -/
theorem candidate?_of_describes (hs : s.WellFormed) (hx : x ∈ s) (h : p.Describes s x m us rs) :
    ∃ form, p.candidate? s x = some ⟨p, form, rs⟩ ∧
      Form.ofTemplate rs.length (Template.applyAll (.fixed m) us) s = .ok form s := by
  obtain ⟨hkind, ⟨name, hm⟩, xs, happlies, hshape⟩ := h
  obtain ⟨rfl, rfl⟩ := Store.spine_of_constructor_applies hs hm happlies
  obtain ⟨form, residuals, ⟨d⟩⟩ := hshape.fits.exists_decomposition
  obtain rfl : residuals = rs := by
    refine List.ext_getElem? fun k => Option.ext fun y => ?_
    rw [d.getElem?_residuals_iff, hshape.getElem?_residuals_iff]
  refine ⟨form, ?_, ?_⟩
  · rw [candidate?_eq_some_iff hshape.ne_constant, admits_iff_admitsAll]
    exact ⟨⟨hkind, hshape.admitted⟩, rfl, ⟨d⟩⟩
  · rw [d.opened.writes_iff.mp hshape.writes, d.length_residuals]
    exact d.ofTemplate_eq hs hx

end

end Pattern

/-- A pattern other than the constant one proposes a form exactly for the types of its shape: the
proper ones that are a constructor applied to arguments of the kinds that are written down. The
residuals are those that are written down, and the form is what the written template is made,
without storing anything. The constant pattern takes every type as it is. -/
theorem candidates_have_shape {s : Store} (hs : s.Reachable) {x : TypeId} (hx : x ∈ s) :
    (∀ p : Pattern, p ≠ .constant →
      ((p.candidate? s x).isSome = true ↔ ∃ m us rs, p.Describes s x m us rs) ∧
      ∀ m us rs, p.Describes s x m us rs → ∃ form, p.candidate? s x = some ⟨p, form, rs⟩ ∧
        Form.ofTemplate rs.length (Template.applyAll (.fixed m) us) s = .ok form s) ∧
    Pattern.constant.candidate? s x = some ⟨.constant, .constant x, [x]⟩ := by
  refine ⟨?_, Pattern.candidate?_constant s x⟩
  intro p hp
  have hdescribed : ∀ m us rs, p.Describes s x m us rs → ∃ form,
      p.candidate? s x = some ⟨p, form, rs⟩ ∧
        Form.ofTemplate rs.length (Template.applyAll (.fixed m) us) s = .ok form s :=
    fun m us rs => Pattern.candidate?_of_describes hs.wellFormed hx
  refine ⟨⟨?_, ?_⟩, hdescribed⟩
  · intro h
    obtain ⟨c, hc⟩ := Option.isSome_iff_exists.mp h
    exact Pattern.exists_describes hs.wellFormed hx hp hc
  · rintro ⟨m, us, rs, h⟩
    obtain ⟨form, hform, _⟩ := hdescribed m us rs h
    rw [hform, Option.isSome_some]

/-- The store `pairs` with `Wrap (Pair Int) String Int`, for a constructor `Wrap` that takes a type
of kind `Type -> Type` and two proper ones. -/
def Store.wraps : Store :=
  (Operation.applyAll ⟨6⟩ [⟨3⟩, ⟨1⟩, ⟨0⟩]).after <|
    (Operation.declare "Wrap" (.arrow (.ofArity 1) (.ofArity 2))).after .pairs

theorem Store.reachable_wraps : wraps.Reachable :=
  (reachable_pairs.step (.declare "Wrap" (.arrow (.ofArity 1) (.ofArity 2))) trivial).step
    (.applyAll ⟨6⟩ [⟨3⟩, ⟨1⟩, ⟨0⟩]) (by decide +kernel)

/-- `Wrap (Pair Int) String Int` is `\a b -> Wrap (Pair a) String b` at `Int` and `Int`. It is no
type with two arguments. -/
theorem shape_of_wrap :
    ⟨9⟩ ∈ Store.wraps ∧ Pattern.partialBinary.Describes .wraps ⟨9⟩ ⟨6⟩
      [.application (.fixed ⟨2⟩) (.hole 0), .fixed ⟨1⟩, .hole 1] [⟨0⟩, ⟨0⟩] ∧
    (∃ form, Pattern.partialBinary.candidate? .wraps ⟨9⟩ = some ⟨.partialBinary, form, [⟨0⟩, ⟨0⟩]⟩ ∧
      Form.ofTemplate 2 (Template.applyAll (.fixed ⟨6⟩)
        [.application (.fixed ⟨2⟩) (.hole 0), .fixed ⟨1⟩, .hole 1]) .wraps = .ok form .wraps) ∧
    ¬∃ m us rs, Pattern.binaryFirst.Describes .wraps ⟨9⟩ m us rs := by
  have hstored : ⟨9⟩ ∈ Store.wraps := by decide +kernel
  obtain ⟨hpatterns, _⟩ := candidates_have_shape Store.reachable_wraps hstored
  have hfirst : Store.wraps.split? ⟨7⟩ = some (⟨6⟩, ⟨3⟩) := by decide +kernel
  have hsecond : Store.wraps.split? ⟨8⟩ = some (⟨7⟩, ⟨1⟩) := by decide +kernel
  have hthird : Store.wraps.split? ⟨9⟩ = some (⟨8⟩, ⟨0⟩) := by decide +kernel
  have hpair : Store.wraps.split? ⟨3⟩ = some (⟨2⟩, ⟨0⟩) := by decide +kernel
  have hdescribed : Pattern.partialBinary.Describes .wraps ⟨9⟩ ⟨6⟩
      [.application (.fixed ⟨2⟩) (.hole 0), .fixed ⟨1⟩, .hole 1] [⟨0⟩, ⟨0⟩] :=
    ⟨by decide +kernel, ⟨"Wrap", by decide +kernel⟩, [⟨3⟩, ⟨1⟩, ⟨0⟩],
      .cons hfirst (.cons hsecond (.cons hthird (.nil _))),
      .partialBinary hpair (by decide +kernel) (by decide +kernel) (by decide +kernel)
        (by decide +kernel)⟩
  obtain ⟨_, hpartial⟩ := hpatterns .partialBinary (by decide)
  obtain ⟨hbinary, _⟩ := hpatterns .binaryFirst (by decide)
  refine ⟨hstored, hdescribed, hpartial _ _ _ hdescribed, ?_⟩
  rw [← hbinary]
  decide +kernel

end FormRecovery
