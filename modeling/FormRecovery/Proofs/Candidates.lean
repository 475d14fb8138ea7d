import FormRecovery.Pattern
import FormRecovery.Proofs.Matching

/-!
What the patterns of a catalog propose for a type. A candidate gives the type back from its
residuals, has one residual for each hole of its catalog, and all residuals of a pattern other than
the constant one are proper. Two patterns of one catalog never propose the same form for a type,
and a pattern proposes its form for every type that the form gives at proper residuals.
-/
namespace FormRecovery

namespace Requirement

theorem admits_proper_iff (s : Store) (x : TypeId) :
    proper.admits s x = true ↔ s.kind x = .proper := Kind.isProper_iff _

theorem admits_partialBinary_iff (s : Store) (x : TypeId) :
    partialBinary.admits s x = true ↔ ∃ f y, s.split? x = some (f, y) ∧
      s.kind f = .ofArity 2 ∧ s.kind y = .proper := by
  cases h : s.split? x with
  | none => simp only [admits_eq, h, Bool.false_eq_true, reduceCtorEq, false_and, exists_false]
  | some sides => simp [admits_eq, h, Prod.ext_iff]

/-- A requirement that makes whatever the slot takes out of an argument proper. -/
def Suits : Requirement × Slot → Prop
  | (_, .fixed) => True
  | (requirement, .hole _) => requirement = proper
  | (requirement, .partialHole _) => requirement = partialBinary

theorem taken_proper {s : Store} {q : Requirement × Slot} (hq : Suits q) {x : TypeId} {o : Opening}
    (ha : q.1.admits s x = true) (ho : q.2.open? s x = some o) :
    ∀ k y, o.taken = some (k, y) → s.kind y = .proper := by
  obtain ⟨requirement, slot⟩ := q
  intro k y ht
  obtain ⟨rfl, rfl⟩ | ⟨k', rfl, rfl⟩ | ⟨k', f, z, rfl, hsplit, rfl⟩ := Slot.open?_cases ho
  · contradiction
  · obtain ⟨rfl, rfl⟩ := Prod.mk.inj (Option.some.inj ht)
    obtain rfl : requirement = proper := hq
    exact (admits_proper_iff s x).mp ha
  · obtain ⟨rfl, rfl⟩ := Prod.mk.inj (Option.some.inj ht)
    obtain rfl : requirement = partialBinary := hq
    obtain ⟨f', z', hsplit', _, hz⟩ := (admits_partialBinary_iff s x).mp ha
    obtain ⟨rfl, rfl⟩ := Prod.mk.inj (Option.some.inj (hsplit.symm.trans hsplit'))
    exact hz

/-- An argument that opens to the same template, with something proper taken out, is admitted
too. -/
theorem admits_of_template {s : Store} {q : Requirement × Slot} (hq : Suits q) {x z : TypeId}
    {o o' : Opening} (ha : q.1.admits s x = true) (ho : q.2.open? s x = some o)
    (ho' : q.2.open? s z = some o') (ht : o'.template = o.template)
    (hk : ∀ k y, o'.taken = some (k, y) → s.kind y = .proper) : q.1.admits s z = true := by
  obtain ⟨requirement, slot⟩ := q
  obtain ⟨rfl, rfl⟩ | ⟨k, rfl, rfl⟩ | ⟨k, f, y, rfl, hsplit, rfl⟩ := Slot.open?_cases ho
  · obtain rfl := Option.some.inj ho'
    rwa [Template.fixed.inj ht]
  · obtain rfl := Option.some.inj ho'
    obtain rfl : requirement = proper := hq
    exact (admits_proper_iff s z).mpr (hk k z rfl)
  · obtain ⟨⟨f', y'⟩, hsplit', rfl⟩ := Option.map_eq_some_iff.mp ho'
    obtain rfl : requirement = partialBinary := hq
    obtain ⟨g, w, hgw, hg, _⟩ := (admits_partialBinary_iff s x).mp ha
    obtain ⟨rfl, rfl⟩ := Prod.mk.inj (Option.some.inj (hsplit.symm.trans hgw))
    obtain rfl := Template.fixed.inj (Template.application.inj ht).1
    exact (admits_partialBinary_iff s z).mpr ⟨f', y', hsplit', hg, hk k y' rfl⟩

section

variable {s : Store} {layout : List (Requirement × Slot)} {xs zs : List TypeId}
  {os os' : List Opening}

theorem all_taken_proper (hl : ∀ q ∈ layout, Suits q) (h : Slot.OpenAll s (layout.map (·.2)) xs os)
    (ha : ∀ q ∈ layout.zip xs, q.1.1.admits s q.2 = true) :
    ∀ o ∈ os, ∀ k y, o.taken = some (k, y) → s.kind y = .proper := by
  induction layout generalizing xs os with
  | nil =>
    cases h
    simp
  | cons q layout ih =>
    cases h with
    | cons first rest =>
      rw [List.zip_cons_cons] at ha
      rw [List.forall_mem_cons] at hl ha ⊢
      exact ⟨taken_proper hl.1 ha.1 first, ih hl.2 rest ha.2⟩

theorem all_admits_of_templates (hl : ∀ q ∈ layout, Suits q)
    (h : Slot.OpenAll s (layout.map (·.2)) xs os) (h' : Slot.OpenAll s (layout.map (·.2)) zs os')
    (ht : os'.map (·.template) = os.map (·.template))
    (hk : ∀ o ∈ os', ∀ k y, o.taken = some (k, y) → s.kind y = .proper)
    (ha : ∀ q ∈ layout.zip xs, q.1.1.admits s q.2 = true) :
    ∀ q ∈ layout.zip zs, q.1.1.admits s q.2 = true := by
  induction layout generalizing xs os zs os' with
  | nil => simp
  | cons q layout ih =>
    cases h with
    | cons first rest =>
      cases h' with
      | cons first' rest' =>
        rw [List.map_cons, List.map_cons, List.cons.injEq] at ht
        rw [List.zip_cons_cons] at ha ⊢
        rw [List.forall_mem_cons] at hl hk ha ⊢
        exact ⟨admits_of_template hl.1 ha.1 first first' ht.1 hk.1,
          ih hl.2 rest rest' ht.2 hk.2 ha.2⟩

end

end Requirement

namespace Pattern

def slots (p : Pattern) : List Slot := p.layout.map (·.2)

theorem layout_suits (p : Pattern) : ∀ q ∈ p.layout, Requirement.Suits q := by
  cases p
  case trailing n =>
    intro q hq
    rcases List.mem_append.mp hq with hq | hq
    · rw [List.eq_of_mem_replicate hq]
      trivial
    · rw [List.mem_singleton.mp hq]
      rfl
  all_goals simp [layout, Requirement.Suits]

theorem admits_iff (s : Store) (x : TypeId) (p : Pattern) :
    p.admits s (s.spine x) = true ↔ s.kind x = .proper ∧ p.layout.length = (s.spine x).arity ∧
      ∀ q ∈ p.layout.zip (s.spine x).arguments, q.1.1.admits s q.2 = true := by
  simp only [admits_eq, Store.applied_spine, Bool.and_eq_true, Kind.isProper_iff, beq_iff_eq,
    List.all_eq_true, and_assoc]

theorem candidate?_constant (s : Store) (x : TypeId) :
    constant.candidate? s x = some ⟨constant, .constant x, [x]⟩ := rfl

theorem candidate?_eq_some_iff {p : Pattern} (hp : p ≠ constant) (s : Store) (x : TypeId)
    (c : Candidate) :
    p.candidate? s x = some c ↔ p.admits s (s.spine x) = true ∧ c.pattern = p ∧
      Nonempty (Decomposition s (s.spine x) p.slots c.form c.residuals) := by
  unfold candidate?
  rw [if_neg hp]
  split
  · next h =>
    simp only [h, true_and, Option.map_eq_some_iff, Prod.exists]
    constructor
    · rintro ⟨form, residuals, hd, rfl⟩
      exact ⟨rfl, (Form.decompose_eq_some_iff ..).mp hd⟩
    · rintro ⟨rfl, hd⟩
      exact ⟨c.form, c.residuals, (Form.decompose_eq_some_iff ..).mpr hd, rfl⟩
  · next h => simp [h]

theorem pattern_of_candidate? {p : Pattern} {s : Store} {x : TypeId} {c : Candidate}
    (h : p.candidate? s x = some c) : c.pattern = p := by
  by_cases hp : p = constant
  · subst hp
    obtain rfl := Option.some.inj h
    rfl
  · exact ((candidate?_eq_some_iff hp s x c).mp h).2.1

/-- A candidate gives its type back. -/
theorem reconstructs_of_candidate? {p : Pattern} {s : Store} {x : TypeId} {c : Candidate}
    (h : p.candidate? s x = some c) : c.form.reconstructs s c.residuals x = true := by
  by_cases hp : p = constant
  · subst hp
    obtain rfl := Option.some.inj h
    simp [Form.reconstructs, Form.constant, Template.reconstructs]
  · obtain ⟨_, _, ⟨d⟩⟩ := (candidate?_eq_some_iff hp s x c).mp h
    exact d.reconstructs

/-- Only the constant pattern takes types that are not proper. -/
theorem kind_of_candidate? {p : Pattern} (hp : p ≠ constant) {s : Store} {x : TypeId}
    {c : Candidate} (h : p.candidate? s x = some c) : s.kind x = .proper :=
  ((admits_iff s x p).mp ((candidate?_eq_some_iff hp s x c).mp h).1).1

theorem residuals_proper {p : Pattern} (hp : p ≠ constant) {s : Store} {x : TypeId} {c : Candidate}
    (h : p.candidate? s x = some c) : ∀ r ∈ c.residuals, s.kind r = .proper := by
  obtain ⟨hadmits, _, ⟨d⟩⟩ := (candidate?_eq_some_iff hp s x c).mp h
  obtain ⟨_, _, hall⟩ := (admits_iff s x p).mp hadmits
  intro r hr
  obtain ⟨o, ho, k, ht⟩ := d.exists_taken r hr
  exact Requirement.all_taken_proper (layout_suits p) d.opened hall o ho k r ht

theorem residuals_mem {s : Store} (hs : s.WellFormed) {p : Pattern} (hp : p ≠ constant) {x : TypeId}
    {c : Candidate} (h : p.candidate? s x = some c) : ∀ r ∈ c.residuals, r ∈ s := by
  obtain ⟨_, _, ⟨d⟩⟩ := (candidate?_eq_some_iff hp s x c).mp h
  exact d.residuals_mem hs

/-- A pattern proposes its form for every type that the form gives at proper residuals. -/
theorem candidate?_of_reconstructs {s : Store} (hs : s.WellFormed) {p : Pattern} (hp : p ≠ constant)
    {x y : TypeId} {c : Candidate} (h : p.candidate? s x = some c) {others : List TypeId}
    (ho : ∀ r ∈ others, s.kind r = .proper) (hy : c.form.reconstructs s others y = true) :
    p.candidate? s y = some ⟨p, c.form, others⟩ := by
  obtain ⟨hadmits, _, ⟨d⟩⟩ := (candidate?_eq_some_iff hp s x c).mp h
  obtain ⟨hkind, _, hall⟩ := (admits_iff s x p).mp hadmits
  obtain ⟨d', ht⟩ := d.rematch hs hy
  rw [candidate?_eq_some_iff hp, admits_iff]
  refine ⟨⟨(d.kind_eq hs hy).trans hkind, ?_, ?_⟩, rfl, ⟨d'⟩⟩
  · simpa [slots] using d'.opened.length_eq.1
  · apply Requirement.all_admits_of_templates (layout_suits p) d.opened d'.opened ht ?_ hall
    intro o hmem k z htaken
    exact ho z (List.mem_of_getElem? (d'.residual_of_taken o hmem k z htaken))

/-- What is asked of the first argument. -/
def first? (p : Pattern) : Option Requirement := p.layout.head?.map (·.1)

/-- The patterns ask for as many arguments, and the same of the first one. -/
def Alike (p q : Pattern) : Prop := p.layout.length = q.layout.length ∧ p.first? = q.first?

instance (p q : Pattern) : Decidable (p.Alike q) :=
  inferInstanceAs (Decidable (p.layout.length = q.layout.length ∧ p.first? = q.first?))

theorem admits_head {s : Store} {x : TypeId} {p : Pattern} (h : p.admits s (s.spine x) = true)
    {requirement : Requirement} (hr : p.first? = some requirement) :
    ∃ a, (s.spine x).arguments.head? = some a ∧ requirement.admits s a = true := by
  obtain ⟨_, hlength, hall⟩ := (admits_iff s x p).mp h
  obtain ⟨q, hq, rfl⟩ := Option.map_eq_some_iff.mp hr
  obtain ⟨layout, hlayout⟩ := List.head?_eq_some_iff.mp hq
  rw [← Spine.length_arguments] at hlength
  rw [hlayout] at hlength hall
  cases hargs : (s.spine x).arguments with
  | nil => simp [hargs] at hlength
  | cons a as =>
    rw [hargs, List.zip_cons_cons, List.forall_mem_cons] at hall
    exact ⟨a, rfl, hall.1⟩

end Pattern

namespace Template

/-- The number of arguments that the head of a template is applied to. -/
def width : Template → Nat
  | application function _ => function.width + 1
  | _ => 0

theorem width_applyAll (t : Template) (us : List Template) :
    (applyAll t us).width = t.width + us.length := by
  induction us generalizing t with
  | nil => rfl
  | cons u us ih =>
    have h := ih (application t u)
    simp only [width] at h
    rw [applyAll, List.foldl_cons, List.length_cons]
    exact h.trans (by omega)

end Template

namespace Decomposition

variable {s : Store} {p : Spine} {slots : List Slot} {form : Form} {residuals : List TypeId}

theorem width_body (d : Decomposition s p slots form residuals) :
    form.body.width = slots.length - Slot.kept slots := by
  rw [congrArg Form.body d.form_eq, Template.width_applyAll, List.length_map, List.length_drop,
    d.opened.length_eq.1, d.opened.length_eq.2]
  simp [Template.width]

/-- Some argument is not kept. -/
theorem kept_lt (d : Decomposition s p slots form residuals) : Slot.kept slots < slots.length := by
  by_contra hle
  have hfixed := Slot.take_kept slots
  rw [List.take_of_length_le (by omega)] at hfixed
  have hmem := (List.max?_eq_some_iff.mp d.largest_max).1
  obtain ⟨slot, hslot, hhole⟩ := List.mem_filterMap.mp hmem
  rw [hfixed slot hslot] at hhole
  contradiction

end Decomposition

namespace Catalog

/-- The number of holes of the forms that the patterns propose. -/
def holes : Catalog → Nat
  | single => 1
  | dual => 2
  | nested => 2

theorem largest_hole (c : Catalog) : ∀ p ∈ c.patterns, p ≠ .constant →
    (p.slots.filterMap Slot.hole?).max? = some (c.holes - 1) := by
  cases c <;> decide

/-- Where patterns of a catalog ask for different first arguments, one asks for a proper type and
one for a constructor. -/
theorem first?_cases (c : Catalog) :
    ∀ p ∈ c.patterns, ∀ q ∈ c.patterns, p ≠ .constant → q ≠ .constant →
      p.first? = q.first? ∨ (p.first? = some .proper ∧ q.first? = some .constructor) ∨
        (p.first? = some .constructor ∧ q.first? = some .proper) := by
  cases c <;> decide

/-- A pattern is told from those of its catalog that are alike by the arguments it keeps at the
front. -/
theorem eq_of_alike (c : Catalog) : ∀ p ∈ c.patterns, ∀ q ∈ c.patterns, p.Alike q →
    Slot.kept p.slots = Slot.kept q.slots → p = q := by
  cases c <;> decide

variable {s : Store} {x : TypeId} {c : Catalog} {p q : Pattern} {a b : Candidate}

theorem mem_candidates_iff (s : Store) (x : TypeId) (c : Catalog) (a : Candidate) :
    a ∈ c.candidates s x ↔ a.pattern ∈ c.patterns ∧ a.pattern.candidate? s x = some a := by
  unfold candidates
  rw [List.mem_filterMap]
  constructor
  · rintro ⟨p, hp, h⟩
    rw [Pattern.pattern_of_candidate? h]
    exact ⟨hp, h⟩
  · intro h
    exact ⟨a.pattern, h⟩

/-- The constant pattern proposes something for every type, and comes last. -/
theorem getLast?_candidates_single (s : Store) (x : TypeId) :
    (single.candidates s x).getLast? = some ⟨.constant, .constant x, [x]⟩ := by
  have hlast : single.patterns = single.patterns.dropLast ++ [.constant] := by decide
  rw [candidates, hlast, List.filterMap_append, List.filterMap_cons, Pattern.candidate?_constant]
  simp

/-- A candidate has one residual for each hole of its catalog. -/
theorem length_residuals (hp : p ∈ c.patterns) (h : p.candidate? s x = some a) :
    a.residuals.length = c.holes := by
  by_cases hc : p = .constant
  · subst hc
    obtain rfl := Option.some.inj h
    cases c with
    | single => rfl
    | dual => simp [patterns, Pattern.duals] at hp
    | nested => simp [patterns, Pattern.nesteds] at hp
  · obtain ⟨_, _, ⟨d⟩⟩ := (Pattern.candidate?_eq_some_iff hc s x a).mp h
    have hl := d.largest_max.symm.trans (c.largest_hole p hp hc)
    have hpos : 0 < c.holes := by cases c <;> decide
    rw [d.residuals_length, Option.some.inj hl]
    omega

/-- A proper argument is no constructor. -/
theorem not_proper_and_constructor (hp : p.admits s (s.spine x) = true)
    (hq : q.admits s (s.spine x) = true) (hpr : p.first? = some .proper)
    (hqr : q.first? = some .constructor) : False := by
  obtain ⟨y, hy, hproper⟩ := Pattern.admits_head hp hpr
  obtain ⟨z, hz, hconstructor⟩ := Pattern.admits_head hq hqr
  obtain rfl := Option.some.inj (hy.symm.trans hz)
  have h₁ := (Kind.isProper_iff _).mp hproper
  have h₂ := (Kind.isUnary_iff _).mp hconstructor
  rw [h₁] at h₂
  contradiction

/-- The patterns of one catalog that propose something for a type are alike. -/
theorem alike_of_candidates (hp : p ∈ c.patterns) (hq : q ∈ c.patterns) (hpc : p ≠ .constant)
    (hqc : q ≠ .constant) (ha : p.candidate? s x = some a) (hb : q.candidate? s x = some b) :
    p.Alike q := by
  have hpa := ((Pattern.candidate?_eq_some_iff hpc s x a).mp ha).1
  have hqa := ((Pattern.candidate?_eq_some_iff hqc s x b).mp hb).1
  refine ⟨((Pattern.admits_iff s x p).mp hpa).2.1.trans
    ((Pattern.admits_iff s x q).mp hqa).2.1.symm, ?_⟩
  rcases c.first?_cases p hp q hq hpc hqc with h | ⟨h₁, h₂⟩ | ⟨h₁, h₂⟩
  · exact h
  · exact (not_proper_and_constructor hpa hqa h₁ h₂).elim
  · exact (not_proper_and_constructor hqa hpa h₂ h₁).elim

/-- Only the constant pattern proposes a form without an open argument. -/
theorem width_eq_zero_iff (h : p.candidate? s x = some a) :
    a.form.body.width = 0 ↔ p = .constant := by
  by_cases hp : p = .constant
  · subst hp
    obtain rfl := Option.some.inj h
    exact ⟨fun _ => rfl, fun _ => rfl⟩
  · obtain ⟨_, _, ⟨d⟩⟩ := (Pattern.candidate?_eq_some_iff hp s x a).mp h
    have hk := d.kept_lt
    simp only [hp, iff_false, d.width_body]
    omega

/-- Two patterns of one catalog do not propose the same form for a type. -/
theorem pattern_eq_of_form (hp : p ∈ c.patterns) (hq : q ∈ c.patterns)
    (ha : p.candidate? s x = some a) (hb : q.candidate? s x = some b) (hf : a.form = b.form) :
    p = q := by
  by_cases hpc : p = .constant
  · rw [hpc, (width_eq_zero_iff hb).mp (hf ▸ (width_eq_zero_iff ha).mpr hpc)]
  have hqc : q ≠ .constant := by
    intro hqc
    exact hpc ((width_eq_zero_iff ha).mp (hf ▸ (width_eq_zero_iff hb).mpr hqc))
  have halike := alike_of_candidates hp hq hpc hqc ha hb
  obtain ⟨_, _, ⟨d⟩⟩ := (Pattern.candidate?_eq_some_iff hpc s x a).mp ha
  obtain ⟨_, _, ⟨d'⟩⟩ := (Pattern.candidate?_eq_some_iff hqc s x b).mp hb
  have hkept : Slot.kept p.slots = Slot.kept q.slots := by
    have hlength := halike.1
    have hw := d.width_body
    rw [hf, d'.width_body] at hw
    have hlt := d.kept_lt
    have hlt' := d'.kept_lt
    simp only [Pattern.slots, List.length_map] at hw hlt hlt' ⊢
    omega
  exact c.eq_of_alike p hp q hq halike hkept

end Catalog

end FormRecovery
