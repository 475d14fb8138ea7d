import FormRecovery.Proofs.Canonicalization
import Mathlib.Data.Finset.Card

/-!
Which lists of slots match a type, and to which form. The conditions are those on the slots and the
arguments alone: as many slots as arguments, the first hole or the first two, applications under the
partial slots, and one type for each hole. The form is the one that is made from the head applied to
what the slots write for the arguments.
-/
namespace FormRecovery

namespace Slot

/-- The type that a slot takes out for a hole: the argument, or the last argument inside it. -/
inductive Selects (s : Store) : Slot → TypeId → Hole → TypeId → Prop where
  | hole (h : Hole) (x : TypeId) : Selects s (.hole h) x h x
  | partialHole (h : Hole) {x f y : TypeId} (split : s.split? x = some (f, y)) :
      Selects s (.partialHole h) x h y

/-- What stands for an argument in the form: the argument, a hole, or the function inside the
argument applied to a hole. -/
inductive Writes (s : Store) : Slot → TypeId → Template → Prop where
  | fixed (x : TypeId) : Writes s .fixed x (.fixed x)
  | hole (h : Hole) (x : TypeId) : Writes s (.hole h) x (.hole h)
  | partialHole (h : Hole) {x f y : TypeId} (split : s.split? x = some (f, y)) :
      Writes s (.partialHole h) x (.application (.fixed f) (.hole h))

/-- The holes that the slots use. -/
def holes (slots : List Slot) : Finset Hole := (slots.filterMap hole?).toFinset

/-- What a list of slots and the arguments of a type must be like to match. -/
structure Fits (s : Store) (slots : List Slot) (xs : List TypeId) : Prop where
  count : slots.length = xs.length
  holes_eq : holes slots = {0} ∨ holes slots = {0, 1}
  applications : ∀ q ∈ slots.zip xs, ∀ h, q.1 = .partialHole h → ∃ f y, s.split? q.2 = some (f, y)
  agree : ∀ q ∈ slots.zip xs, ∀ r ∈ slots.zip xs, ∀ h y z,
    q.1.Selects s q.2 h y → r.1.Selects s r.2 h z → y = z

section

variable {s : Store} {slot : Slot} {slots : List Slot} {x y : TypeId} {xs : List TypeId}
  {o : Opening} {os : List Opening} {u : Template} {us : List Template} {h : Hole}

@[simp] theorem not_selects_fixed : ¬fixed.Selects s x h y := nofun

@[simp] theorem selects_hole_iff {k : Hole} : (hole k).Selects s x h y ↔ k = h ∧ x = y := by
  constructor
  · intro hsel
    cases hsel
    exact ⟨rfl, rfl⟩
  · rintro ⟨rfl, rfl⟩
    exact .hole k x

@[simp] theorem selects_partialHole_iff {k : Hole} :
    (partialHole k).Selects s x h y ↔ k = h ∧ ∃ f, s.split? x = some (f, y) := by
  constructor
  · intro hsel
    cases hsel with
    | partialHole _ split => exact ⟨rfl, _, split⟩
  · rintro ⟨rfl, f, split⟩
    exact .partialHole k split

@[simp] theorem writes_fixed_iff : fixed.Writes s x u ↔ u = .fixed x := by
  constructor
  · intro hw
    cases hw
    rfl
  · rintro rfl
    exact .fixed x

@[simp] theorem writes_hole_iff : (hole h).Writes s x u ↔ u = .hole h := by
  constructor
  · intro hw
    cases hw
    rfl
  · rintro rfl
    exact .hole h x

@[simp] theorem writes_partialHole_iff : (partialHole h).Writes s x u ↔
    ∃ f y, s.split? x = some (f, y) ∧ u = .application (.fixed f) (.hole h) := by
  constructor
  · intro hw
    cases hw with
    | partialHole _ split => exact ⟨_, _, split, rfl⟩
  · rintro ⟨f, y, split, rfl⟩
    exact .partialHole h split

theorem selects_iff (ho : slot.open? s x = some o) :
    slot.Selects s x h y ↔ o.taken = some (h, y) := by
  obtain ⟨rfl, rfl⟩ | ⟨k, rfl, rfl⟩ | ⟨k, f, z, rfl, hsplit, rfl⟩ := open?_cases ho
  · simp
  · simp
  · simp [(Store.split?_eq_some_iff ..).mp hsplit]

theorem writes_iff (ho : slot.open? s x = some o) : slot.Writes s x u ↔ u = o.template := by
  obtain ⟨rfl, rfl⟩ | ⟨k, rfl, rfl⟩ | ⟨k, f, z, rfl, hsplit, rfl⟩ := open?_cases ho
  · exact writes_fixed_iff
  · exact writes_hole_iff
  · simp [(Store.split?_eq_some_iff ..).mp hsplit]

/-- A slot opens an argument if the argument is an application where it has to be one. -/
theorem exists_open? (happ : ∀ h, slot = .partialHole h → ∃ f y, s.split? x = some (f, y)) :
    ∃ o, slot.open? s x = some o := by
  cases slot with
  | fixed => exact ⟨_, rfl⟩
  | hole h => exact ⟨_, rfl⟩
  | partialHole h =>
    obtain ⟨f, y, hsplit⟩ := happ h rfl
    exact ⟨_, by rw [open?, hsplit, Option.map_some]⟩

theorem exists_openAll (hcount : slots.length = xs.length)
    (happ : ∀ q ∈ slots.zip xs, ∀ h, q.1 = .partialHole h → ∃ f y, s.split? q.2 = some (f, y)) :
    ∃ os, OpenAll s slots xs os := by
  induction slots generalizing xs with
  | nil =>
    obtain rfl := List.eq_nil_of_length_eq_zero hcount.symm
    exact ⟨[], .nil⟩
  | cons slot slots ih =>
    cases xs with
    | nil => contradiction
    | cons x xs =>
      rw [List.zip_cons_cons, List.forall_mem_cons] at happ
      obtain ⟨o, ho⟩ := exists_open? happ.1
      obtain ⟨os, hos⟩ := ih (Nat.succ.inj hcount) happ.2
      exact ⟨o :: os, .cons ho hos⟩

/-- Something is written for a partial slot only where it stands at an application. -/
theorem applications_of_writes {qs : List (Slot × TypeId)}
    (hw : List.Forall₂ (fun q u => q.1.Writes s q.2 u) qs us) :
    ∀ q ∈ qs, ∀ h, q.1 = .partialHole h → ∃ f y, s.split? q.2 = some (f, y) := by
  induction hw with
  | nil => simp
  | cons first _ ih =>
    rw [List.forall_mem_cons]
    refine ⟨?_, ih⟩
    intro h hslot
    rw [hslot] at first
    obtain ⟨f, y, split, _⟩ := writes_partialHole_iff.mp first
    exact ⟨f, y, split⟩

/-- Slots whose selected types are listed hole by hole agree. -/
theorem agree_of_residuals {qs : List (Slot × TypeId)} {residuals : List TypeId}
    (hlisted : ∀ h y, residuals[h]? = some y ↔ ∃ q ∈ qs, q.1.Selects s q.2 h y) :
    ∀ q ∈ qs, ∀ r ∈ qs, ∀ h y z, q.1.Selects s q.2 h y → r.1.Selects s r.2 h z → y = z := by
  intro q hq r hr h y z hy hz
  have hyr := (hlisted h y).mpr ⟨q, hq, hy⟩
  have hzr := (hlisted h z).mpr ⟨r, hr, hz⟩
  exact Option.some.inj (hyr.symm.trans hzr)

namespace OpenAll

/-- What the slots select is what the openings take out. -/
theorem exists_selects_iff (ho : OpenAll s slots xs os) :
    (∃ q ∈ slots.zip xs, q.1.Selects s q.2 h y) ↔ ∃ o ∈ os, o.taken = some (h, y) := by
  induction ho with
  | nil => simp
  | cons first _ ih =>
    rw [List.zip_cons_cons, List.exists_mem_cons_iff, List.exists_mem_cons_iff,
      selects_iff first, ih]

/-- What the slots write are the templates of the openings. -/
theorem writes_iff (ho : OpenAll s slots xs os) :
    List.Forall₂ (fun q u => q.1.Writes s q.2 u) (slots.zip xs) us ↔ us = os.map (·.template) := by
  induction ho generalizing us with
  | nil => simp
  | cons first _ ih =>
    rw [List.zip_cons_cons, List.forall₂_cons_left_iff]
    simp only [Slot.writes_iff first, ih, List.map_cons]
    constructor
    · rintro ⟨_, _, rfl, rfl, rfl⟩
      rfl
    · rintro rfl
      exact ⟨_, _, rfl, rfl, rfl⟩

theorem templates_of_fixed (ho : OpenAll s slots xs os) (hf : ∀ slot ∈ slots, slot = fixed) :
    os.map (·.template) = xs.map .fixed := by
  induction ho with
  | nil => rfl
  | cons first _ ih =>
    rw [List.forall_mem_cons] at hf
    obtain ⟨rfl, hrest⟩ := hf
    rw [List.map_cons, List.map_cons, ih hrest, ← Option.some.inj first]

end OpenAll

end

end Slot

namespace Template

open Interning

variable {s : Store} {t u : Template} {f y : TypeId} {xs : List TypeId}

theorem applyAll_append (t : Template) (us vs : List Template) :
    applyAll t (us ++ vs) = applyAll (applyAll t us) vs := List.foldl_append

/-- Heads that become the same when they are made canonical can be exchanged. -/
theorem canonicalize_applyAll_congr (h : t.canonicalize s = u.canonicalize s) (us : List Template) :
    (applyAll t us).canonicalize s = (applyAll u us).canonicalize s := by
  induction us generalizing t u with
  | nil => exact h
  | cons v us ih => exact ih (t := application t v) (bind_congr_on h fun _ _ _ => rfl)

/-- A chain of stored applications, written out, is made its end. -/
theorem canonicalize_applies (hs : s.WellFormed) (h : s.Applies f xs y) :
    (applyAll (fixed f) (xs.map fixed)).canonicalize s = .ok (fixed y) s := by
  induction h with
  | nil f => rfl
  | @cons f x g y xs first _ ih =>
    have hfirst : (application (fixed f) (fixed x)).canonicalize s = (fixed g).canonicalize s := by
      refine canonicalize_application_eq_ok_iff.mpr ⟨fixed f, s, fixed x, s, rfl, rfl, ?_⟩
      rw [collapse_fixed]
      exact map_eq_ok_iff.mpr ⟨g, apply_of_split? hs first, rfl⟩
    exact (canonicalize_applyAll_congr hfirst (xs.map fixed)).trans ih

end Template

namespace Decomposition

variable {s : Store} {p : Spine} {slots : List Slot} {form : Form} {residuals : List TypeId}
  {x : TypeId}

/-- The holes used are those of the form. -/
theorem holes_eq (d : Decomposition s p slots form residuals) :
    Slot.holes slots = Finset.range form.arity := by
  ext h
  rw [Slot.holes, List.mem_toFinset, Finset.mem_range, d.arity_eq]
  exact ⟨fun hh => Nat.lt_succ_of_le (d.hole_le hh), d.hole_mem⟩

/-- The residual of a hole is the type that the slots select for it. -/
theorem getElem?_residuals_iff (d : Decomposition s p slots form residuals) (h : Hole)
    (y : TypeId) : residuals[h]? = some y ↔ ∃ q ∈ slots.zip p.arguments, q.1.Selects s q.2 h y := by
  rw [d.opened.exists_selects_iff]
  constructor
  · intro hy
    obtain ⟨hlt, rfl⟩ := List.getElem?_eq_some_iff.mp hy
    exact ((residual?_eq_some_iff ..).mp (d.residual?_eq hlt)).1
  · rintro ⟨o, ho, htaken⟩
    exact d.residual_of_taken o ho h y htaken

theorem fits (d : Decomposition s p slots form residuals) : Slot.Fits s slots p.arguments := by
  refine ⟨d.opened.length_eq.1, ?_, Slot.applications_of_writes (d.opened.writes_iff.mpr rfl),
    Slot.agree_of_residuals d.getElem?_residuals_iff⟩
  rw [d.holes_eq]
  rcases d.arity_cases with h | h
  · exact .inl (by rw [h]; rfl)
  · exact .inr (by rw [h]; rfl)

/-- The head reaches the stored partial application by the arguments that are kept. -/
theorem head_applies (d : Decomposition s (s.spine x) slots form residuals) :
    s.Applies (s.spine x).head ((s.spine x).arguments.take (Slot.kept slots)) d.start := by
  obtain ⟨start, hstart, hfirst, _⟩ := s.spine_cut x (Slot.kept slots) d.kept_le
  rwa [Option.some.inj (hstart.symm.trans d.start_eq)] at hfirst

/-- The kept arguments are folded into the stored partial application, and nothing else is. -/
theorem canonicalize_eq (hs : s.WellFormed) (hx : x ∈ s)
    (d : Decomposition s (s.spine x) slots form residuals) :
    (Template.applyAll (.fixed (s.spine x).head) (d.openings.map (·.template))).canonicalize s =
      .ok form.body s := by
  have hkept := (d.opened.take (Slot.kept slots)).templates_of_fixed (Slot.take_kept slots)
  have hsplit : d.openings.map (·.template) =
      ((s.spine x).arguments.take (Slot.kept slots)).map .fixed ++
        (d.openings.drop (Slot.kept slots)).map (·.template) := by
    rw [← hkept, ← List.map_append, List.take_append_drop]
  have hstart := Template.canonicalize_applies hs d.head_applies
  have hform :=
    Template.canonicalize_of_canonical (s := s) (d.valid hs (Store.spine_over hs hx)).canonical
  rw [hsplit, Template.applyAll_append, Template.canonicalize_applyAll_congr
    (u := .fixed d.start) hstart]
  rwa [congrArg Form.body d.form_eq] at hform ⊢

/-- The head applied to what the slots write makes the form, and nothing is stored for it. -/
theorem ofTemplate_eq (hs : s.WellFormed) (hx : x ∈ s)
    (d : Decomposition s (s.spine x) slots form residuals) :
    Form.ofTemplate form.arity
      (Template.applyAll (.fixed (s.spine x).head) (d.openings.map (·.template))) s =
        .ok form s := by
  refine Form.ofTemplate_eq_ok_iff.mpr ⟨?_, rfl, d.canonicalize_eq hs hx⟩
  refine (Form.fault?_eq_none_iff ..).mpr ⟨d.arity_cases, ?_⟩
  intro h hh
  rw [Template.holes_applyAll, Template.holes_fixed, List.nil_append, List.mem_flatMap] at hh
  obtain ⟨u, hu, hh⟩ := hh
  obtain ⟨o, ho, rfl⟩ := List.mem_map.mp hu
  exact d.hole_lt ho hh

end Decomposition

namespace Slot.Fits

variable {s : Store} {slots : List Slot} {xs : List TypeId} {x : TypeId} {os : List Opening}
  {k : Hole}

/-- The holes are those up to the largest one. -/
theorem exists_largest (h : Fits s slots xs) :
    ∃ n < Form.maxArity, ∀ k, k ∈ slots.filterMap hole? ↔ k < n + 1 := by
  have hrange : ∃ n < Form.maxArity, holes slots = Finset.range (n + 1) := by
    rcases h.holes_eq with hholes | hholes
    · exact ⟨0, by decide, hholes⟩
    · exact ⟨1, by decide, hholes⟩
  obtain ⟨n, hlt, hholes⟩ := hrange
  refine ⟨n, hlt, ?_⟩
  intro k
  rw [← List.mem_toFinset, ← holes, hholes, Finset.mem_range]

/-- The openings take one type out for each hole that is used. -/
theorem exists_residual (h : Fits s slots xs) (ho : OpenAll s slots xs os)
    (hk : k ∈ slots.filterMap hole?) : ∃ y, residual? os k = some y := by
  obtain ⟨o, hmem, y, hy⟩ := (ho.hole_mem_iff k).mpr hk
  obtain ⟨q, hq, hselects⟩ := ho.exists_selects_iff.mpr ⟨o, hmem, hy⟩
  refine ⟨y, (residual?_eq_some_iff ..).mpr ⟨⟨o, hmem, hy⟩, ?_⟩⟩
  intro o' hmem' z hz
  obtain ⟨r, hr, hselects'⟩ := ho.exists_selects_iff.mpr ⟨o', hmem', hz⟩
  exact h.agree r hr q hq k z y hselects' hselects

/-- Slots that fit the arguments of a type match the type. -/
theorem exists_decomposition (h : Fits s slots (s.spine x).arguments) :
    ∃ form residuals, Nonempty (Decomposition s (s.spine x) slots form residuals) := by
  obtain ⟨os, hos⟩ := exists_openAll h.count h.applications
  obtain ⟨n, hlt, hmem⟩ := h.exists_largest
  have hlargest : (slots.filterMap hole?).max? = some n := by
    rw [List.max?_eq_some_iff]
    exact ⟨(hmem n).mpr (Nat.lt_succ_self n), fun k hk => Nat.le_of_lt_succ ((hmem k).mp hk)⟩
  have hkept : kept slots ≤ (s.spine x).arity := by
    rw [← Spine.length_arguments, ← h.count]
    exact (List.takeWhile_prefix _).length_le
  obtain ⟨start, hstart, _⟩ := s.spine_cut x (kept slots) hkept
  refine ⟨_, (List.range (n + 1)).map fun k => (residual? os k).getD default,
    ⟨n, os, start, hos, hlargest, hlt, by simp, ?_, hstart, rfl⟩⟩
  intro k hk
  obtain ⟨y, hy⟩ := h.exists_residual hos ((hmem k).mpr hk)
  simp [hk, hy]

end Slot.Fits

/-- Slots match a type exactly if there is one for each argument, the holes used are the first or
the first two, each partial slot stands at an application, and slots with the same hole select the
same type. The residuals are then the selected types, the form has as many holes as the slots, and
it is what the head applied to the templates written for the arguments is made, without storing
anything. -/
theorem decompose_by_slots {s : Store} (hs : s.Reachable) {x : TypeId} (hx : x ∈ s)
    (slots : List Slot) :
    ((Form.decompose s (s.spine x) slots).isSome = true ↔ Slot.Fits s slots (s.spine x).arguments) ∧
    ∀ form residuals, Form.decompose s (s.spine x) slots = some (form, residuals) →
      (∀ h y, residuals[h]? = some y ↔
        ∃ q ∈ slots.zip (s.spine x).arguments, q.1.Selects s q.2 h y) ∧
      form.arity = (Slot.holes slots).card ∧
      ∃ us, List.Forall₂ (fun q u => q.1.Writes s q.2 u) (slots.zip (s.spine x).arguments) us ∧
        Form.ofTemplate form.arity (Template.applyAll (.fixed (s.spine x).head) us) s =
          .ok form s := by
  constructor
  · rw [Option.isSome_iff_exists]
    constructor
    · rintro ⟨⟨form, residuals⟩, h⟩
      obtain ⟨d⟩ := (Form.decompose_eq_some_iff ..).mp h
      exact d.fits
    · intro h
      obtain ⟨form, residuals, hd⟩ := h.exists_decomposition
      exact ⟨(form, residuals), (Form.decompose_eq_some_iff ..).mpr hd⟩
  · intro form residuals h
    obtain ⟨d⟩ := (Form.decompose_eq_some_iff ..).mp h
    refine ⟨d.getElem?_residuals_iff, ?_, d.openings.map (·.template), ?_, ?_⟩
    · rw [d.holes_eq, Finset.card_range]
    · exact d.opened.writes_iff.mpr rfl
    · exact d.ofTemplate_eq hs.wellFormed hx

/-- The store `pairs` with `Pair (Pair Int String) Int`. -/
def Store.nestedPairs : Store := (Operation.applyAll ⟨2⟩ [⟨4⟩, ⟨0⟩]).after .pairs

theorem Store.reachable_nestedPairs : nestedPairs.Reachable :=
  reachable_pairs.step (.applyAll ⟨2⟩ [⟨4⟩, ⟨0⟩]) (by decide +kernel)

/-- `Pair (Pair Int String) Int` is `\a b -> Pair (Pair Int a) b` at `String` and `Int`. One hole
for both of its arguments does not match, for they differ. -/
theorem slots_of_nested_pair :
    Slot.Fits .nestedPairs [.partialHole 0, .hole 1] (Store.nestedPairs.spine ⟨7⟩).arguments ∧
      Form.decompose .nestedPairs (Store.nestedPairs.spine ⟨7⟩) [.partialHole 0, .hole 1] =
        some (⟨2, .application (.application (.fixed ⟨2⟩) (.application (.fixed ⟨3⟩) (.hole 0)))
          (.hole 1)⟩, [⟨1⟩, ⟨0⟩]) ∧
      (Slot.holes [.partialHole 0, .hole 1]).card = 2 ∧
      (∃ us, Form.ofTemplate 2 (Template.applyAll (.fixed ⟨2⟩) us) .nestedPairs =
        .ok ⟨2, .application (.application (.fixed ⟨2⟩) (.application (.fixed ⟨3⟩) (.hole 0)))
          (.hole 1)⟩ .nestedPairs) ∧
      ¬Slot.Fits .nestedPairs [.hole 0, .hole 0] (Store.nestedPairs.spine ⟨7⟩).arguments := by
  have hstored : ⟨7⟩ ∈ Store.nestedPairs := by decide +kernel
  have hhead : (Store.nestedPairs.spine ⟨7⟩).head = ⟨2⟩ := by decide +kernel
  have hmatched :
      Form.decompose .nestedPairs (Store.nestedPairs.spine ⟨7⟩) [.partialHole 0, .hole 1] =
        some (⟨2, .application (.application (.fixed ⟨2⟩) (.application (.fixed ⟨3⟩) (.hole 0)))
          (.hole 1)⟩, [⟨1⟩, ⟨0⟩]) := by
    decide +kernel
  have hrefused :
      Form.decompose .nestedPairs (Store.nestedPairs.spine ⟨7⟩) [.hole 0, .hole 0] = none := by
    decide +kernel
  obtain ⟨hfits, hform⟩ :=
    decompose_by_slots Store.reachable_nestedPairs hstored [.partialHole 0, .hole 1]
  obtain ⟨hcoupled, _⟩ := decompose_by_slots Store.reachable_nestedPairs hstored [.hole 0, .hole 0]
  rw [hmatched] at hfits
  rw [hrefused] at hcoupled
  obtain ⟨_, harity, us, _, hmade⟩ := hform _ _ hmatched
  rw [hhead] at hmade
  exact ⟨hfits.mp rfl, hmatched, harity.symm, ⟨us, hmade⟩, fun h => nomatch hcoupled.mpr h⟩

end FormRecovery
